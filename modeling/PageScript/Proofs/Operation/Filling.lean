import Mathlib.Data.List.Forall2
import PageScript.Proofs.Expression.Tokens
import PageScript.Proofs.Operation.Validation
import PageScript.Proofs.Session.Calls

/-!
# Filling fields row by row

The argument of an operation that fills fields is an object from selectors to values, or a list of
rows, which are pairs of a selector and a value or such objects, in any order (`Rows`).  It is laid
out as values first, and that spreads some lists and keeps others whole.  Read as rows afterwards, a
list gives its items all the same, whatever it begins with (`Action.rows_shape`).

Every selector and its value make a wait and a writing.  These calls are made in order, up to the
first that fails; and if a single row is malformed, none of them is made
(`Operation.fills_in_order`).
-/

namespace PageScript

/-! ## Calls in order -/

namespace Session

variable {σ : Type} (s : Session σ)

/-- All calls succeed when they are made in order. -/
def Answers (x : σ) (cs : List Call) : Prop :=
  ∀ front c back, cs = front ++ c :: back → (s.perform c (s.after x front)).result.isOk = true

/-- What comes of calls in order: the result, the state that is left, and the calls that were made.
They are all made, or those up to the first that fails. -/
inductive InOrder (x : σ) (cs : List Call) : Except Error Unit → σ × List Deed → Prop
  | all (succeeded : s.Answers x cs) :
      InOrder x cs (.ok ()) (s.after x cs, cs.map (⟨·, false⟩))
  | upTo {front back : List Call} {c : Call} {e : Error} (split : cs = front ++ c :: back)
      (succeeded : s.Answers x front) (failed : (s.perform c (s.after x front)).result = .error e) :
      InOrder x cs (.error e) (s.after x (front ++ [c]), front.map (⟨·, false⟩) ++ [⟨c, true⟩])

variable {s} {x : σ} {c : Call} {cs : List Call}

theorem Answers.cons (hc : (s.perform c x).result.isOk = true)
    (h : s.Answers (s.perform c x).after cs) : s.Answers x (c :: cs) := by
  intro front d back heq
  cases front with
  | nil =>
    cases heq
    exact hc
  | cons first front =>
    cases heq
    exact h front d back rfl

theorem InOrder.cons (hc : (s.perform c x).result.isOk = true) {r : Except Error Unit} {y : σ}
    {deeds : List Deed} (h : s.InOrder (s.perform c x).after cs r (y, deeds)) :
    s.InOrder x (c :: cs) r (y, ⟨c, false⟩ :: deeds) := by
  cases h with
  | all succeeded => exact .all (.cons hc succeeded)
  | @upTo front back d e split succeeded failed =>
    have whole : c :: cs = (c :: front) ++ d :: back := by
      rw [split]
      rfl
    exact .upTo whole (.cons hc succeeded) failed

end Session

/-- Calls one after another are made in order. -/
theorem Doing.callAll_inOrder {σ : Type} (s : Session σ) (cs : List Call) (x : σ)
    (log : List Deed) (outside : Surroundings) :
    ∃ r y deeds outside', callAll s.recorded cs ⟨(x, log), outside⟩
        = (r, ⟨(y, log ++ deeds), outside'⟩) ∧ s.InOrder x cs r (y, deeds) := by
  induction cs generalizing x log outside with
  | nil =>
    refine ⟨.ok (), x, [], outside, ?_, .all fun front c back => ?_⟩
    · rw [List.append_nil]
      rfl
    · simp
  | cons c cs ih =>
    obtain ⟨d, hd⟩ : ∃ d : Deed, d = ⟨c, !(s.perform c x).result.isOk⟩ := ⟨_, rfl⟩
    obtain ⟨outside', hcall⟩ : ∃ outside', call s.recorded c ⟨(x, log), outside⟩
        = ((s.perform c x).result, ⟨((s.perform c x).after, log ++ [d]), outside'⟩) :=
      ⟨_, by rw [hd]; rfl⟩
    rw [callAll]
    cases hresult : (s.perform c x).result with
    | error e =>
      rw [hresult] at hcall hd
      refine ⟨.error e, (s.perform c x).after, [d], outside', Lockstep.bind_error hcall _, ?_⟩
      rw [hd]
      have first : c :: cs = [] ++ c :: cs := rfl
      exact .upTo first (fun front d back => by simp) hresult
    | ok reply =>
      rw [hresult] at hcall hd
      obtain ⟨r, y, deeds, outside'', hrest, inOrder⟩ :=
        ih (s.perform c x).after (log ++ [d]) outside'
      refine ⟨r, y, d :: deeds, outside'', ?_, ?_⟩
      · rw [Lockstep.bind_ok hcall, hrest, List.append_assoc]
        rfl
      · rw [hd]
        exact .cons (by rw [hresult]; rfl) inOrder

/-! ## Traversals -/

section

variable {α β : Type}

theorem mapM_eq_some_iff {f : α → Option β} {xs : List α} {ys : List β} :
    xs.mapM f = some ys ↔ List.Forall₂ (fun x y => f x = some y) xs ys := by
  induction xs generalizing ys with
  | nil => simp [eq_comm]
  | cons x xs ih =>
    rw [List.mapM_cons, List.forall₂_cons_left_iff]
    simp only [Option.bind_eq_bind, Option.bind_eq_some_iff, ih, Option.pure_def, Option.some_inj]
    constructor
    · rintro ⟨y, hy, ys', hys, rfl⟩
      exact ⟨y, ys', hy, hys, rfl⟩
    · rintro ⟨y, ys', hy, hys, rfl⟩
      exact ⟨y, hy, ys', hys, rfl⟩

theorem map_eq_ok_iff {r : Except Error α} {f : α → β} {b : β} :
    r.map f = .ok b ↔ ∃ a, r = .ok a ∧ f a = b := by
  cases r <;> simp [Except.map]

theorem toOption_eq_some_iff {r : Except Error β} {b : β} : r.toOption = some b ↔ r = .ok b := by
  cases r <;> simp [Except.toOption]

theorem toOption_mapM (f : α → Except Error β) (xs : List α) :
    (xs.mapM f).toOption = xs.mapM fun x => (f x).toOption := by
  induction xs with
  | nil => rfl
  | cons x xs ih =>
    rw [List.mapM_cons, List.mapM_cons, ← ih]
    cases f x with
    | error e => rfl
    | ok y => cases xs.mapM f <;> rfl

theorem mapM_eq_ok_iff {f : α → Except Error β} {xs : List α} {ys : List β} :
    xs.mapM f = .ok ys ↔ List.Forall₂ (fun x y => f x = .ok y) xs ys := by
  rw [← toOption_eq_some_iff, toOption_mapM, mapM_eq_some_iff]
  simp only [toOption_eq_some_iff]

end

/-! ## Rows -/

/-- A row of scalars, with the selectors and values that it holds. -/
inductive Row : Value → List (String × String) → Prop
  | pair {selector value : Value} {s t : String} (hselector : selector.scalarText = some s)
      (hvalue : value.scalarText = some t) : Row (.list [selector, value]) [(s, t)]
  | fields {fields : List (String × Value)} {pairs : List (String × String)}
      (h : List.Forall₂ (fun field pair => field.1 = pair.1 ∧ field.2.scalarText = some pair.2)
        fields pairs) : Row (.object fields) pairs

/-- The rows of an argument, with the selectors and values that they hold together. -/
inductive Rows : Value → List (String × String) → Prop
  | nothing : Rows .null []
  | single {fields : List (String × Value)} {pairs : List (String × String)}
      (h : Row (.object fields) pairs) : Rows (.object fields) pairs
  | list {rows : List Value} {pairss : List (List (String × String))}
      (h : List.Forall₂ Row rows pairss) : Rows (.list rows) pairss.flatten

/-- A malformed row spoils the whole list, wherever it stands. -/
theorem Rows.not_of_malformed {rows : List Value} {row : Value} (hrow : row ∈ rows)
    (h : ∀ pairs, ¬Row row pairs) : ∀ pairs, ¬Rows (.list rows) pairs := by
  rintro _ (_ | _ | hrows)
  induction hrows with
  | nil => cases hrow
  | @cons first pairs rest pairss hfirst _ ih =>
    rcases List.mem_cons.mp hrow with rfl | hrow
    · exact h pairs hfirst
    · exact ih hrow

namespace Action

theorem row?_eq_some_iff {v : Value} {pairs : List (String × String)} :
    row? v = some pairs ↔ Row v pairs := by
  constructor
  · intro h
    unfold row? at h
    split at h
    · refine .fields ((mapM_eq_some_iff.mp h).imp fun field pair hpair => ?_)
      obtain ⟨t, ht, rfl⟩ := Option.map_eq_some_iff.mp hpair
      exact ⟨rfl, ht⟩
    · simp only [Option.bind_eq_bind, Option.bind_eq_some_iff] at h
      obtain ⟨s, hs, t, ht, heq⟩ := h
      cases heq
      exact .pair hs ht
    · cases h
  · rintro (⟨hs, ht⟩ | h)
    · simp [row?, hs, ht]
    · refine mapM_eq_some_iff.mpr (h.imp fun field pair hpair => ?_)
      exact Option.map_eq_some_iff.mpr ⟨_, hpair.2, by rw [hpair.1]⟩

/-- The rows that an argument is read as. -/
def items : Value → List Value
  | .null => []
  | .list rows => rows
  | v => [v]

/-- A list that is spread and a list that is kept whole give their items alike. -/
theorem items_shape (v : Value) :
    (match Arguments.shape (some v) with
      | [.list rows] => rows
      | values => values) = items v := by
  cases v with
  | null | bool _ | number _ | text _ | object _ => rfl
  | list rows =>
    cases rows with
    | nil => rfl
    | cons first rest => cases first <;> rfl

theorem rows_iff_items {v : Value} {pairs : List (String × String)} :
    Rows v pairs ↔ ∃ pairss, List.Forall₂ Row (items v) pairss ∧ pairss.flatten = pairs := by
  constructor
  · rintro (_ | h | h)
    · exact ⟨[], .nil, rfl⟩
    · exact ⟨[pairs], .cons h .nil, by simp⟩
    · exact ⟨_, h, rfl⟩
  · rintro ⟨pairss, h, rfl⟩
    cases v with
    | null =>
      cases h
      exact .nothing
    | list rows => exact .list h
    | object fields =>
      obtain ⟨pairs, _, hrow, hnil, rfl⟩ := List.forall₂_cons_left_iff.mp h
      cases hnil
      simpa using Rows.single hrow
    | bool _ | number _ | text _ =>
      obtain ⟨pairs, _, hrow, -, -⟩ := List.forall₂_cons_left_iff.mp h
      cases hrow

/-- Of an argument that is laid out as values, its rows are read, or it is refused. -/
theorem rows_shape (op : String) {v : Value} {pairs : List (String × String)} :
    rows ⟨op, Arguments.shape (some v)⟩ = .ok pairs ↔ Rows v pairs := by
  rw [rows_iff_items, ← items_shape]
  unfold rows
  rw [map_eq_ok_iff]
  refine exists_congr fun pairss => and_congr_left fun _ => ?_
  rw [mapM_eq_ok_iff]
  constructor
  · refine fun h => h.imp fun row pairs hread => row?_eq_some_iff.mp ?_
    cases hrow : row? row with
    | none => simp [hrow] at hread
    | some found => simpa [hrow] using hread
  · refine fun h => h.imp fun row pairs hrow => ?_
    rw [row?_eq_some_iff.mpr hrow]

theorem rows_complains (args : Arguments) :
    FailsWith (fun e => ∃ t, e = .argument t) (rows args) := by
  unfold rows
  refine .of_map (.of_mapM (fun row => ?_) _) _
  cases row? row with
  | none => exact .of_error ⟨_, rfl⟩
  | some pairs => exact .of_ok pairs

end Action

/-! ## Filling -/

theorem Command.arguments_of_no_tokens {v : Value} (hv : v.tokens = []) (name : String)
    (r : Resolver) (scope : Scope) :
    (withArgument name v).arguments r scope
      = (.ok ⟨name, Arguments.shape (some v)⟩, scope) := by
  unfold withArgument
  split
  · next hnull =>
    cases v with
    | null => rfl
    | bool _ | number _ | text _ | list _ | object _ => cases hnull
  · have resolved := Resolver.resolveValue_of_no_tokens (r := r) hv scope
    show (r.resolveValue v >>= _) scope = _
    rw [Lockstep.bind_ok resolved]
    rfl

namespace Operation

/-- Both operations write as usual; the first one clears the fields before. -/
theorem ofOperation_filling (config : Config) {op : Operation} {clear : Bool}
    (hop : (op, clear) ∈ [(setValues, true), (fill, false)]) (args : Arguments) :
    Action.ofOperation config op args = (Action.rows args).map fun pairs =>
      .calls (pairs.flatMap fun (selector, text) =>
        [.waitFor (.presence selector) config.timeout,
          .setValue selector text ⟨clear, true, false⟩]) := by
  have filling : Action.ofOperation config op args = Action.filling config args clear := by
    simp only [List.mem_cons, Prod.mk.injEq, List.not_mem_nil, or_false] at hop
    obtain ⟨rfl, rfl⟩ | ⟨rfl, rfl⟩ := hop <;> rfl
  rw [filling, Action.filling]
  cases Action.rows args <;> rfl

/-- Filling writes the selectors and values of all rows in the order in which they stand, each after
a wait for its element, and ends with the first call that fails.  If the argument does not consist
of rows, nothing is called. -/
theorem fills_in_order {σ : Type} (s : Session σ) {op : Operation} {clear : Bool}
    (hop : (op, clear) ∈ [(setValues, true), (fill, false)]) {v : Value} (hv : v.tokens = [])
    {x : σ} (hrunning : s.status x = .running) (r : Resolver) (scope : Scope)
    (outside : Surroundings) :
    let args : Arguments := ⟨op.name, Arguments.shape (some v)⟩
    let world : World (σ × List Deed) := ⟨(x, []), outside⟩
    (Command.withArgument op.name v).arguments r scope = (.ok args, scope) ∧
    (∀ pairs, Rows v pairs → ∃ result y deeds outside',
      op.perform s.recorded args world = (result, ⟨(y, deeds), outside'⟩) ∧
      s.InOrder x (pairs.flatMap fun (selector, text) =>
        [.waitFor (.presence selector) s.config.timeout,
          .setValue selector text ⟨clear, true, false⟩]) result (y, deeds)) ∧
    ((∀ pairs, ¬Rows v pairs) →
      ∃ t, op.perform s.recorded args world = (.error (.argument t), world)) := by
  intro args world
  have action := ofOperation_filling s.recorded.config hop args
  have laidOut := Command.arguments_of_no_tokens hv op.name r scope
  refine ⟨laidOut, fun pairs hpairs => ?_, fun hnone => ?_⟩
  · rw [(Action.rows_shape op.name).mpr hpairs] at action
    rw [perform_running (w := world) action hrunning]
    exact Doing.callAll_inOrder s _ x [] outside
  · cases hrows : Action.rows args with
    | ok pairs => exact absurd ((Action.rows_shape op.name).mp hrows) (hnone pairs)
    | error e =>
      obtain ⟨t, rfl⟩ := Action.rows_complains args e hrows
      rw [hrows] at action
      exact ⟨t, perform_unfit (w := world) action hrunning⟩

/-- In the first list an object stands in front of two pairs, and the element of the first pair is
not there.  By then the fields of the object have been filled.  In the second list the last row is
no pair. -/
theorem fills_in_order_mixed :
    let v : Value := .list [.object [("#a", .int 1), ("#b", .text "x")],
      .list [.text "#c", .bool true], .list [.text "#a", .null]]
    let unfit : Value := .list [.list [.text "#a", .text "1"], .list [.text "#b"]]
    let field : Field := ⟨"", "", none, false, true, true, .zero false⟩
    let page : Page :=
      ⟨false, "", "", "", [("#a", [field]), ("#b", [field])], [], [], [], .null, []⟩
    let world : World (Page × List Deed) := ⟨(page, []), .still⟩
    let wait (selector : String) : Call := .waitFor (.presence selector) 30000000000
    let write (selector text : String) : Call := .setValue selector text ⟨false, true, false⟩
    let done (v : Value) :=
      fill.perform (Page.session .usual).recorded ⟨"fill", Arguments.shape (some v)⟩ world
    (fill, false) ∈ [(setValues, true), (fill, false)] ∧
    (Page.session .usual).status page = .running ∧
    (v.tokens = [] ∧ Rows v [("#a", "1"), ("#b", "x"), ("#c", "true"), ("#a", "")] ∧
      (Page.session .usual).InOrder page [wait "#a", write "#a" "1", wait "#b", write "#b" "x",
        wait "#c", write "#c" "true", wait "#a", write "#a" ""] (done v).1 (done v).2.session ∧
      (done v).2.session.2 = [⟨wait "#a", false⟩, ⟨write "#a" "1", false⟩, ⟨wait "#b", false⟩,
        ⟨write "#b" "x", false⟩, ⟨wait "#c", true⟩]) ∧
    (unfit.tokens = [] ∧ (∀ pairs, ¬Rows unfit pairs) ∧
      ∃ t, done unfit = (.error (.argument t), world)) := by
  intro v unfit field page world wait write done
  have hop : (fill, false) ∈ [(setValues, true), (fill, false)] := by simp
  have running : (Page.session .usual).status page = .running := rfl
  have plain : v.tokens = [] := by decide +kernel
  have plain' : unfit.tokens = [] := by decide +kernel
  have rows : Rows v [("#a", "1"), ("#b", "x"), ("#c", "true"), ("#a", "")] :=
    (Action.rows_shape "fill").mp (by decide +kernel)
  have none : ∀ pairs, ¬Rows unfit pairs := by
    refine Rows.not_of_malformed (List.mem_cons_of_mem _ List.mem_cons_self) fun pairs h => ?_
    cases h
  let r : Resolver := ⟨Fake.fixed [], .empty⟩
  let scope : Scope := ⟨.empty, world.outside⟩
  obtain ⟨-, makes, -⟩ :=
    fills_in_order (Page.session .usual) hop plain running r scope world.outside
  obtain ⟨-, -, refuses⟩ :=
    fills_in_order (Page.session .usual) hop plain' running r scope world.outside
  obtain ⟨result, y, deeds, outside', hdone, inOrder⟩ := makes _ rows
  have same : done v = (result, ⟨(y, deeds), outside'⟩) := hdone
  refine ⟨hop, running, ⟨plain, rows, ?_, ?_⟩, plain', none, refuses none⟩
  · rw [same]
    exact inOrder
  · decide +kernel

end Operation

end PageScript
