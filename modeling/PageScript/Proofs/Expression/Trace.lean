import PageScript.Proofs.Expression.Recording
import PageScript.Proofs.Number.Digits

/-!
# The trace of resolving

A namespace is asked queries, one after another.  Each is the text of an expression, with a resolver
and surroundings of its own.  A query that fails leaves nothing behind, and neither does one that
looks a value up; any other appends its value to the history of its tag (`Query.Traced`).

So where nothing was recorded before, the history of a tag is what the queries under the tag have
returned (`history_after`), and a query that looks an index up answers with the value that stands
there (`Query.Recalled`).  Indices are unsigned 64-bit numbers; a greater number is no index.
-/

namespace PageScript

/-- The text of an expression with what it is resolved with. -/
structure Query where
  resolver : Resolver
  outside : Surroundings
  body : String

namespace Query

/-- The tag of the expression. -/
def tag (q : Query) : String := (Resolver.parts q.body).1

/-- The answer to a query, and the namespace after it. -/
def ask (q : Query) (ns : Namespace) : Except Error Value × Namespace :=
  let (result, scope) := q.resolver.resolve q.body ⟨ns, q.outside⟩
  (result, scope.names)

/-- The namespace after queries in order. -/
def after (queries : List Query) (ns : Namespace) : Namespace :=
  queries.foldl (fun ns q => (q.ask ns).2) ns

/-- Queries in order, each with its answer. -/
def answers : List Query → Namespace → List (Query × Except Error Value)
  | [], _ => []
  | q :: rest, ns => (q, (q.ask ns).1) :: answers rest (q.ask ns).2

/-- The values that queries under a tag return, apart from those that are looked up. -/
def returned (tag : String) (queries : List Query) (ns : Namespace) : List Value :=
  (answers queries ns).filterMap fun
    | (q, .ok v) => if q.tag = tag ∧ q.tag ≠ "vars" then some v else none
    | _ => none

/-! ## Single queries -/

/-- What one query leaves behind. -/
structure Traced (q : Query) (ns : Namespace) : Prop where
  failed : ∀ e, (q.ask ns).1 = .error e → (q.ask ns).2 = ns
  sought : q.tag = "vars" → (q.ask ns).2 = ns
  recorded : ∀ v, (q.ask ns).1 = .ok v → q.tag ≠ "vars" →
    (q.ask ns).2.history q.tag = ns.history q.tag ++ [v]
  others : ∀ tag, tag ≠ q.tag → (q.ask ns).2.history tag = ns.history tag
  imported : (q.ask ns).2.imported = ns.imported

variable {q : Query} {ns : Namespace}

theorem ask_names (q : Query) (ns : Namespace) : (q.ask ns).2 = match (q.ask ns).1 with
    | .ok v => ns.grown [] (Resolver.entryOf q.body v)
    | .error _ => ns := by
  obtain ⟨result, scope, h⟩ : ∃ result scope,
    q.resolver.resolve q.body ⟨ns, q.outside⟩ = (result, scope) := ⟨_, _, rfl⟩
  have names := Resolver.resolve_names h
  rw [ask, h]
  cases result <;> exact names

theorem ask_failed {e : Error} (h : (q.ask ns).1 = .error e) : (q.ask ns).2 = ns := by
  rw [ask_names, h]

theorem ask_sought (h : q.tag = "vars") : (q.ask ns).2 = ns :=
  congrArg Scope.names (Resolver.resolve_vars h ⟨ns, q.outside⟩)

theorem ask_recorded {v : Value} (h : (q.ask ns).1 = .ok v) (htag : q.tag ≠ "vars") :
    (q.ask ns).2 = ns.record q.tag v := by
  rw [ask_names, h, Namespace.record_eq_grown]
  exact congrArg (ns.grown []) (if_neg htag)

theorem traced (q : Query) (ns : Namespace) : q.Traced ns where
  failed _ h := ask_failed h
  sought := ask_sought
  recorded v h htag := by rw [ask_recorded h htag, Namespace.history_record_self]
  others tag h := by
    cases hanswer : (q.ask ns).1 with
    | error e => rw [ask_failed hanswer]
    | ok v =>
      by_cases htag : q.tag = "vars"
      · rw [ask_sought htag]
      · rw [ask_recorded hanswer htag, Namespace.history_record_ne h]
  imported := by
    cases hanswer : (q.ask ns).1 with
    | error e => rw [ask_failed hanswer]
    | ok v => simp [ask_names, hanswer, Namespace.grown]

/-! ## Queries in order -/

/-- A history is what it was, and then what the queries under its tag have returned. -/
theorem history_after (tag : String) (queries : List Query) (ns : Namespace) :
    (after queries ns).history tag = ns.history tag ++ returned tag queries ns := by
  induction queries generalizing ns with
  | nil => simp [after, returned, answers]
  | cons q rest ih =>
    have step : (q.ask ns).2.history tag = ns.history tag ++ returned tag [q] ns := by
      cases hanswer : (q.ask ns).1 with
      | error e => simp [ask_failed hanswer, returned, answers, hanswer]
      | ok v =>
        by_cases hvars : q.tag = "vars"
        · simp [ask_sought hvars, returned, answers, hanswer, hvars]
        · rw [ask_recorded hanswer hvars]
          by_cases htag : q.tag = tag
          · subst htag
            simp [Namespace.history_record_self, returned, answers, hanswer, hvars]
          · simp [Namespace.history_record_ne (Ne.symm htag), returned, answers, hanswer, htag]
    have split : returned tag (q :: rest) ns
        = returned tag [q] ns ++ returned tag rest (q.ask ns).2 := by
      simp only [returned, answers, ← List.filterMap_append, List.cons_append, List.nil_append]
    rw [split, ← List.append_assoc, ← step, ← ih]
    rfl

/-! ## Looking up -/

/-- The text that looks an index under a tag up. -/
def indexed (tag : String) (i : Nat) : String := "vars|" ++ tag ++ "," ++ Nat.repr i

/-- The text that looks the first value under a tag up. -/
def first (tag : String) : String := "vars|" ++ tag

/-- Queries that look a tag up find these values, by their index. -/
structure Recalled (tag : String) (values : List Value) (ns : Namespace) : Prop where
  found : ∀ r outside (i : Nat) v, (i : Int) ≤ Reading.nat64Max → values[i]? = some v →
    (ask ⟨r, outside, indexed tag i⟩ ns).1 = .ok v
  absent : ∀ r outside (i : Nat), (i : Int) ≤ Reading.nat64Max → values.length ≤ i →
    ∃ text, (ask ⟨r, outside, indexed tag i⟩ ns).1 = .error (.lookup text)
  head : ∀ r outside v, values.head? = some v → (ask ⟨r, outside, first tag⟩ ns).1 = .ok v
  empty : ∀ r outside, values = [] →
    ∃ text, (ask ⟨r, outside, first tag⟩ ns).1 = .error (.lookup text)
  /-- A number that does not fit is no index. -/
  beyond : ∀ r outside (i : Nat), Reading.nat64Max < (i : Int) →
    ∃ text, (ask ⟨r, outside, indexed tag i⟩ ns).1 = .error (.expression text)

theorem parts_vars (rest : String) : Resolver.parts ("vars|" ++ rest) = ("vars", Text.trimmed rest) := by
  rw [Resolver.parts, String.toList_append]
  rfl

/-- A tag that can be looked up: trimmed, not empty, and without a comma. -/
structure Seekable (tag : String) : Prop where
  nonempty : tag ≠ ""
  trimmed : Text.trimmed tag = tag
  unsplit : ',' ∉ tag.toList

variable {tag : String}

theorem Seekable.toList (h : Seekable tag) : ∃ c rest, tag.toList = c :: rest ∧
    Text.isBlank c = false ∧ Text.trim (c :: rest) = c :: rest := by
  have same : Text.trim tag.toList = tag.toList := by
    have := congrArg String.toList h.trimmed
    rwa [Text.trimmed, String.toList_ofList] at this
  cases hcs : tag.toList with
  | nil => exact absurd (String.toList_eq_nil_iff.mp hcs) h.nonempty
  | cons c rest =>
    rw [hcs] at same
    exact ⟨c, rest, rfl, Text.isBlank_of_trim same, same⟩

theorem lookupTarget_first (h : Seekable tag) : Resolver.lookupTarget tag = .ok (tag, 0) := by
  obtain ⟨c, rest, hcs, -, htrim⟩ := h.toList
  rw [Resolver.lookupTarget, Text.splitOnce_eq_none h.unsplit]
  dsimp only
  rw [hcs, htrim]
  dsimp only
  rw [← hcs, String.ofList_toList]

/-- Behind a bar and between blanks, the tag and the index stay as they are. -/
theorem trim_indexed (h : Seekable tag) (i : Nat) :
    Text.trim (tag ++ "," ++ Nat.repr i).toList = tag.toList ++ ',' :: (Nat.repr i).toList := by
  obtain ⟨c, rest, hcs, hc, -⟩ := h.toList
  have text : (tag ++ "," ++ Nat.repr i).toList = tag.toList ++ ',' :: (Nat.repr i).toList := by
    simp [String.toList_append]
  have front : Text.trimLeft (tag.toList ++ ',' :: (Nat.repr i).toList)
      = tag.toList ++ ',' :: (Nat.repr i).toList := by
    rw [hcs]
    exact Text.trimLeft_cons_ink hc _
  rw [text, Text.trim, front, Text.trimRight_append_ink _ (by decide),
    Text.trimRight_ink (Reading.repr_ink i)]

theorem lookupTarget_indexed (h : Seekable tag) (i : Nat) :
    Resolver.lookupTarget (Text.trimmed (tag ++ "," ++ Nat.repr i))
      = if (i : Int) ≤ Reading.nat64Max then .ok (tag, i) else .error (.expression
        ("vars index must be a non-negative integer, got '" ++ Nat.repr i ++ "'")) := by
  obtain ⟨c, rest, hcs, -, htrim⟩ := h.toList
  rw [Resolver.lookupTarget, Text.trimmed, String.toList_ofList, trim_indexed h,
    Text.splitOnce_append h.unsplit]
  dsimp only
  rw [Text.trim_ink (Reading.repr_ink i), Reading.nat64?_repr, String.ofList_toList, hcs, htrim]
  by_cases hi : (i : Int) ≤ Reading.nat64Max
  · rw [if_pos hi, if_pos hi]
    dsimp only
    rw [← hcs, String.ofList_toList]
  · rw [if_neg hi, if_neg hi]

/-- A query for a tag and an index looks them up in the namespace. -/
theorem ask_vars (r : Resolver) (outside : Surroundings) (ns : Namespace) (rest : String) :
    (ask ⟨r, outside, "vars|" ++ rest⟩ ns).1 =
      Resolver.lookupTarget (Text.trimmed rest) >>= fun (name, index) => ns.lookup name index := by
  rw [ask, Resolver.resolve, parts_vars]
  dsimp only
  rw [if_pos rfl]
  cases Resolver.lookupTarget (Text.trimmed rest) with
  | error e => rfl
  | ok target =>
    obtain ⟨name, index⟩ := target
    show (((match ns.lookup name index with
      | .ok v => pure v
      | .error e => throw e : Resolving Value) ⟨ns, outside⟩).1) = ns.lookup name index
    cases ns.lookup name index <;> rfl

/-- The history of a tag is what queries for it find. -/
theorem recalled (h : Seekable tag) (ns : Namespace) : Recalled tag (ns.history tag) ns := by
  have lookup_at (i : Nat) (v : Value) (hv : (ns.history tag)[i]? = some v) :
      ns.lookup tag i = .ok v := by simp [Namespace.lookup, hv]
  have lookup_beyond (i : Nat) (hi : (ns.history tag).length ≤ i) :
      ∃ text, ns.lookup tag i = .error (.lookup text) := by
    rw [Namespace.lookup, List.getElem?_eq_none hi]
    dsimp only
    split <;> exact ⟨_, rfl⟩
  have at_index (r : Resolver) (outside : Surroundings) (i : Nat) :
      (ask ⟨r, outside, indexed tag i⟩ ns).1 =
        (if (i : Int) ≤ Reading.nat64Max then .ok (tag, i) else .error (.expression
          ("vars index must be a non-negative integer, got '" ++ Nat.repr i ++ "'")))
        >>= fun (name, index) => ns.lookup name index := by
    rw [indexed, String.append_assoc, String.append_assoc, ask_vars, ← String.append_assoc,
      lookupTarget_indexed h]
  have at_first (r : Resolver) (outside : Surroundings) :
      (ask ⟨r, outside, first tag⟩ ns).1 = ns.lookup tag 0 := by
    rw [first, ask_vars, h.trimmed, lookupTarget_first h]
    rfl
  refine ⟨fun r outside i v hi hv => ?_, fun r outside i hi hlength => ?_, fun r outside v hv => ?_,
    fun r outside hnone => ?_, fun r outside i hi => ?_⟩
  · rw [at_index, if_pos hi]
    exact lookup_at i v hv
  · rw [at_index, if_pos hi]
    exact lookup_beyond i hlength
  · rw [at_first]
    exact lookup_at 0 v (by rw [← List.head?_eq_getElem?, hv])
  · rw [at_first]
    exact lookup_beyond 0 (by simp [hnone])
  · rw [at_index, if_neg (by omega)]
    exact ⟨_, rfl⟩

/-! ## From the start -/

/-- Where nothing is recorded yet, every query leaves its own trace and no other, and what a tag is
looked up for is what the queries under it have returned. -/
theorem resolving_leaves_its_trace (imported : List (String × Callable)) (queries : List Query) :
    let start : Namespace := ⟨imported, []⟩
    (∀ front q back, queries = front ++ q :: back → q.Traced (after front start)) ∧
      ∀ tag, Seekable tag → Recalled tag (returned tag queries start) (after queries start) := by
  intro start
  refine ⟨fun front q back _ => q.traced _, fun tag htag => ?_⟩
  have history : (after queries start).history tag = returned tag queries start :=
    history_after tag queries start
  rw [← history]
  exact recalled htag _

/-- A query where no data is known and nothing happens outside. -/
def bare (body : String) : Query :=
  ⟨⟨fun _ => pure none, .error⟩, .still, body⟩

/-- Two literals, with a look-up and a tag without meaning between them. -/
def mixed : List Query := [bare " eval |1", bare "vars|eval,7", bare "dance", bare "eval|2"]

theorem resolving_leaves_its_trace_mixed :
    Seekable "eval" ∧ ∃ v w, returned "eval" mixed .empty = [v, w] ∧ v.toText = "1" ∧ w.toText = "2" ∧
      (ask (bare "vars|eval") (after mixed .empty)).1 = .ok v ∧
      (ask (bare "vars|eval,1") (after mixed .empty)).1 = .ok w ∧
      ∃ text, (ask (bare "vars|eval,2") (after mixed .empty)).1 = .error (.lookup text) := by
  have plain : Seekable "eval" := ⟨by decide, by decide +kernel, by decide⟩
  have texts : (returned "eval" mixed .empty).map Value.toText = ["1", "2"] := by decide +kernel
  obtain ⟨v, rest, hreturned, hv, hrest⟩ := List.map_eq_cons_iff.mp texts
  obtain ⟨w, rfl, hw⟩ := List.map_eq_singleton_iff.mp hrest
  have recalled := (resolving_leaves_its_trace [] mixed).2 "eval" plain
  change Recalled "eval" (returned "eval" mixed .empty) (after mixed .empty) at recalled
  rw [hreturned] at recalled
  exact ⟨plain, v, w, hreturned, hv, hw, recalled.head _ _ v rfl,
    recalled.found _ _ 1 w (by decide) rfl, recalled.absent _ _ 2 (by decide) (Nat.le_refl 2)⟩

/-- A number of more than 64 bits is not looked up, although nothing has been recorded there. -/
theorem index_beyond_bits_not_looked_up :
    let queries := [bare "eval|1"]
    Seekable "eval" ∧ (returned "eval" queries .empty).length ≤ 18446744073709551616 ∧
      indexed "eval" 18446744073709551616 = "vars|eval,18446744073709551616" ∧
      (ask (bare "vars|eval,18446744073709551616") (after queries .empty)).1 = .error (.expression
        "vars index must be a non-negative integer, got '18446744073709551616'") := by
  refine ⟨⟨by decide, by decide +kernel, by decide⟩, ?_, ?_, ?_⟩
  · have values : (returned "eval" [bare "eval|1"] .empty).length = 1 := by decide +kernel
    rw [values]
    decide
  · decide +kernel
  · rfl

end Query

end PageScript
