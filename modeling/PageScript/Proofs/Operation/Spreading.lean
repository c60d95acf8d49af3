import PageScript.Proofs.Operation.Filling

/-!
# Spreading a code over inputs

A code is spread over the elements of a selector: the first element is given its first character,
the next one the next, and so on.  The elements are waited for and counted first.  If there are fewer
of them than the code has characters, nothing is written at all.  Otherwise the writings go in order up
to the first that fails (`Operation.fillOtp_spreads`).  All this is so for every session, whatever
waiting, counting and writing do to its page.

What the elements hold afterwards depends on what a writing does.  `Session.Typing` says that the
writings of a code, made one after another, concern an element each; then a first part of the code
stands in the elements, and the rest of them is as it was behind the wait.  The pages held in memory
are such (`Page.session_typing`).
-/

namespace PageScript

/-! ## Elements with values -/

/-- The writings of a code from a position on, up to the first that fails, leave the values of other
elements alone, and each that succeeds gives its character to its element. -/
def Session.Typing {σ : Type} (s : Session σ) (selector : String) (values : σ → List String) :
    (i : Nat) → (code : List Char) → σ → Prop
  | _, [], _ => True
  | i, c :: code, x =>
    let typed := s.perform (.setValueAt selector i (String.singleton c)) x
    (∀ j, j ≠ i → (values typed.after)[j]? = (values x)[j]?) ∧
      (typed.result = .ok () → values typed.after = (values x).set i (String.singleton c) ∧
        s.Typing selector values (i + 1) code typed.after)

namespace Page

/-- The values of the elements of a selector. -/
def values (selector : String) (p : Page) : List String := (p.fields selector).map (·.value)

/-- Setting a value replaces it, or leaves the page alone. -/
theorem values_setValueAt (config : Config) (selector v : String) (i : Nat) (p : Page) :
    let outcome := (session config).perform (.setValueAt selector i v) p
    values selector outcome.after = (values selector p).set i v ∨
      outcome.result ≠ .ok () ∧ outcome.after = p := by
  intro outcome
  cases hfault : p.faults.lookup (Call.setValueAt selector i v).name with
  | some text =>
    have refused : outcome = ⟨.error (.actionFailed text), [], p⟩ := by
      simp [outcome, session, hfault]
    exact .inr (by simp [refused])
  | none =>
    cases hfield : (p.fields selector)[i]? with
    | none => exact .inr (by simp [outcome, session, hfault, answer, hfield])
    | some f =>
      refine .inl ?_
      obtain ⟨first, rest, hfields⟩ := List.exists_cons_of_ne_nil (l := p.fields selector) (by
        rintro hnil
        simp [hnil] at hfield)
      have after : outcome.after
          = p.putFields selector ((p.fields selector).set i { f with value := v }) := by
        simp [outcome, session, hfault, answer, hfield]
      rw [after, values, fields_putFields hfields, List.map_set]
      rfl

/-- On a page every writing concerns its own element. -/
theorem session_typing (config : Config) (selector : String) (i : Nat) (code : List Char) (p : Page) :
    (session config).Typing selector (values selector) i code p := by
  induction code generalizing i p with
  | nil => trivial
  | cons c code ih =>
    have typed := values_setValueAt config selector (String.singleton c) i p
    refine ⟨fun j hj => ?_, fun hok => ⟨?_, ih _ _⟩⟩
    · rcases typed with hset | ⟨-, hkept⟩
      · rw [hset, List.getElem?_set_ne (Ne.symm hj)]
      · rw [hkept]
    · rcases typed with hset | ⟨hfailed, -⟩
      · exact hset
      · exact absurd hok hfailed

end Page

/-! ## Writings one after another -/

/-- Every character of a code is written into an element of its own, from a position on. -/
def writings (selector : String) (i : Nat) (code : List Char) : List Call :=
  (code.zipIdx i).map fun (c, j) => .setValueAt selector j (String.singleton c)

theorem writings_cons (selector : String) (i : Nat) (c : Char) (code : List Char) :
    writings selector i (c :: code)
      = .setValueAt selector i (String.singleton c) :: writings selector (i + 1) code := by
  rw [writings, List.zipIdx_cons, List.map_cons]
  rfl

theorem Action.spreadFrom_eq_callAll {σ : Type} (s : Session σ) (selector : String) (i : Nat)
    (code : List Char) :
    spreadFrom s selector i code = Doing.callAll s (writings selector i code) := by
  induction code generalizing i with
  | nil => rfl
  | cons c code ih =>
    rw [spreadFrom, writings_cons, Doing.callAll]
    refine bind_congr fun _ => ih (i + 1)

theorem ok_of_isOk {r : Except Error Unit} (h : r.isOk = true) : r = .ok () := by
  cases r with
  | error e => cases h
  | ok => rfl

namespace Session

variable {σ : Type} {s : Session σ} {x : σ}

theorem Answers.head {c : Call} {cs : List Call} (h : s.Answers x (c :: cs)) :
    (s.perform c x).result.isOk = true := h [] c cs rfl

theorem Answers.tail {c : Call} {cs : List Call} (h : s.Answers x (c :: cs)) :
    s.Answers (s.perform c x).after cs := by
  intro front d back heq
  exact h (c :: front) d back (by rw [heq]; rfl)

namespace Typing

variable {selector : String} {values : σ → List String}

theorem front {i : Nat} {front back : List Char}
    (h : s.Typing selector values i (front ++ back) x) : s.Typing selector values i front x := by
  induction front generalizing i x with
  | nil => trivial
  | cons c front ih => exact ⟨h.1, fun hok => ⟨(h.2 hok).1, ih (h.2 hok).2⟩⟩

theorem behind {i : Nat} {front back : List Char}
    (h : s.Typing selector values i (front ++ back) x)
    (succeeded : s.Answers x (writings selector i front)) :
    s.Typing selector values (i + front.length) back (s.after x (writings selector i front)) := by
  induction front generalizing i x with
  | nil => exact h
  | cons c front ih =>
    rw [writings_cons] at succeeded ⊢
    rw [after_cons, List.length_cons, ← Nat.add_assoc, Nat.add_right_comm]
    exact ih (h.2 (ok_of_isOk succeeded.head)).2 succeeded.tail

/-- Writings that succeed put the code behind the values in front of it, in place of as many
values. -/
theorem values_after {code : List Char} {front rest : List String}
    (h : s.Typing selector values front.length code x) (hvalues : values x = front ++ rest)
    (hroom : code.length ≤ rest.length)
    (succeeded : s.Answers x (writings selector front.length code)) :
    values (s.after x (writings selector front.length code))
      = front ++ code.map String.singleton ++ rest.drop code.length := by
  induction code generalizing x front rest with
  | nil => simpa [writings] using hvalues
  | cons c code ih =>
    obtain ⟨v, rest, rfl⟩ := List.exists_cons_of_length_pos (Nat.lt_of_lt_of_le (by simp) hroom)
    rw [writings_cons] at succeeded ⊢
    rw [after_cons]
    obtain ⟨hset, later⟩ := h.2 (ok_of_isOk succeeded.head)
    have next : values (s.perform (.setValueAt selector front.length (String.singleton c)) x).after
        = (front ++ [String.singleton c]) ++ rest := by
      rw [hset, hvalues]
      simp
    have length : (front ++ [String.singleton c]).length = front.length + 1 := by simp
    have done := ih (by rw [length]; exact later) next (by simpa using hroom)
      (by rw [length]; exact succeeded.tail)
    rw [length] at done
    rw [done]
    simp

/-- When a writing fails, the code in front of its character has been written, and no element
behind its own has changed. -/
theorem values_failed {front back : List Char} {c : Char}
    (h : s.Typing selector values 0 (front ++ c :: back) x)
    (hroom : front.length < (values x).length)
    (succeeded : s.Answers x (writings selector 0 front)) :
    let failed : Call := .setValueAt selector front.length (String.singleton c)
    let y := s.after x (writings selector 0 front ++ [failed])
    (values y).take front.length = front.map String.singleton ∧
      (values y).drop (front.length + 1) = (values x).drop (front.length + 1) := by
  intro failed y
  obtain ⟨z, hz⟩ : ∃ z, z = s.after x (writings selector 0 front) := ⟨_, rfl⟩
  have before : values z = front.map String.singleton ++ (values x).drop front.length := by
    rw [hz]
    have none : values x = [] ++ values x := rfl
    simpa using h.front.values_after none (Nat.le_of_lt hroom) succeeded
  have after : y = (s.perform failed z).after := by
    rw [hz]
    exact after_append s x _ _
  have last := h.behind succeeded
  rw [Nat.zero_add, ← hz] at last
  have others (j : Nat) (hj : j ≠ front.length) : (values y)[j]? = (values z)[j]? := by
    rw [after]
    exact last.1 j hj
  constructor
  · refine List.ext_getElem? fun j => ?_
    rw [List.getElem?_take]
    split
    · next hj =>
      rw [others j (by omega), before, List.getElem?_append_left (by simpa using hj)]
    · next hj =>
      rw [List.getElem?_eq_none]
      simpa using hj
  · refine List.ext_getElem? fun j => ?_
    rw [List.getElem?_drop, others _ (by omega), before, List.getElem?_append_right (by simp; omega)]
    simp only [List.length_map, List.getElem?_drop]
    congr 1
    omega

end Typing

end Session

/-- What precedes a writing among the writings of a code are the writings of what precedes its
character. -/
theorem writings_eq_append {selector : String} {i : Nat} {code : List Char} {front back : List Call}
    {d : Call} (h : writings selector i code = front ++ d :: back) :
    ∃ before c after, code = before ++ c :: after ∧ front = writings selector i before ∧
      d = .setValueAt selector (i + before.length) (String.singleton c) := by
  induction code generalizing i front with
  | nil => simp [writings] at h
  | cons c code ih =>
    rw [writings_cons] at h
    cases front with
    | nil =>
      cases h
      exact ⟨[], c, code, rfl, rfl, rfl⟩
    | cons first front =>
      obtain ⟨rfl, hrest⟩ := List.cons.inj h
      obtain ⟨before, c', after, rfl, rfl, rfl⟩ := ih hrest
      refine ⟨c :: before, c', after, rfl, (writings_cons ..).symm, ?_⟩
      rw [List.length_cons, Nat.add_right_comm, Nat.add_assoc]

/-- The writings of characters, as deeds that did not fail. -/
def written (selector : String) (code : List Char) : List Deed :=
  (writings selector 0 code).map (⟨·, false⟩)

/-- What comes of spreading a code over elements with values: the result, what was done, and the
values afterwards.  All of the code is written, each character at its own position, and the values
behind stay; or it is written up to a character whose writing fails, and the values behind that one
stay. -/
inductive Spread (selector : String) (olds : List String) (code : List Char) :
    Except Error Unit → List Deed → List String → Prop
  | all : Spread selector olds code (.ok ()) (written selector code)
      (code.map String.singleton ++ olds.drop code.length)
  | upTo {front back : List Char} {c : Char} {e : Error} {news : List String}
      (split : code = front ++ c :: back)
      (hfront : news.take front.length = front.map String.singleton)
      (hback : news.drop (front.length + 1) = olds.drop (front.length + 1)) :
      Spread selector olds code (.error e)
        (written selector front ++ [⟨.setValueAt selector front.length (String.singleton c), true⟩])
        news

/-- Where the elements are enough, writings in order spread the code. -/
theorem Session.Typing.spread {σ : Type} {s : Session σ} {selector : String}
    {values : σ → List String} {x y : σ} {code : List Char}
    (h : s.Typing selector values 0 code x) (hroom : code.length ≤ (values x).length)
    {result : Except Error Unit} {deeds : List Deed}
    (hdone : s.InOrder x (writings selector 0 code) result (y, deeds)) :
    Spread selector (values x) code result deeds (values y) := by
  cases hdone with
  | all succeeded =>
    have none : values x = [] ++ values x := rfl
    have after := h.values_after none hroom succeeded
    rw [List.length_nil, List.nil_append] at after
    rw [after]
    exact .all
  | upTo split succeeded failed =>
    obtain ⟨before, c, after, rfl, rfl, rfl⟩ := writings_eq_append split
    rw [Nat.zero_add]
    have room : before.length < (values x).length := by
      simp only [List.length_append, List.length_cons] at hroom
      omega
    obtain ⟨hfront, hback⟩ := h.values_failed (c := c) room succeeded
    exact .upTo rfl hfront hback

/-- A call that succeeds is recorded as such. -/
theorem Doing.call_recorded {σ : Type} (s : Session σ) {c : Call} {x : σ} {reply : c.Reply}
    (h : (s.perform c x).result = .ok reply) (deeds : List Deed) (outside : Surroundings) :
    ∃ outside', call s.recorded c ⟨(x, deeds), outside⟩
      = (.ok reply, ⟨((s.perform c x).after, deeds ++ [⟨c, false⟩]), outside'⟩) := by
  refine ⟨(notes (s.perform c x).notes outside).2, ?_⟩
  simp only [call, Session.recorded, h]
  rfl

/-- A code is spread once its elements have been waited for and counted, if they are enough. -/
theorem Action.perform_spread {σ : Type} (s : Session σ) {selector code : String} {w w₁ w₂ : World σ}
    (hsettled : Doing.callAll s [settle s.config selector] w = (.ok (), w₁)) {m : Nat}
    (hcounted : Doing.call s (.count selector) w₁ = (.ok m, w₂)) :
    (Action.spread selector code).perform s w =
      if m < code.toList.length then
        (.error (.argument ("fill_otp: " ++ Nat.repr code.toList.length ++ " characters but only "
          ++ Nat.repr m ++ " inputs match '" ++ selector ++ "'")), w₂)
      else Doing.callAll s (writings selector 0 code.toList) w₂ := by
  rw [perform, Lockstep.bind_ok hsettled, Lockstep.bind_ok hcounted, ← spreadFrom_eq_callAll]
  show (if m < code.toList.length then _ else _ : Doing σ Unit) w₂ = _
  split <;> rfl

namespace Operation

/-- A code is spread over the elements of its selector, which are waited for and counted first.  If
they are too few, nothing is written.  Otherwise its characters are written in order, up to the first
writing that fails, and they are what the elements then hold if every writing concerns its own. -/
theorem fillOtp_spreads {σ : Type} (s : Session σ) {selector code : String} {args : Arguments}
    (hselector : args.text 0 "selector" = .ok selector) (hcode : args.text 1 "code" = .ok code)
    {x : σ} (hrunning : s.status x = .running)
    (hfound : (s.perform (Action.settle s.config selector) x).result = .ok ()) {m : Nat}
    (hcount : (s.perform (.count selector)
      (s.perform (Action.settle s.config selector) x).after).result = .ok m)
    (outside : Surroundings) :
    let n := code.toList.length
    let counted :=
      (s.perform (.count selector) (s.perform (Action.settle s.config selector) x).after).after
    ∃ result y deeds outside', fillOtp.perform s.recorded args ⟨(x, []), outside⟩ = (result,
        ⟨(y, [⟨Action.settle s.config selector, false⟩, ⟨.count selector, false⟩] ++ deeds),
          outside'⟩) ∧
      (n ≤ m → s.InOrder counted (writings selector 0 code.toList) result (y, deeds) ∧
        ∀ values : σ → List String, (values counted).length = m →
          s.Typing selector values 0 code.toList counted →
            Spread selector (values counted) code.toList result deeds (values y)) ∧
      (m < n → deeds = [] ∧ y = counted ∧ result = .error (.argument
        ("fill_otp: " ++ Nat.repr n ++ " characters but only " ++ Nat.repr m ++ " inputs match '"
          ++ selector ++ "'"))) := by
  intro n counted
  have action : Action.ofOperation s.config fillOtp args = .ok (.spread selector code) := by
    simp only [Action.ofOperation, Action.selector, hselector, hcode]
    rfl
  obtain ⟨outside₁, waiting⟩ := Doing.call_recorded s hfound [] outside
  obtain ⟨outside₂, counting⟩ := Doing.call_recorded s hcount
    [⟨Action.settle s.config selector, false⟩] outside₁
  have settled : Doing.callAll s.recorded [Action.settle s.config selector] ⟨(x, []), outside⟩
      = (.ok (), ⟨(_, [⟨Action.settle s.config selector, false⟩]), outside₁⟩) :=
    Lockstep.bind_ok waiting _
  have performed := (perform_running (s := s.recorded) (w := ⟨(x, []), outside⟩) action
    hrunning).trans (Action.perform_spread s.recorded settled counting)
  by_cases hroom : m < n
  · rw [if_pos hroom] at performed
    exact ⟨_, _, [], _, performed, fun h => absurd h (Nat.not_le.mpr hroom),
      fun _ => ⟨rfl, rfl, rfl⟩⟩
  · rw [if_neg hroom] at performed
    obtain ⟨result, y, deeds, outside', hrest, inOrder⟩ := Doing.callAll_inOrder s
      (writings selector 0 code.toList) counted [⟨Action.settle s.config selector, false⟩,
        ⟨.count selector, false⟩] outside₂
    refine ⟨result, y, deeds, outside', performed.trans hrest,
      fun _ => ⟨inOrder, fun values number typing => ?_⟩, fun h => absurd h hroom⟩
    exact typing.spread (by rw [number]; exact Nat.not_lt.mp hroom) inOrder

/-- Two characters, one of which takes two bytes, are spread over three elements; a code of four
characters does not fit; and on a page where writing fails, the first writing is the last one. -/
theorem fillOtp_spreads_three :
    let fields : List Field := ["a", "b", "c"].map (⟨·, "", none, false, true, true, .zero false⟩)
    let page : Page := ⟨false, "", "", "", [(".otp", fields)], [], [], [], .null, []⟩
    let stale : Page := { page with faults := [("set_value_at", "stale")] }
    let s := Page.session .usual
    let settle : Call := Action.settle .usual ".otp"
    let looked : List Deed := [⟨settle, false⟩, ⟨.count ".otp", false⟩]
    let outside := Surroundings.still
    let args (code : String) : Arguments := ⟨"fill_otp", [.text ".otp", .text code]⟩
    let done (code : String) (p : Page) := fillOtp.perform s.recorded (args code) ⟨(p, []), outside⟩
    let spreads (code : String) (p : Page) : Prop := ∃ result y deeds outside',
      done code p = (result, ⟨(y, looked ++ deeds), outside'⟩) ∧
        s.InOrder p (writings ".otp" 0 code.toList) result (y, deeds) ∧
        Spread ".otp" ["a", "b", "c"] code.toList result deeds (Page.values ".otp" y)
    (∀ code p, s.Typing ".otp" (Page.values ".otp") 0 code p) ∧
    (∀ code, (args code).text 0 "selector" = .ok ".otp" ∧ (args code).text 1 "code" = .ok code) ∧
    (∀ p ∈ [page, stale], s.status p = .running ∧ (s.perform settle p).result = .ok () ∧
      (s.perform (.count ".otp") (s.perform settle p).after).result = .ok (3 : Nat) ∧
      Page.values ".otp" p = ["a", "b", "c"]) ∧
    (spreads "4é" page ∧ Page.values ".otp" (done "4é" page).2.session.1 = ["4", "é", "c"]) ∧
    (spreads "4é" stale ∧
      (done "4é" stale).2.session.2 = looked ++ [⟨.setValueAt ".otp" 0 "4", true⟩]) ∧
    ∃ outside', done "48é1" page = (.error (.argument
      "fill_otp: 4 characters but only 3 inputs match '.otp'"), ⟨(page, looked), outside'⟩) := by
  intro fields page stale s settle looked outside args done spreads
  have typing (code : List Char) (p : Page) : s.Typing ".otp" (Page.values ".otp") 0 code p :=
    Page.session_typing .usual ".otp" 0 code p
  have reads (code : String) :
      (args code).text 0 "selector" = .ok ".otp" ∧ (args code).text 1 "code" = .ok code :=
    ⟨rfl, rfl⟩
  have fits (p : Page) (hp : p ∈ [page, stale]) : s.status p = .running ∧
      (s.perform settle p).result = .ok () ∧
      (s.perform (.count ".otp") (s.perform settle p).after).result = .ok (3 : Nat) ∧
      Page.values ".otp" p = ["a", "b", "c"] := by
    simp only [List.mem_cons, List.not_mem_nil, or_false] at hp
    rcases hp with rfl | rfl <;> exact ⟨rfl, rfl, rfl, by decide +kernel⟩
  -- waiting and counting leave these pages as they are
  have kept (p : Page) (hp : p ∈ [page, stale]) :
      (s.perform (.count ".otp") (s.perform settle p).after).after = p := by
    simp only [List.mem_cons, List.not_mem_nil, or_false] at hp
    rcases hp with rfl | rfl <;> rfl
  have spread (p : Page) (hp : p ∈ [page, stale]) : spreads "4é" p := by
    obtain ⟨running, found, count, values⟩ := fits p hp
    obtain ⟨result, y, deeds, outside', hdone, enough, -⟩ :=
      fillOtp_spreads s (reads "4é").1 (reads "4é").2 running found count outside
    rw [show (s.perform (.count ".otp") (s.perform (Action.settle s.config ".otp") p).after).after = p
      from kept p hp] at enough
    obtain ⟨inOrder, holds⟩ := enough (by decide)
    have spread := holds (Page.values ".otp") (by rw [values]; rfl) (typing _ p)
    rw [values] at spread
    exact ⟨result, y, deeds, outside', hdone, inOrder, spread⟩
  refine ⟨typing, reads, fits, ⟨spread page (by simp), by decide +kernel⟩,
    ⟨spread stale (by simp), by decide +kernel⟩, ?_⟩
  obtain ⟨running, found, count, -⟩ := fits page (by simp)
  obtain ⟨result, y, deeds, outside', hdone, -, short⟩ :=
    fillOtp_spreads s (reads "48é1").1 (reads "48é1").2 running found count outside
  obtain ⟨rfl, rfl, rfl⟩ := short (by decide)
  exact ⟨outside', hdone⟩

end Operation

end PageScript
