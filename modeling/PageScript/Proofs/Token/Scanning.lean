import PageScript.Token

/-!
# Where a token begins and ends

A token begins behind the first `((`, and the first of three parentheses belongs to the mark
(`behindOpening_eq_some_iff`).

The scanner for the end of a token is a machine over characters: it knows the quote that is open and
the number of open inner parentheses.  It takes a quote for a closing one whatever stands before it.

`scan_eq_some_iff` says where it stops: at the first `))` in front of which the machine is back at
its start.  A text is `Closed` if the scanner passes it between two blanks, so that the token ends
behind it.
-/

namespace PageScript

namespace Token

/-! ## The first opening mark -/

/-- The text opens a token behind the front, and no mark begins in the front. -/
structure Opens (cs front rest : List Char) : Prop where
  split : cs = front ++ '(' :: '(' :: rest
  first : ∀ f back, front ++ ['('] ≠ f ++ '(' :: '(' :: back

theorem opens_of_mark {front rest more : List Char} :
    Opens ('(' :: '(' :: more) front rest ↔ front = [] ∧ rest = more := by
  constructor
  · rintro ⟨hsplit, hfirst⟩
    cases front with
    | nil =>
      cases hsplit
      exact ⟨rfl, rfl⟩
    | cons c tail =>
      rw [List.cons_append, List.cons.injEq] at hsplit
      obtain ⟨rfl, hsplit⟩ := hsplit
      -- the mark at the beginning would be an earlier one
      cases tail with
      | nil => exact absurd rfl (hfirst [] [])
      | cons d more =>
        rw [List.cons_append, List.cons.injEq] at hsplit
        obtain ⟨rfl, -⟩ := hsplit
        exact absurd rfl (hfirst [] (more ++ ['(']))
  · rintro ⟨rfl, rfl⟩
    refine ⟨rfl, fun f back heq => ?_⟩
    have := congrArg List.length heq
    simp only [List.length_append, List.length_cons, List.length_nil] at this
    omega

theorem opens_cons {c : Char} {cs front rest : List Char} (h : ¬(c = '(' ∧ cs.head? = some '(')) :
    Opens (c :: cs) front rest ↔ ∃ tail, front = c :: tail ∧ Opens cs tail rest := by
  constructor
  · rintro ⟨hsplit, hfirst⟩
    cases front with
    | nil =>
      rw [List.nil_append, List.cons.injEq] at hsplit
      obtain ⟨rfl, rfl⟩ := hsplit
      exact absurd ⟨rfl, rfl⟩ h
    | cons d tail =>
      rw [List.cons_append, List.cons.injEq] at hsplit
      obtain ⟨rfl, rfl⟩ := hsplit
      refine ⟨tail, rfl, rfl, fun f back heq => hfirst (c :: f) back ?_⟩
      rw [List.cons_append, heq, List.cons_append]
  · rintro ⟨tail, rfl, rfl, hfirst⟩
    refine ⟨rfl, fun f back heq => ?_⟩
    cases f with
    | cons d f =>
      rw [List.cons_append, List.cons_append, List.cons.injEq] at heq
      exact hfirst f back heq.2
    | nil =>
      rw [List.cons_append, List.nil_append, List.cons.injEq] at heq
      obtain ⟨hc, heq⟩ := heq
      refine h ⟨hc, ?_⟩
      cases tail with
      | nil => rfl
      | cons d more =>
        rw [List.cons_append, List.cons.injEq] at heq
        rw [heq.1]
        rfl

/-- A token is looked for behind the first mark. -/
theorem behindOpening_eq_some_iff {cs rest : List Char} :
    behindOpening cs = some rest ↔ ∃ front, Opens cs front rest := by
  induction cs with
  | nil =>
    constructor
    · intro h
      cases h
    · rintro ⟨front, hsplit, -⟩
      cases front <;> cases hsplit
  | cons c cs ih =>
    by_cases h : c = '(' ∧ cs.head? = some '('
    · obtain ⟨rfl, hhead⟩ := h
      obtain ⟨more, rfl⟩ := List.head?_eq_some_iff.mp hhead
      constructor
      · intro hrest
        cases hrest
        exact ⟨[], opens_of_mark.mpr ⟨rfl, rfl⟩⟩
      · rintro ⟨front, hopens⟩
        rw [(opens_of_mark.mp hopens).2]
        rfl
    · have step : behindOpening (c :: cs) = behindOpening cs := by
        cases cs with
        | nil => rfl
        | cons d cs =>
          rw [behindOpening, if_neg fun hmark => h ⟨hmark.1, congrArg some hmark.2⟩]
      rw [step, ih]
      constructor
      · rintro ⟨tail, htail⟩
        exact ⟨c :: tail, (opens_cons h).mpr ⟨tail, rfl, htail⟩⟩
      · rintro ⟨front, hopens⟩
        obtain ⟨tail, -, htail⟩ := (opens_cons h).mp hopens
        exact ⟨tail, htail⟩

/-! ## The machine -/

/-- What the scanner knows: the open quote and the number of open inner parentheses. -/
structure Stand where
  quote : Option Char
  depth : Nat
deriving DecidableEq

namespace Stand

/-- Neither quotes nor inner parentheses are open. -/
def start : Stand := ⟨none, 0⟩

/-- The stand behind one character. -/
def pass (s : Stand) (c : Char) : Stand :=
  match s.quote with
  | some q => { s with quote := if c = q then none else some q }
  | none =>
    if c = '\'' ∨ c = '"' then { s with quote := some c }
    else if c = '(' then { s with depth := s.depth + 1 }
    else if c = ')' then { s with depth := s.depth - 1 }
    else s

/-- The stand behind a text. -/
def behind (s : Stand) (cs : List Char) : Stand := cs.foldl pass s

@[simp] theorem behind_nil (s : Stand) : s.behind [] = s := rfl

@[simp] theorem behind_cons (s : Stand) (c : Char) (cs : List Char) :
    s.behind (c :: cs) = (s.pass c).behind cs := rfl

theorem behind_append (s : Stand) (cs ds : List Char) :
    s.behind (cs ++ ds) = (s.behind cs).behind ds := List.foldl_append

/-- An open quote is one of the two quotes. -/
def Quoting (s : Stand) : Prop := ∀ q, s.quote = some q → q = '\'' ∨ q = '"'

theorem quoting_start : start.Quoting := by
  intro q h
  cases h

theorem Quoting.pass {s : Stand} (h : s.Quoting) (c : Char) : (s.pass c).Quoting := by
  intro q hq
  obtain ⟨quote, depth⟩ := s
  cases quote with
  | some p =>
    simp only [Stand.pass] at hq
    split at hq
    · cases hq
    · cases hq
      exact h q rfl
  | none =>
    simp only [Stand.pass] at hq
    split at hq
    · next hc =>
      cases hq
      exact hc
    · split at hq
      · cases hq
      · split at hq <;> cases hq

theorem Quoting.behind {s : Stand} (h : s.Quoting) (cs : List Char) : (s.behind cs).Quoting := by
  induction cs generalizing s with
  | nil => exact h
  | cons c cs ih => exact ih (h.pass c)

/-- A space changes nothing. -/
theorem Quoting.pass_space {s : Stand} (h : s.Quoting) : s.pass ' ' = s := by
  obtain ⟨quote, depth⟩ := s
  cases quote with
  | none => rfl
  | some q => rcases h q rfl with rfl | rfl <;> rfl

end Stand

/-! ## The first end -/

/-- Read on from the stand, a token ends behind the front: there the machine is at its start in
front of `))`, and nowhere before. -/
structure Ends (s : Stand) (cs front : List Char) : Prop where
  mark : ∃ back, cs = front ++ ')' :: ')' :: back
  start : s.behind front = .start
  first : ∀ f back, cs = f ++ ')' :: ')' :: back → s.behind f = .start → front.length ≤ f.length

/-- The stand and the text that end a token at once. -/
def Stops (s : Stand) (cs : List Char) : Prop := s = .start ∧ ∃ back, cs = ')' :: ')' :: back

theorem ends_of_stops {s : Stand} {cs front : List Char} (h : Stops s cs) :
    Ends s cs front ↔ front = [] := by
  obtain ⟨rfl, back, rfl⟩ := h
  constructor
  · intro h
    exact List.length_eq_zero_iff.mp (Nat.le_zero.mp (h.first [] back rfl rfl))
  · rintro rfl
    exact ⟨⟨back, rfl⟩, rfl, fun f _ _ _ => Nat.zero_le _⟩

theorem ends_cons {s : Stand} {c : Char} {cs front : List Char} (h : ¬ Stops s (c :: cs)) :
    Ends s (c :: cs) front ↔ ∃ tail, front = c :: tail ∧ Ends (s.pass c) cs tail := by
  constructor
  · rintro ⟨⟨back, hmark⟩, hstart, hfirst⟩
    cases front with
    | nil => exact absurd ⟨hstart, back, hmark⟩ h
    | cons d tail =>
      rw [List.cons_append, List.cons.injEq] at hmark
      obtain ⟨rfl, rfl⟩ := hmark
      refine ⟨tail, rfl, ⟨back, rfl⟩, hstart, fun f more heq hf => ?_⟩
      have := hfirst (c :: f) more (by rw [heq]; rfl) hf
      rw [List.length_cons, List.length_cons] at this
      omega
  · rintro ⟨tail, rfl, ⟨back, rfl⟩, hstart, hfirst⟩
    refine ⟨⟨back, rfl⟩, hstart, fun f more heq hf => ?_⟩
    cases f with
    | nil => exact absurd ⟨hf, more, heq⟩ h
    | cons d f =>
      rw [List.cons_append, List.cons.injEq] at heq
      obtain ⟨rfl, heq⟩ := heq
      have := hfirst f more heq hf
      rw [List.length_cons, List.length_cons]
      omega

theorem scan_of_stops {s : Stand} {cs : List Char} (h : Stops s cs) (done : List Char) :
    scan s.quote s.depth done cs = some done.reverse := by
  obtain ⟨rfl, back, rfl⟩ := h
  rfl

theorem scan_cons {s : Stand} {c : Char} {cs : List Char} (h : ¬ Stops s (c :: cs))
    (done : List Char) : scan s.quote s.depth done (c :: cs)
      = scan (s.pass c).quote (s.pass c).depth (c :: done) cs := by
  obtain ⟨quote, depth⟩ := s
  cases quote with
  | some q => rfl
  | none =>
    simp only [scan, Stand.pass]
    split
    · rfl
    · split
      · rfl
      · split
        · next hc =>
          cases depth with
          | succ depth => rfl
          | zero =>
            have head : ¬ cs.head? = some ')' := by
              intro hhead
              obtain ⟨back, rfl⟩ := List.head?_eq_some_iff.mp hhead
              exact h ⟨rfl, back, by rw [hc]⟩
            dsimp only
            rw [if_neg head]
        · rfl

/-- The scanner stops at the first end. -/
theorem scan_eq_some_iff (cs : List Char) : ∀ (s : Stand) (done : List Char) {body : List Char},
    scan s.quote s.depth done cs = some body ↔ ∃ front, body = done.reverse ++ front ∧ Ends s cs front := by
  induction cs with
  | nil =>
    intro s done body
    constructor
    · intro h
      obtain ⟨quote, depth⟩ := s
      cases quote <;> cases h
    · rintro ⟨front, -, ⟨back, hmark⟩, -⟩
      cases front <;> cases hmark
  | cons c cs ih =>
    intro s done body
    by_cases h : Stops s (c :: cs)
    · rw [scan_of_stops h, Option.some.injEq]
      constructor
      · rintro rfl
        exact ⟨[], (List.append_nil _).symm, (ends_of_stops h).mpr rfl⟩
      · rintro ⟨front, rfl, hends⟩
        rw [(ends_of_stops h).mp hends, List.append_nil]
    · rw [scan_cons h, ih]
      constructor
      · rintro ⟨tail, rfl, hends⟩
        exact ⟨c :: tail, by simp, (ends_cons h).mpr ⟨tail, rfl, hends⟩⟩
      · rintro ⟨front, rfl, hends⟩
        obtain ⟨tail, rfl, htail⟩ := (ends_cons h).mp hends
        exact ⟨tail, by simp, htail⟩

/-! ## Closed texts -/

/-- The scanner passes the text: behind it the machine is back at its start, and it never is in
front of a `))` inside. -/
structure Closed (cs : List Char) : Prop where
  start : Stand.start.behind cs = .start
  inside : ∀ front back, cs = front ++ ')' :: ')' :: back → Stand.start.behind front ≠ .start

/-- An end of a text that closes with a space and the mark is that mark, or stands before. -/
theorem end_cases {cs f back : List Char} (h : cs ++ [' ', ')', ')'] = f ++ ')' :: ')' :: back) :
    f = cs ++ [' '] ∨ ∃ more, cs = f ++ ')' :: ')' :: more := by
  rcases List.append_eq_append_iff.mp h with ⟨as, rfl, heq⟩ | ⟨bs, rfl, heq⟩
  · cases as with
    | nil => cases heq
    | cons a as =>
      rw [List.cons_append, List.cons.injEq] at heq
      obtain ⟨rfl, heq⟩ := heq
      cases as with
      | nil => exact .inl rfl
      | cons b bs =>
        have := congrArg List.length heq
        simp only [List.length_cons, List.length_append, List.length_nil] at this
        omega
  · cases bs with
    | nil => cases heq
    | cons b bs =>
      cases bs with
      | nil => cases heq
      | cons d bs =>
        rw [List.cons_append, List.cons_append, List.cons.injEq, List.cons.injEq] at heq
        obtain ⟨rfl, rfl, -⟩ := heq
        exact .inr ⟨bs, rfl⟩

theorem closed_iff_ends {cs : List Char} :
    Closed cs ↔ Ends .start (cs ++ [' ', ')', ')']) (cs ++ [' ']) := by
  have quoting := Stand.quoting_start.behind cs
  have stand : Stand.start.behind (cs ++ [' ']) = Stand.start.behind cs := by
    rw [Stand.behind_append]
    exact quoting.pass_space
  constructor
  · intro h
    refine ⟨⟨[], by simp⟩, stand.trans h.start, fun f back heq hf => ?_⟩
    rcases end_cases heq with rfl | ⟨more, hcs⟩
    · exact Nat.le_refl _
    · exact absurd hf (h.inside f more hcs)
  · intro h
    refine ⟨stand.symm.trans h.start, fun front back heq hf => ?_⟩
    have := h.first front (back ++ [' ', ')', ')']) (by rw [heq]; simp) hf
    rw [heq] at this
    simp only [List.length_append, List.length_cons] at this
    omega

/-- Whether a text is closed is seen by scanning it. -/
theorem closed_iff_scan {cs : List Char} :
    Closed cs ↔ scan none 0 [] (cs ++ [' ', ')', ')']) = some (cs ++ [' ']) := by
  rw [closed_iff_ends]
  constructor
  · intro h
    exact (scan_eq_some_iff _ .start []).mpr ⟨_, rfl, h⟩
  · intro h
    obtain ⟨front, heq, hends⟩ := (scan_eq_some_iff _ .start []).mp h
    rw [heq]
    exact hends

instance (cs : List Char) : Decidable (Closed cs) := decidable_of_iff _ closed_iff_scan.symm

end Token

end PageScript
