import Mathlib.Data.List.Forall2
import PageScript.Proofs.Run.Accounting

/-!
# Runs without some commands

Some commands of a script are marked, and the script is run with them and without them.  If every
marked command that is met is done and changes nothing that matters (`Idle`), the two runs go side by
side.

They are compared turn by turn.  What matters is a coupling that does not look at what was put out.
Wherever the runs are, they stand beside each other (`Beside`): their worlds are coupled and their
namespaces are the same, while their notes and their counts may differ.  A marked turn leaves the run
with it beside the other, which does not take that turn, and every other turn goes in the same way in
both (`Takes.unmarked`).  The scripts that are included have no marks.

In the end the marked turns have been counted as done, and they count in the numbers of the failures
behind them.

All of this is without spectators, who are given a rest in front of every command.
-/

namespace PageScript

/-! ## Marks -/

section

variable {α : Type}

/-- The items that are marked.  Items behind the last mark are not. -/
def marked : (marks : List Bool) → List α → List α
  | _, [] => []
  | marks, x :: xs =>
    if marks.headD false then x :: marked marks.tail xs else marked marks.tail xs

/-- The items that are not marked. -/
def unmarked : (marks : List Bool) → List α → List α
  | _, [] => []
  | marks, x :: xs =>
    if marks.headD false then unmarked marks.tail xs else x :: unmarked marks.tail xs

example : (marked [true, false, true] [1, 2, 3, 4], unmarked [true, false, true] [1, 2, 3, 4])
    = ([1, 3], [2, 4]) := rfl

theorem unmarked_nil (marks : List Bool) : unmarked marks ([] : List α) = [] := rfl

/-- Without marks every item stays. -/
theorem unmarked_none (xs : List α) : unmarked [] xs = xs := by
  induction xs with
  | nil => rfl
  | cons x xs ih => exact congrArg (x :: ·) ih

variable (p : α → Bool)

/-- The marks of other items behind do not matter. -/
theorem marked_map_append (xs : List α) (more : List Bool) :
    marked (xs.map p ++ more) xs = xs.filter p := by
  induction xs with
  | nil => rfl
  | cons x xs ih =>
    cases h : p x with
    | true => simpa [marked, h] using ih
    | false => simpa [marked, h] using ih

theorem marked_map (xs : List α) : marked (xs.map p) xs = xs.filter p := by
  simpa using marked_map_append p xs []

theorem unmarked_map (xs : List α) : unmarked (xs.map p) xs = xs.filter (!p ·) := by
  induction xs with
  | nil => rfl
  | cons x xs ih =>
    cases h : p x with
    | true => simpa [unmarked, h] using ih
    | false => simpa [unmarked, h] using ih

/-- In lists of one length as many items are marked. -/
theorem length_marked {α β : Type} {xs : List α} {ys : List β} (h : xs.length = ys.length)
    (marks : List Bool) : (marked marks xs).length = (marked marks ys).length := by
  induction xs generalizing ys marks with
  | nil => rw [List.length_eq_zero_iff.mp h.symm]; rfl
  | cons x xs ih =>
    cases ys with
    | nil => cases h
    | cons y ys =>
      have behind := ih (Nat.succ.inj h) marks.tail
      rw [marked, marked]
      split
      · exact congrArg (· + 1) behind
      · exact behind

theorem forall₂_marked {α β : Type} {R : α → β → Prop} {xs : List α} {ys : List β}
    (h : List.Forall₂ R xs ys) (marks : List Bool) :
    List.Forall₂ R (marked marks xs) (marked marks ys) := by
  induction h generalizing marks with
  | nil => exact .nil
  | cons hfirst hrest ih =>
    rw [marked, marked]
    split
    · exact .cons hfirst (ih _)
    · exact ih _

end

variable {σ : Type}

/-- The marks of turns when the commands of the script at some depth have marks.  Turns that are
deeper have none. -/
def Turn.marks (depth : Nat) : (marks : List Bool) → List (Turn σ) → List Bool
  | _, [] => []
  | marks, t :: ts =>
    if t.depth = depth then marks.headD false :: Turn.marks depth marks.tail ts
    else false :: Turn.marks depth marks ts

/-- The failure with the number that it has without the marked turns in front of it: `m` of the first
`n`, and those among the turns behind. -/
def Failure.lowered (n m : Nat) (marks : List Bool) (ts : List (Turn σ)) (f : Failure) : Failure :=
  { f with index := f.index - (m + (marked marks (ts.take (f.index - n))).length) }

/-- The failure, with its number among the turns that are not marked. -/
abbrev Failure.unmarked (marks : List Bool) (ts : List (Turn σ)) (f : Failure) : Failure :=
  f.lowered 0 0 marks ts

/-- The script without the commands that are marked. -/
def Script.unmarked (marks : List Bool) (script : Script) : Script :=
  { script with commands := PageScript.unmarked marks script.commands }

/-- Two runs end with one failure, or they end with reports: the second has done `n` commands less,
and its failures are those of the first with other numbers. -/
inductive EndsWithFewer (n : Nat) (renumber : Failure → Failure) :
    Except Error Report → Except Error Report → Prop where
  | failed (e : Error) : EndsWithFewer n renumber (.error e) (.error e)
  | reported {report rest : Report} (executed : report.executed = rest.executed + n)
      (failures : rest.failures = report.failures.map renumber) (names : rest.names = report.names) :
      EndsWithFewer n renumber (.ok report) (.ok rest)

namespace Turn

variable {depth : Nat} {t : Turn σ}

theorem marks_own (h : t.depth = depth) (marks : List Bool) (ts : List (Turn σ)) :
    Turn.marks depth marks (t :: ts) = marks.headD false :: Turn.marks depth marks.tail ts :=
  if_pos h

/-- Without marks no turn is marked, and every turn stays. -/
theorem marked_none (ts : List (Turn σ)) : marked (Turn.marks depth [] ts) ts = [] := by
  induction ts with
  | nil => rfl
  | cons t ts ih =>
    rw [marks]
    split <;> exact ih

theorem unmarked_none (ts : List (Turn σ)) : unmarked (Turn.marks depth [] ts) ts = ts := by
  induction ts with
  | nil => rfl
  | cons t ts ih =>
    rw [marks]
    split <;> exact congrArg (t :: ·) ih

/-- The marked turns are those of the marked commands among those of the script itself. -/
theorem marked_commands (marks : List Bool) (ts : List (Turn σ)) :
    (marked (Turn.marks depth marks ts) ts).map Turn.command
      = marked marks ((ts.filter fun t => t.depth = depth).map Turn.command) := by
  induction ts generalizing marks with
  | nil => rfl
  | cons t ts ih =>
    by_cases hdepth : t.depth = depth
    · rw [marks_own hdepth, List.filter_cons_of_pos (by simp [hdepth]), List.map_cons, marked,
        marked, List.headD_cons, List.tail_cons, ← ih]
      split <;> rfl
    · rw [Turn.marks, if_neg hdepth, List.filter_cons_of_neg (by simp [hdepth]), ← ih]
      rfl

section

variable {us : List (Turn σ)} (h : ∀ u ∈ us, u.depth ≠ depth)

include h

/-- Turns that are deeper are not marked, and leave the marks to those behind them. -/
theorem marked_deeper (marks : List Bool) (ts : List (Turn σ)) :
    marked (Turn.marks depth marks (us ++ ts)) (us ++ ts)
      = marked (Turn.marks depth marks ts) ts := by
  induction us with
  | nil => rfl
  | cons u us ih =>
    obtain ⟨first, rest⟩ := List.forall_mem_cons.mp h
    rw [List.cons_append, Turn.marks, if_neg first]
    exact ih rest

theorem unmarked_deeper (marks : List Bool) (ts : List (Turn σ)) :
    unmarked (Turn.marks depth marks (us ++ ts)) (us ++ ts)
      = us ++ unmarked (Turn.marks depth marks ts) ts := by
  induction us with
  | nil => rfl
  | cons u us ih =>
    obtain ⟨first, rest⟩ := List.forall_mem_cons.mp h
    rw [List.cons_append, Turn.marks, if_neg first]
    exact congrArg (u :: ·) (ih rest)

end

end Turn

/-! ## Side by side -/

/-- It does not matter to the coupling what was put out. -/
def Coupling.Deaf {s : Session σ} (k : Coupling s) : Prop :=
  ∀ {a b : Surroundings}, k.outside a b → ∀ x y,
    k.outside { a with output := x } { b with output := y }

/-- The runs agree, apart from notes and from what they have counted and collected. -/
structure Coupling.Beside {s : Session σ} (k : Coupling s) (p q : Progress σ) : Prop where
  world : k.world p.world q.world
  names : p.names = q.names
  respects : p.names.Respects k.outside

namespace Coupling.Beside

variable {setup : Setup σ} {k : Coupling setup.session} {p q : Progress σ}

theorem running (h : k.Beside p q) : k.running p.tally q.tally p q :=
  ⟨h.world, h.names, h.respects, rfl, rfl⟩

theorem of_running {t u : Tally} (h : k.running t u p q) : k.Beside p q :=
  ⟨h.world, h.names, h.respects⟩

theorem counting (h : k.Beside p q) (m n : Nat) :
    k.Beside { p with executed := m } { q with executed := n } :=
  ⟨h.world, h.names, h.respects⟩

variable (hk : k.Deaf)

include hk

theorem putting (h : k.Beside p q) (pieces : List Output) : k.Beside (p.putting pieces) q :=
  ⟨⟨h.world.1, hk h.world.2 _ q.world.outside.output⟩, h.names, h.respects⟩

theorem met (hdemo : setup.session.config.demo = false) (h : k.Beside p q) (c : Command) :
    k.Beside (setup.met c p) (setup.met c q) := by
  obtain ⟨told, hp⟩ := setup.meet_unwatched hdemo c p
  obtain ⟨said, hq⟩ := setup.meet_unwatched hdemo c q
  rw [Setup.met, Setup.met, hp, hq]
  exact ⟨⟨h.world.1, hk h.world.2 _ _⟩, h.names, h.respects⟩

theorem failed (h : k.Beside p q) (m n : Nat) (c : Command) (e : Error) :
    k.Beside (setup.failed m c e p) (setup.failed n c e q) := by
  have noted : k.Beside (Setup.noted m c e p) (Setup.noted n c e q) :=
    ⟨⟨h.world.1, hk h.world.2 _ _⟩, h.names, h.respects⟩
  unfold Setup.failed
  split
  · exact .of_running (k.stopSession_lockstep _ _ noted.running).2
  · exact noted

end Coupling.Beside

namespace Setup

variable (setup : Setup σ)

/-! ## One turn -/

/-- The turns have the same command, and it goes in the same way. -/
structure Matches (t u : Turn σ) : Prop where
  command : t.command = u.command
  fate : setup.fate t = setup.fate u

/-- The command is done and changes nothing that matters. -/
structure Idle (k : Coupling setup.session) (t : Turn σ) : Prop where
  done : setup.fate t = .done
  beside : ∀ q, k.Beside t.before q → k.Beside (setup.closing t) q

variable {setup} {k : Coupling setup.session}
variable {levels depth : Nat} {directory : String} {c : Command} {p p' : Progress σ} {t : Turn σ}

/-- When only one of the runs meets a command, they stay where they are. -/
theorem opening_beside (setup : Setup σ) {k : Coupling setup.session} (hk : k.Deaf)
    (hdemo : setup.session.config.demo = false) {q : Progress σ} (h : k.Beside t.before q) :
    k.Beside (setup.opening t) q := by
  obtain ⟨told, hp⟩ := setup.meet_unwatched hdemo t.command t.before
  rw [opening, met, hp]
  exact ⟨⟨h.world.1, hk h.world.2 _ q.world.outside.output⟩, h.names, h.respects⟩

section

variable (hk : k.Deaf) (hdemo : setup.session.config.demo = false)
variable (hregistry : setup.registry.Respects k.outside)
variable (hfake : setup.fake.Respects k.outside)

include hk hdemo hregistry hfake

/-- From states beside each other a command goes in the same way. -/
theorem matches_beside (ht : t = ⟨depth, levels, directory, c, p⟩) (hp : k.Beside p p') :
    ∃ u : Turn σ, u = ⟨depth, levels, directory, c, p'⟩ ∧ setup.Matches t u ∧
      k.Beside (setup.closing t) (setup.closing u) := by
  subst ht
  refine ⟨_, rfl, ?_⟩
  have opening := (hp.met hk hdemo c).running
  by_cases hname : c.name = "include"
  · obtain ⟨hresult, after⟩ := k.loadInclude_lockstep hfake (decide (0 < levels)) directory c _ _
      opening
    refine ⟨⟨rfl, ?_⟩, ?_⟩
    · rw [fate, fate, if_pos hname, if_pos hname]
      exact congrArg Fate.ofLoading hresult
    · rw [closing, closing, if_pos hname, if_pos hname]
      exact .of_running after
  · obtain ⟨hresult, after⟩ := k.runCommand_lockstep hregistry hfake c _ _ opening
    refine ⟨⟨rfl, ?_⟩, ?_⟩
    · rw [fate, fate, if_neg hname, if_neg hname]
      exact congrArg Fate.ofRunning hresult
    · rw [closing, closing, if_neg hname, if_neg hname]
      exact .of_running after

end

/-! ## All turns -/

variable {marks : List Bool}

/-- A marked command of the script itself is left out, with its turn. -/
theorem skips (ht : t = ⟨depth, levels, directory, c, p⟩) (h : marks.headD false = true)
    (cs : List Command) (ts : List (Turn σ)) :
    unmarked marks (c :: cs) = unmarked marks.tail cs ∧
      unmarked (Turn.marks depth marks (t :: ts)) (t :: ts)
        = unmarked (Turn.marks depth marks.tail ts) ts ∧
      marked (Turn.marks depth marks (t :: ts)) (t :: ts)
        = t :: marked (Turn.marks depth marks.tail ts) ts := by
  rw [Turn.marks_own (by rw [ht]), h]
  exact ⟨if_pos h, rfl, rfl⟩

/-- Any other command of the script itself stays, with its turn. -/
theorem stays (ht : t = ⟨depth, levels, directory, c, p⟩) (h : marks.headD false = false)
    (cs : List Command) (ts : List (Turn σ)) :
    unmarked marks (c :: cs) = c :: unmarked marks.tail cs ∧
      unmarked (Turn.marks depth marks (t :: ts)) (t :: ts)
        = t :: unmarked (Turn.marks depth marks.tail ts) ts ∧
      marked (Turn.marks depth marks (t :: ts)) (t :: ts)
        = marked (Turn.marks depth marks.tail ts) ts := by
  rw [Turn.marks_own (by rw [ht]), h]
  exact ⟨if_neg (by rw [h]; exact Bool.false_ne_true), rfl, rfl⟩

/-- What is not done is not marked, where all that is marked is idle. -/
theorem stays_of_fate (ht : t = ⟨depth, levels, directory, c, p⟩) (hfate : setup.fate t ≠ .done)
    {ts : List (Turn σ)}
    (hidle : ∀ u ∈ marked (Turn.marks depth marks (t :: ts)) (t :: ts), setup.Idle k u) :
    marks.headD false = false := by
  refine Bool.eq_false_iff.mpr fun h => hfate ?_
  rw [(skips ht h [] ts).2.2] at hidle
  exact (hidle t List.mem_cons_self).done

section

variable (hk : k.Deaf) (hdemo : setup.session.config.demo = false)
variable (hregistry : setup.registry.Respects k.outside)
variable (hfake : setup.fake.Respects k.outside)

include hk hdemo hregistry hfake

/-- A run takes the turns of the run without the marked commands, and those of the marked
commands. -/
theorem Takes.unmarked {cs : List Command} {q : Progress σ} {ts : List (Turn σ)}
    {r : Except Error Unit} (h : setup.Takes levels depth directory cs p ts r q)
    (hidle : ∀ t ∈ marked (Turn.marks depth marks ts) ts, setup.Idle k t) (hp : k.Beside p p') :
    ∃ us q', setup.Takes levels depth directory (PageScript.unmarked marks cs) p' us r q' ∧
      k.Beside q q' ∧
      List.Forall₂ setup.Matches (PageScript.unmarked (Turn.marks depth marks ts) ts) us := by
  induction h generalizing p' marks with
  | nil => exact ⟨[], p', .nil, hp, .nil⟩
  | @done levels depth directory c cs p s ts r t ht hfate hrest ih =>
    cases hmark : marks.headD false with
    | true =>
      -- the other run waits
      obtain ⟨hcs, hts, hmarked⟩ := skips ht hmark cs ts
      rw [hmarked] at hidle
      obtain ⟨first, rest⟩ := List.forall_mem_cons.mp hidle
      have closing := first.beside p' (by rwa [ht])
      rw [hcs, hts]
      exact ih rest (closing.counting _ p'.executed)
    | false =>
      obtain ⟨u, hu, first, closing⟩ := matches_beside hk hdemo hregistry hfake ht hp
      obtain ⟨hcs, hts, hmarked⟩ := stays ht hmark cs ts
      rw [hmarked] at hidle
      obtain ⟨us, q', takes, hq, matched⟩ := ih hidle (closing.counting _ _)
      rw [hcs, hts]
      exact ⟨u :: us, q', .done hu (first.fate.symm.trans hfate) takes, hq, .cons first matched⟩
  | @failed levels depth directory c cs p s ts r t e ht hfate herrors hrest ih =>
    obtain ⟨u, hu, first, closing⟩ := matches_beside hk hdemo hregistry hfake ht hp
    obtain ⟨hcs, hts, hmarked⟩ := stays ht (stays_of_fate ht (by simp [hfate]) hidle) cs ts
    rw [hmarked] at hidle
    obtain ⟨us, q', takes, hq, matched⟩ :=
      ih hidle (closing.failed hk (p.index + 1) (p'.index + 1) c e)
    rw [hcs, hts]
    exact ⟨u :: us, q', .failed hu (first.fate.symm.trans hfate) herrors takes, hq,
      .cons first matched⟩
  | @ended levels depth directory c cs p t e ht hfate herrors =>
    obtain ⟨u, hu, first, closing⟩ := matches_beside hk hdemo hregistry hfake ht hp
    obtain ⟨hcs, hts, -⟩ := stays ht (stays_of_fate ht (by simp [hfate]) hidle) cs []
    rw [hcs, hts]
    exact ⟨[u], _, .ended hu (first.fate.symm.trans hfate) herrors,
      closing.failed hk (p.index + 1) (p'.index + 1) c e, .cons first .nil⟩
  | @loaded levels depth directory c cs p q s us ts r t script ht hfate hinside hrest ihinside ih =>
    obtain ⟨u, hu, first, closing⟩ := matches_beside hk hdemo hregistry hfake ht hp
    have deeper : ∀ u ∈ us, u.depth ≠ depth := fun u hmem =>
      Nat.ne_of_gt (hinside.depth_add_levels u hmem).1
    obtain ⟨hcs, hts, hmarked⟩ :=
      stays ht (stays_of_fate ht (by simp [hfate]) hidle) cs (us ++ ts)
    rw [List.cons_append, hmarked, Turn.marked_deeper deeper] at hidle
    -- the script that is included has no marks
    have unmarkedInside : ∀ t ∈ marked (Turn.marks (depth + 1) [] us) us, setup.Idle k t := by
      simp [Turn.marked_none]
    obtain ⟨us', q', inside, hq, matchedInside⟩ := ihinside unmarkedInside closing
    rw [unmarked_none] at inside
    rw [Turn.unmarked_none] at matchedInside
    obtain ⟨ts', s', takes, hs, matched⟩ := ih hidle hq
    rw [hcs, List.cons_append, hts, Turn.unmarked_deeper deeper]
    exact ⟨u :: us' ++ ts', s', .loaded hu (first.fate.symm.trans hfate) inside takes, hs,
      List.rel_append (.cons first matchedInside) matched⟩
  | @broken levels depth directory c cs p q us t script e ht hfate hinside ihinside =>
    obtain ⟨u, hu, first, closing⟩ := matches_beside hk hdemo hregistry hfake ht hp
    have deeper : ∀ u ∈ us, u.depth ≠ depth := fun u hmem =>
      Nat.ne_of_gt (hinside.depth_add_levels u hmem).1
    obtain ⟨hcs, hts, -⟩ := stays ht (stays_of_fate ht (by simp [hfate]) hidle) cs us
    have unmarkedInside : ∀ t ∈ marked (Turn.marks (depth + 1) [] us) us, setup.Idle k t := by
      simp [Turn.marked_none]
    obtain ⟨us', q', inside, hq, matchedInside⟩ := ihinside unmarkedInside closing
    rw [unmarked_none] at inside
    rw [Turn.unmarked_none] at matchedInside
    have all := Turn.unmarked_deeper deeper marks.tail []
    rw [List.append_nil, unmarked_nil, List.append_nil] at all
    rw [hcs, hts, all]
    exact ⟨u :: us', q', .broken hu (first.fate.symm.trans hfate) inside, hq,
      .cons first matchedInside⟩

end

/-! ## What is counted and collected -/

variable {ts us : List (Turn σ)}

/-- Apart from the marked turns, as many are done. -/
theorem countP_done (hdone : ∀ t ∈ marked marks ts, setup.fate t = .done)
    (h : List.Forall₂ setup.Matches (unmarked marks ts) us) :
    ts.countP (fun t => (setup.fate t).isDone)
      = us.countP (fun t => (setup.fate t).isDone) + (marked marks ts).length := by
  induction ts generalizing marks us with
  | nil =>
    cases h
    rfl
  | cons t ts ih =>
    unfold unmarked at h
    unfold marked at hdone ⊢
    cases hmark : marks.headD false with
    | true =>
      rw [hmark, if_pos rfl] at h hdone
      obtain ⟨first, rest⟩ := List.forall_mem_cons.mp hdone
      have done : (setup.fate t).isDone = true := by rw [first]; rfl
      rw [List.countP_cons_of_pos (p := fun t => (setup.fate t).isDone) done, ih rest h]
      rfl
    | false =>
      rw [hmark, if_neg Bool.false_ne_true] at h hdone
      cases h with
      | cons hfirst h =>
        simp [List.countP_cons, ih hdone h, hfirst.fate]
        omega

section

variable {n m : Nat}

/-- The first turn is in front of the failures behind it. -/
theorem lowered_cons {f : Failure} (h : n + 1 < f.index) :
    f.lowered n m marks (t :: ts)
      = f.lowered (n + 1) (if marks.headD false then m + 1 else m) marks.tail ts := by
  obtain ⟨i, hi, hj⟩ : ∃ i, f.index - n = i + 1 ∧ f.index - (n + 1) = i :=
    ⟨f.index - (n + 1), by omega, rfl⟩
  rw [Failure.lowered, Failure.lowered, hi, hj, List.take_succ_cons, marked]
  split
  · rw [List.length_cons, Nat.add_right_comm, Nat.add_assoc]
  · rfl

/-- A failure of the first turn has no other turn in front of it. -/
theorem lowered_first (h : marks.headD false = false) (command error : String) :
    (Failure.mk (n + 1) command error).lowered n m marks (t :: ts)
      = ⟨n + 1 - m, command, error⟩ := by
  have none : marked marks ((t :: ts).take (n + 1 - n)) = [] := by
    rw [Nat.add_sub_cancel_left, List.take_succ_cons, List.take_zero, marked, h]
    rfl
  rw [Failure.lowered, none]
  rfl

/-- The same turns fail, and their numbers go down by the marked turns in front of them. -/
theorem failuresOf_unmarked (hmn : m ≤ n) (hdone : ∀ t ∈ marked marks ts, setup.fate t = .done)
    (h : List.Forall₂ setup.Matches (unmarked marks ts) us) :
    setup.failuresOf (n - m) us = (setup.failuresOf n ts).map (Failure.lowered n m marks ts) := by
  induction ts generalizing marks us n m with
  | nil =>
    cases h
    rfl
  | cons t ts ih =>
    have later : (setup.failuresOf (n + 1) ts).map (Failure.lowered n m marks (t :: ts))
        = (setup.failuresOf (n + 1) ts).map
          (Failure.lowered (n + 1) (if marks.headD false then m + 1 else m) marks.tail ts) :=
      List.map_congr_left fun f hf => lowered_cons (setup.lt_index_of_mem_failuresOf hf)
    unfold unmarked at h
    unfold marked at hdone
    cases hmark : marks.headD false with
    | true =>
      rw [hmark, if_pos rfl] at h hdone later
      obtain ⟨first, rest⟩ := List.forall_mem_cons.mp hdone
      have none : (setup.fate t).error? = none := by rw [first]; rfl
      have behind := ih (Nat.succ_le_succ hmn) rest h
      rw [Nat.succ_sub_succ] at behind
      rw [behind, failuresOf, none, later]
    | false =>
      rw [hmark, if_neg Bool.false_ne_true] at h hdone later
      cases h with
      | @cons _ u _ us hfirst h =>
        have behind := ih (Nat.le_succ_of_le hmn) hdone h
        rw [Nat.succ_sub hmn, ← later] at behind
        rw [failuresOf, failuresOf, ← hfirst.fate, ← hfirst.command]
        cases (setup.fate t).error? with
        | none => exact behind
        | some e =>
          dsimp only
          rw [List.map_cons, lowered_first hmark, behind, Nat.succ_sub hmn]

end

/-! ## Whole runs -/

/-- Without spectators a script runs as it does without the marked commands, if they are idle wherever
the run comes to them. -/
theorem run_unmarked (setup : Setup σ) (hdemo : setup.session.config.demo = false)
    {k : Coupling setup.session} (hk : k.Deaf) (hregistry : setup.registry.Respects k.outside)
    (hfake : setup.fake.Respects k.outside) {script : Script} {world : World σ}
    (hworld : k.world world world)
    (hidle : ∀ t ∈ marked (Turn.marks 0 marks (setup.scriptTurns script world))
      (setup.scriptTurns script world), setup.Idle k t) :
    let whole := setup.run script world
    let rest := setup.run (script.unmarked marks) world
    let ts := setup.scriptTurns script world
    EndsWithFewer (marked marks script.commands).length
        (Failure.unmarked (Turn.marks 0 marks ts) ts) whole.result rest.result ∧
      rest.phase = whole.phase ∧ k.world whole.world rest.world := by
  obtain ⟨r, q, hrun, takes⟩ := setup.run_takes script world
  have begins : k.Beside (setup.start world) (setup.start world) :=
    ⟨hworld, rfl, hregistry.withUsual (Namespace.all_empty _)⟩
  obtain ⟨us, q', others, beside, matched⟩ :=
    takes.unmarked hk hdemo hregistry hfake hidle begins
  have hothers : setup.run (script.unmarked marks) world = .of (r, q') := by
    rw [run_eq]
    exact congrArg Ending.of others.eq_turns.2
  have hdone := fun t ht => (hidle t ht).done
  dsimp only
  rw [hrun, hothers]
  cases r with
  | error e => exact ⟨.failed e, rfl, beside.world⟩
  | ok _ =>
    refine ⟨.reported ?_ ?_ beside.names.symm, rfl, beside.world⟩
    · have all := congrArg (marked marks) takes.commands_eq
      rw [← Turn.marked_commands] at all
      show q.executed = q'.executed + _
      rw [takes.executed_eq, others.executed_eq, countP_done hdone matched, ← all, List.length_map]
      exact (Nat.add_assoc ..).symm
    · show q'.failures = q.failures.map _
      rw [takes.failures_eq, others.failures_eq]
      exact failuresOf_unmarked (Nat.le_refl 0) hdone matched

end Setup

end PageScript
