import Mathlib.Order.Bounds.Basic
import Mathlib.Order.Nat
import PageScript.Proofs.Session.Waiting
import PageScript.Session.Config

/-!
# How often waiting checks

Waiting looks at the time behind every check, so after `n` checks that found nothing `n` pauses have
passed.  If there is a deadline, it checks until the condition is found, and for the last time when as
many pauses have passed as the time allowed takes (`Waiting.wait_checks`).  The failure that it tells
is the one of the latest check that failed, be it the last check or not
(`Waiting.lastFailure_eq_some_iff`).

The checks are counted by a check that keeps the number of times it was made (`Waiting.counting`).
What the checks find may be any row of outcomes (`Waiting.outcome_scripted`).
-/

namespace PageScript

namespace Waiting

variable {σ : Type} (check : σ → Except Error Bool × σ) (s : σ)

/-! ## Checks in a row -/

/-- The state after a number of checks. -/
def after : Nat → σ
  | 0 => s
  | n + 1 => (check (after n)).2

/-- What a check finds that has so many checks in front of it. -/
def outcome (n : Nat) : Except Error Bool := (check (after check s n)).1

/-- The failure of the latest check that failed, among the first so many. -/
def lastFailure : Nat → Option Error
  | 0 => none
  | n + 1 => latest (lastFailure n) (outcome check s n)

/-- The check, with the number of times it was made. -/
def counting (x : σ × Nat) : Except Error Bool × (σ × Nat) :=
  ((check x.1).1, ((check x.1).2, x.2 + 1))

variable {check s}

theorem after_counting (n : Nat) : after (counting check) (s, 0) n = (after check s n, n) := by
  induction n with
  | zero => rfl
  | succ n ih => rw [after, ih]; rfl

theorem outcome_counting (n : Nat) :
    outcome (counting check) (s, 0) n = outcome check s n := by
  rw [outcome, after_counting]
  rfl

theorem lastFailure_counting (n : Nat) :
    lastFailure (counting check) (s, 0) n = lastFailure check s n := by
  induction n with
  | zero => rfl
  | succ n ih => rw [lastFailure, ih, outcome_counting, lastFailure]

/-- Every row of outcomes is what some check finds. -/
theorem outcome_scripted (o : Nat → Except Error Bool) :
    outcome (fun n => (o n, n + 1)) 0 = o := by
  have position (n : Nat) : after (fun n => (o n, n + 1)) 0 n = n := by
    induction n with
    | zero => rfl
    | succ n ih => rw [after, ih]
  funext n
  rw [outcome, position]

/-- A failure stays the latest until another check fails. -/
theorem lastFailure_eq_some_iff {n : Nat} {e : Error} :
    lastFailure check s n = some e ↔
      ∃ j, IsGreatest {j | j < n ∧ ∃ e, outcome check s j = .error e} j ∧
        outcome check s j = .error e := by
  induction n with
  | zero => simp [lastFailure, IsGreatest]
  | succ n ih =>
    cases hn : outcome check s n with
    | ok b =>
      -- the check in the last place does not count
      have same : {j | j < n + 1 ∧ ∃ e, outcome check s j = .error e}
          = {j | j < n ∧ ∃ e, outcome check s j = .error e} := by
        ext j
        refine and_congr_left fun ⟨e, he⟩ => ⟨fun hj => ?_, Nat.lt_succ_of_lt⟩
        refine Nat.lt_of_le_of_ne (Nat.le_of_lt_succ hj) fun hjn => ?_
        rw [hjn, hn] at he
        cases he
      rw [lastFailure, hn, latest, ih, same]
    | error e' =>
      have greatest : IsGreatest {j | j < n + 1 ∧ ∃ e, outcome check s j = .error e} n :=
        ⟨⟨Nat.lt_succ_self n, e', hn⟩, fun j hj => Nat.le_of_lt_succ hj.1⟩
      rw [lastFailure, hn, latest]
      constructor
      · intro h
        cases h
        exact ⟨n, greatest, hn⟩
      · rintro ⟨j, hj, he⟩
        rw [hj.unique greatest, hn] at he
        cases he
        rfl

/-! ## The course of waiting -/

variable {timeout interval : Nat} {what : String}

/-- While nothing is found and the time is not over, checks and pauses take turns. -/
theorem poll_turns (hpause : 0 < interval) {n : Nat}
    (hnone : ∀ j < n, outcome check s j ≠ .ok true) (early : ∀ j < n, ¬ timeout ≤ j * interval) :
    poll check timeout interval what 0 none s
      = poll check timeout interval what (n * interval) (lastFailure check s n)
          (after check s n) := by
  induction n with
  | zero => rw [Nat.zero_mul]; rfl
  | succ n ih =>
    have made : check (after check s n) = (outcome check s n, after check s (n + 1)) := rfl
    rw [ih (fun j hj => hnone j (Nat.lt_succ_of_lt hj)) fun j hj => early j (Nat.lt_succ_of_lt hj),
      poll_again made (hnone n (Nat.lt_succ_self n)) (early n (Nat.lt_succ_self n)),
      Nat.max_eq_left hpause, Nat.succ_mul]
    rfl

section

variable {began : Nat} (hdeadline : hasDeadline began timeout = true)

include hdeadline

theorem wait_found (hpause : 0 < interval) {k : Nat} (hfound : outcome check s k = .ok true)
    (hnone : ∀ j < k, outcome check s j ≠ .ok true) (early : ∀ j < k, ¬ timeout ≤ j * interval) :
    wait check began timeout interval what s = some (.ok (), after check s (k + 1)) := by
  have made : check (after check s k) = (.ok true, after check s (k + 1)) := by
    rw [← hfound]
    rfl
  rw [wait_bounded hdeadline, poll_turns hpause hnone early, poll_found made]

theorem wait_vain (hpause : 0 < interval) {k : Nat}
    (hnone : ∀ j ≤ k, outcome check s j ≠ .ok true) (early : ∀ j < k, ¬ timeout ≤ j * interval)
    (late : timeout ≤ k * interval) :
    wait check began timeout interval what s
      = some (.error (inVain timeout what (lastFailure check s (k + 1))), after check s (k + 1)) := by
  have made : check (after check s k) = (outcome check s k, after check s (k + 1)) := rfl
  rw [wait_bounded hdeadline, poll_turns hpause (fun j hj => hnone j (Nat.le_of_lt hj)) early,
    poll_vain made (hnone k (Nat.le_refl k)) late]
  rfl

end

/-- Waiting with a deadline checks until the condition is found, and not beyond the first check at
which the time allowed is over.  There it gives up and tells the failure of the latest check that
failed.  So it checks at least once and comes to an end, whatever the checks find.  The pause of a
session is never empty. -/
theorem wait_checks (check : σ → Except Error Bool × σ) (s : σ) (what : String)
    {began timeout interval last : Nat} (hdeadline : hasDeadline began timeout = true)
    (hpause : 0 < interval) (hlast : IsLeast {n | timeout ≤ n * interval} last) :
    let waited := wait (counting check) began timeout interval what (s, 0)
    (∀ k, IsLeast {k | k ≤ last ∧ outcome check s k = .ok true} k →
      waited = some (.ok (), (after check s (k + 1), k + 1))) ∧
    ((∀ k ≤ last, outcome check s k ≠ .ok true) → ∃ failure,
      waited = some (.error (inVain timeout what failure), (after check s (last + 1), last + 1)) ∧
      ∀ e, failure = some e ↔ ∃ j, IsGreatest {j | j ≤ last ∧ ∃ e, outcome check s j = .error e} j ∧
        outcome check s j = .error e) ∧
    (∃ result checks, waited = some (result, (after check s checks, checks)) ∧
      1 ≤ checks ∧ checks ≤ last + 1) ∧
    ∀ c : Config, 0 < c.pollInterval := by
  intro waited
  have early (j : Nat) (hj : j < last) : ¬ timeout ≤ j * interval :=
    fun h => absurd (hlast.2 h) (Nat.not_le_of_lt hj)
  have found (k : Nat) (hk : IsLeast {k | k ≤ last ∧ outcome check s k = .ok true} k) :
      waited = some (.ok (), (after check s (k + 1), k + 1)) := by
    obtain ⟨⟨hle, htrue⟩, hleast⟩ := hk
    rw [← after_counting]
    refine wait_found hdeadline hpause (by rw [outcome_counting, htrue]) (fun j hj => ?_)
      fun j hj => early j (Nat.lt_of_lt_of_le hj hle)
    rw [outcome_counting]
    intro hj'
    exact absurd (hleast ⟨Nat.le_of_lt (Nat.lt_of_lt_of_le hj hle), hj'⟩) (Nat.not_le_of_lt hj)
  have vain (hnone : ∀ k ≤ last, outcome check s k ≠ .ok true) :
      waited = some (.error (inVain timeout what (lastFailure check s (last + 1))),
        (after check s (last + 1), last + 1)) := by
    rw [← after_counting, ← lastFailure_counting]
    refine wait_vain hdeadline hpause (fun j hj => ?_) early hlast.1
    rw [outcome_counting]
    exact hnone j hj
  refine ⟨found, fun hnone => ⟨_, vain hnone, fun e => ?_⟩, ?_, Config.pollInterval_pos⟩
  · simp only [lastFailure_eq_some_iff, Nat.lt_succ_iff]
  · by_cases hnone : ∀ k ≤ last, outcome check s k ≠ .ok true
    · exact ⟨_, _, vain hnone, Nat.succ_pos last, Nat.le_refl _⟩
    · -- of the checks that find the condition, waiting ends with the first
      have some : ∃ k, k ≤ last ∧ outcome check s k = .ok true := by simpa using hnone
      classical
      exact ⟨_, _, found _ (Nat.isLeast_find some), Nat.succ_pos _,
        Nat.succ_le_succ (Nat.find_spec some).1⟩

/-- The second of four checks fails and the fourth finds the condition.  With three pauses allowed
it is found at the last moment.  With less than that the failure of the second check is told,
although the third did not fail. -/
theorem wait_checks_at_the_end :
    let o (n : Nat) : Except Error Bool :=
      if n = 1 then .error (.actionFailed "boom") else .ok (decide (n = 3))
    let check (n : Nat) := (o n, n + 1)
    hasDeadline 7 15 = true ∧ 0 < 5 ∧ IsLeast {n | 15 ≤ n * 5} 3 ∧
      wait (counting check) 7 15 5 "it" (0, 0) = some (.ok (), (4, 4)) ∧
      hasDeadline 7 10 = true ∧ IsLeast {n | 10 ≤ n * 5} 2 ∧
      wait (counting check) 7 10 5 "it" (0, 0)
        = some (.error (.timeout "waited 10ns for it (last error: action failed: boom)"), (3, 3)) := by
  intro o check
  have early : hasDeadline 7 15 = true := by decide +kernel
  have earlier : hasDeadline 7 10 = true := by decide +kernel
  have pause : 0 < 5 := by decide
  have three : IsLeast {n | 15 ≤ n * 5} 3 := by
    refine ⟨Nat.le_refl 15, fun n hn => ?_⟩
    exact Nat.le_of_mul_le_mul_right hn pause
  have two : IsLeast {n | 10 ≤ n * 5} 2 := by
    refine ⟨Nat.le_refl 10, fun n hn => ?_⟩
    exact Nat.le_of_mul_le_mul_right hn pause
  have fourth : IsLeast {n | n ≤ 3 ∧ outcome check 0 n = .ok true} 3 := by
    have only : ∀ n ≤ 3, outcome check 0 n = .ok true → 3 ≤ n := by decide
    exact ⟨⟨Nat.le_refl 3, rfl⟩, fun n hn => only n hn.1 hn.2⟩
  have second : IsGreatest {n | n ≤ 2 ∧ ∃ e, outcome check 0 n = .error e} 1 := by
    refine ⟨⟨by decide, _, rfl⟩, fun n ⟨hn, e, he⟩ => ?_⟩
    have third : ∀ e, outcome check 0 2 ≠ .error e := fun e => nofun
    by_cases hn2 : n = 2
    · exact absurd (hn2 ▸ he) (third e)
    · omega
  obtain ⟨found, -⟩ := wait_checks check 0 "it" early pause three
  obtain ⟨-, vain, -⟩ := wait_checks check 0 "it" earlier pause two
  obtain ⟨failure, told, latest⟩ := vain (by decide)
  have boom : failure = some (.actionFailed "boom") := (latest _).mpr ⟨1, second, rfl⟩
  refine ⟨early, pause, three, found 3 fourth, earlier, two, ?_⟩
  rw [told, boom]
  decide +kernel

end Waiting

end PageScript
