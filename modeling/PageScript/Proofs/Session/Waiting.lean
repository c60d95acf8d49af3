import PageScript.Session.Waiting
import PageScript.Proofs.Run.Keeping

/-!
# What waiting leaves

Waiting is checking again and again.  It keeps what every check keeps.  If no check can succeed it
ends in vain, with the failure of the last check, or it has no deadline and does not end.
-/

namespace PageScript

namespace Waiting

variable {σ : Type} {check : σ → Except Error Bool × σ} {timeout interval : Nat} {what : String}

/-! ## One check -/

/-- The latest failure when a check has given a result. -/
def latest (last : Option Error) : Except Error Bool → Option Error
  | .ok _ => last
  | .error e => some e

variable {passed : Nat} {last : Option Error} {s t : σ} {r : Except Error Bool}

theorem poll_found (h : check s = (.ok true, t)) :
    poll check timeout interval what passed last s = (.ok (), t) := by
  rw [poll, h]

theorem poll_vain (h : check s = (r, t)) (hr : r ≠ .ok true) (late : timeout ≤ passed) :
    poll check timeout interval what passed last s
      = (.error (inVain timeout what (latest last r)), t) := by
  rw [poll, h]
  match r with
  | .ok false => exact if_pos late
  | .error e => exact if_pos late
  | .ok true => exact absurd rfl hr

theorem poll_again (h : check s = (r, t)) (hr : r ≠ .ok true) (early : ¬ timeout ≤ passed) :
    poll check timeout interval what passed last s
      = poll check timeout interval what (passed + max interval 1) (latest last r) t := by
  rw [poll, h]
  match r with
  | .ok false => exact if_neg early
  | .error e => exact if_neg early
  | .ok true => exact absurd rfl hr

/-- What every check keeps holds until waiting ends, and the last check decides how it ends. -/
theorem poll_ends {P : σ → Prop} {Q : Except Error Unit × σ → Prop}
    (hfound : ∀ s t, P s → check s = (.ok true, t) → Q (.ok (), t))
    (hvain : ∀ s r t last, P s → check s = (r, t) → r ≠ .ok true →
      Q (.error (inVain timeout what (latest last r)), t))
    (hagain : ∀ s r t, P s → check s = (r, t) → r ≠ .ok true → P t) :
    ∀ (passed : Nat) (last : Option Error) (s : σ), P s →
      Q (poll check timeout interval what passed last s)
  | passed, last, s, hs => by
    obtain ⟨r, t, hcheck⟩ : ∃ r t, check s = (r, t) := ⟨_, _, rfl⟩
    by_cases hr : r = .ok true
    · subst hr
      rw [poll_found hcheck]
      exact hfound s t hs hcheck
    · by_cases late : timeout ≤ passed
      · rw [poll_vain hcheck hr late]
        exact hvain s r t last hs hcheck hr
      · rw [poll_again hcheck hr late]
        exact poll_ends hfound hvain hagain _ _ t (hagain s r t hs hcheck hr)
termination_by passed => timeout - passed

/-! ## Checking for ever -/

theorem pollForever_found (h : check s = (.ok true, t)) : pollForever check s = some t := by
  rw [pollForever, h]

/-- What every check keeps holds until the condition is found, if it ever is. -/
theorem pollForever_ends {P Q : σ → Prop}
    (hfound : ∀ s t, P s → check s = (.ok true, t) → Q t)
    (hagain : ∀ s r t, P s → check s = (r, t) → r ≠ .ok true → P t) (hs : P s)
    (h : pollForever check s = some t) : Q t := by
  -- what a shorter row of checks gives may be taken for granted
  refine pollForever.partial_correctness (fun c s t => check = c → P s → Q t)
    (fun rest ih c s t hrest hc hs => ?_) check s t h rfl hs
  subst hc
  obtain ⟨r, u, hcheck⟩ : ∃ r u, check s = (r, u) := ⟨_, _, rfl⟩
  rw [hcheck] at hrest
  match r with
  | .ok true =>
    cases hrest
    exact hfound s _ hs hcheck
  | .ok false => exact ih _ u t hrest rfl (hagain s _ u hs hcheck nofun)
  | .error e => exact ih _ u t hrest rfl (hagain s _ u hs hcheck nofun)

/-! ## Waiting from an instant on -/

variable {began : Nat}

theorem wait_bounded (h : hasDeadline began timeout = true) (s : σ) :
    wait check began timeout interval what s
      = some (poll check timeout interval what 0 none s) := if_pos h

theorem wait_unbounded (h : hasDeadline began timeout = false) (s : σ) :
    wait check began timeout interval what s
      = (pollForever check s).map fun s => (.ok (), s) := if_neg (Bool.eq_false_iff.mp h)

theorem wait_found_first (h : check s = (.ok true, t)) :
    wait check began timeout interval what s = some (.ok (), t) := by
  cases hdeadline : hasDeadline began timeout with
  | true => rw [wait_bounded hdeadline, poll_found h]
  | false => rw [wait_unbounded hdeadline, pollForever_found h]; rfl

/-- What every check keeps holds until waiting ends, and the last check decides how it ends. -/
theorem wait_ends {P : σ → Prop} {Q : Except Error Unit × σ → Prop}
    (hfound : ∀ s t, P s → check s = (.ok true, t) → Q (.ok (), t))
    (hvain : ∀ s r t last, P s → check s = (r, t) → r ≠ .ok true →
      Q (.error (inVain timeout what (latest last r)), t))
    (hagain : ∀ s r t, P s → check s = (r, t) → r ≠ .ok true → P t) (hs : P s)
    {waited : Except Error Unit × σ}
    (hwait : wait check began timeout interval what s = some waited) : Q waited := by
  cases hdeadline : hasDeadline began timeout with
  | true =>
    cases (wait_bounded hdeadline s).symm.trans hwait
    exact poll_ends hfound hvain hagain 0 none s hs
  | false =>
    obtain ⟨t, ht, rfl⟩ :=
      Option.map_eq_some_iff.mp ((wait_unbounded hdeadline s).symm.trans hwait)
    exact pollForever_ends (Q := fun t => Q (.ok (), t)) hfound hagain hs ht

/-- Waiting keeps what the check keeps, and its errors are those of waiting in vain. -/
theorem wait_confined {P : σ → Prop} {E : Error → Prop} {check : ExceptT Error (StateM σ) Bool}
    (h : Keeps P check) (hvain : ∀ last, E (inVain timeout what last)) (hs : P s)
    {waited : Except Error Unit × σ}
    (hwait : wait check began timeout interval what s = some waited) :
    FailsWith E waited.1 ∧ P waited.2 := by
  have after : ∀ s r t, P s → check s = (r, t) → P t := by
    intro s r t hs hcheck
    have := h s hs
    rwa [hcheck] at this
  exact wait_ends (Q := fun x => FailsWith E x.1 ∧ P x.2)
    (fun s t hs hcheck => ⟨.of_ok (), after s _ t hs hcheck⟩)
    (fun s r t last hs hcheck _ => ⟨.of_error (hvain _), after s r t hs hcheck⟩)
    (fun s r t hs hcheck _ => after s r t hs hcheck) hs hwait

/-- What holds behind the first check holds behind waiting, if every check keeps it. -/
theorem wait_behind {P : σ → Prop} {check : ExceptT Error (StateM σ) Bool} (hfirst : P (check s).2)
    (h : Keeps P check) {waited : Except Error Unit × σ}
    (hwait : wait check began timeout interval what s = some waited) : P waited.2 := by
  have after : ∀ u r t, u = s ∨ P u → check u = (r, t) → P t := by
    rintro u r t (rfl | hu) hcheck
    · rwa [hcheck] at hfirst
    · have := h u hu
      rwa [hcheck] at this
  exact wait_ends (P := fun u => u = s ∨ P u) (Q := fun x => P x.2)
    (fun u t hu hcheck => after u _ t hu hcheck)
    (fun u r t _ hu hcheck _ => after u r t hu hcheck)
    (fun u r t hu hcheck _ => .inr (after u r t hu hcheck)) (.inl rfl) hwait

section

variable {P : σ → Prop} {e : Error} (h : ∀ s, P s → ∃ t, check s = (.error e, t) ∧ P t)

include h

/-- A failure is all that a check comes to. -/
theorem check_failing (hs : P s) (hcheck : check s = (r, t)) : r = .error e ∧ P t := by
  obtain ⟨u, hu, after⟩ := h s hs
  cases hu.symm.trans hcheck
  exact ⟨rfl, after⟩

variable (hs : P s)

include hs

/-- Where every check fails in one way, waiting with a deadline ends with that failure. -/
theorem wait_failing (hdeadline : hasDeadline began timeout = true) :
    ∃ t, wait check began timeout interval what s
      = some (.error (inVain timeout what (some e)), t) ∧ P t := by
  have waits : wait check began timeout interval what s = some _ := wait_bounded hdeadline s
  obtain ⟨t, ht, after⟩ := wait_ends
    (Q := fun x => ∃ t, x = (.error (inVain timeout what (some e)), t) ∧ P t)
    (fun s t hs hcheck => nomatch (check_failing h hs hcheck).1)
    (fun s r t last hs hcheck _ => by
      obtain ⟨rfl, after⟩ := check_failing h hs hcheck
      exact ⟨t, rfl, after⟩)
    (fun s r t hs hcheck _ => (check_failing h hs hcheck).2) hs waits
  exact ⟨t, waits.trans (congrArg some ht), after⟩

/-- Where every check fails, waiting without a deadline does not end. -/
theorem wait_endless (hdeadline : hasDeadline began timeout = false) :
    wait check began timeout interval what s = none := by
  rw [wait_unbounded hdeadline, Option.map_eq_none_iff]
  refine Option.eq_none_iff_forall_ne_some.mpr fun t ht => ?_
  exact pollForever_ends (Q := fun _ => False)
    (fun s t hs hcheck => nomatch (check_failing h hs hcheck).1)
    (fun s r t hs hcheck _ => (check_failing h hs hcheck).2) hs ht

end

end Waiting

end PageScript
