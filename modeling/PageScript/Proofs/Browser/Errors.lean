import PageScript.Proofs.Browser.Uses
import PageScript.Proofs.Operation.Errors

/-!
# The errors of a browser in use

A call to a browser in use fails because a request fails, because of what a request is answered with,
because there is no window for it, or because the browser has been quit.  It never fails because a
command is unknown, unless a request does (`Browsing.session_familiar`).
-/

namespace PageScript

variable {τ α : Type}

/-- No request fails because a command is unknown, and that does not stand for an answer. -/
structure Link.Familiar (link : Link τ) : Prop where
  requests : ∀ r state, PageScript.Familiar (link.ask r state).1
  unanswered : link.unanswered.isUnknown = false

namespace Use

/-- The use of a browser does not fail because a command is unknown. -/
abbrev Familiar (u : Use τ α) : Prop := StaysFamiliar (fun _ => True) u

theorem undisturbed_familiar {link : Link τ} (hlink : link.Familiar) :
    Undisturbed link (fun _ => True) (fun _ => True) fun e => e.isUnknown = false :=
  ⟨fun _ _ _ h => h, fun _ _ h => h, fun _ _ h => h, hlink.requests, hlink.unanswered, fun _ h => h⟩

section

variable {link : Link τ}
  (h : Undisturbed link (fun _ => True) (fun _ => True) fun e => e.isUnknown = false)

include h

theorem activate_familiar (index : Nat) : (activate link index).Familiar := by
  refine .of_get fun b _ => ?_
  cases b.tabs[index]? with
  | none => exact .of_throw rfl
  | some tab =>
    exact .of_bind (ensureAlive_confined h.own) fun _ => .of_bind (request_confined h trivial) fun _ =>
      .of_modify fun _ h => h

theorem openTab_familiar (url : Option String) : (openTab link url).Familiar :=
  .of_bind (ensureAlive_confined h.own) fun _ => .of_bind (request_confined h trivial) fun _ =>
    .of_bind (.of_modify fun _ h => h) fun _ => .of_get fun _ _ => activate_familiar h _

theorem newWindow_familiar (config : Config) (url : Option String) :
    (newWindow link config url).Familiar := by
  refine .of_bind (openTab_familiar h url) fun _ => ?_
  split
  · exact afterNavigation_confined h config fun _ _ _ _ => trivial
  · exact .of_pure ()

theorem closeTab_familiar : (closeTab link).Familiar := by
  refine .of_get fun b _ => .of_guard rfl ?_
  exact .of_bind (tab_confined h.own) fun _ => .of_bind (request_confined h trivial) fun _ =>
    .of_bind (.of_modify fun _ h => h) fun _ => .of_get fun b _ => activate_familiar h _

theorem quit_familiar : (quit link).Familiar := by
  refine .of_get fun b _ => .of_bind (.of_modify fun _ h => h) fun _ => ?_
  split
  · exact request_confined h trivial
  · exact .of_pure ()

theorem stop_familiar : (stop link).Familiar := by
  refine .of_get fun b _ => ?_
  split
  · exact .of_bind (note_confined h _ _) fun _ => quit_familiar h
  · exact quit_familiar h

/-- No call fails because a command is unknown. -/
theorem perform_familiar (config : Config) (c : Call) : (perform link config c).Familiar := by
  by_cases hstop : c = .stop
  · subst hstop
    exact stop_familiar h
  · cases hwindow : c.isAboutWindows with
    | false => exact perform_confined h config hstop hwindow fun _ _ => trivial
    | true =>
      cases c with
      | newWindow url => exact newWindow_familiar h config url
      | closeWindow => exact closeTab_familiar h
      | switchToWindow index => exact activate_familiar h index
      | _ => cases hwindow

end

end Use

theorem Browsing.session_familiar {link : Link τ} (hlink : link.Familiar) (config : Config) :
    (Browsing.session link config).Familiar :=
  fun c b => (Use.perform_familiar (Use.undisturbed_familiar hlink) config c
    { b with notes := [] } trivial).1

end PageScript
