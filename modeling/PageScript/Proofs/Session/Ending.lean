import PageScript.Page.Basic
import PageScript.Proofs.Browser.Place
import PageScript.Proofs.Session.Calls

/-!
# Sessions that end by being stopped

`Session.EndsByStop` says of a session that it is stopped by being stopped and by nothing else,
whatever calls are made to it.  A browser in use is such a session in every state, and so is a page
held in memory, unless it is made to fail when it is stopped.
-/

namespace PageScript

/-- Whatever calls are made from the state on, stopping the session stops it, and no other call
stops it or makes it usable again. -/
structure Session.EndsByStop {σ : Type} (s : Session σ) (x : σ) : Prop where
  stop : ∀ cs, s.status (s.perform .stop (s.after x cs)).after = .stopped
  keep : ∀ cs c, c ≠ .stop →
    s.status (s.perform c (s.after x cs)).after = s.status (s.after x cs)

namespace Session.EndsByStop

variable {σ : Type} {s : Session σ} {x : σ}

/-- It stays so behind every call. -/
theorem call (h : s.EndsByStop x) (c : Call) : s.EndsByStop (s.perform c x).after :=
  ⟨fun cs => h.stop (c :: cs), fun cs => h.keep (c :: cs)⟩

theorem stopped (h : s.EndsByStop x) : s.status (s.perform .stop x).after = .stopped := h.stop []

/-- What every call keeps may be used to show what the calls do. -/
theorem of_invariant {P : σ → Prop} (hcall : ∀ c x, P x → P (s.perform c x).after)
    (hstop : ∀ x, P x → s.status (s.perform .stop x).after = .stopped)
    (hkeep : ∀ c x, P x → c ≠ .stop → s.status (s.perform c x).after = s.status x) (hx : P x) :
    s.EndsByStop x where
  stop _ := hstop _ (s.after_keeps (fun c _ => hcall c) hx)
  keep _ c := hkeep c _ (s.after_keeps (fun c _ => hcall c) hx)

end Session.EndsByStop

/-! ## Browsers -/

section

variable {τ : Type} (link : Link τ)

namespace Use

/-- The browser is there afterwards if it was before. -/
def KeepsAlive {α : Type} (u : Use τ α) : Prop := ∀ v, Keeps (fun b => b.alive = v) u

theorem Stays.keepsAlive {α : Type} {u : Use τ α} (h : u.Stays) : u.KeepsAlive :=
  fun _ b hb => (congrArg Place.alive (h b.place b rfl)).trans hb

theorem keepsAlive_activate (i : Nat) : (activate link i).KeepsAlive := by
  refine fun v => .of_get fun b _ => ?_
  cases b.tabs[i]? with
  | none => exact .of_throw _
  | some t =>
    exact .of_bind (stays_ensureAlive.keepsAlive v) fun _ =>
      .of_bind ((stays_request link _).keepsAlive v) fun _ => .of_modify fun _ h => h

theorem keepsAlive_openTab (url : Option String) : (openTab link url).KeepsAlive := fun v =>
  .of_bind (stays_ensureAlive.keepsAlive v) fun _ =>
    .of_bind ((stays_request link _).keepsAlive v) fun _ =>
      .of_bind (.of_modify fun _ h => h) fun _ => .of_get fun _ _ => keepsAlive_activate link _ v

theorem keepsAlive_newWindow (config : Config) (url : Option String) :
    (newWindow link config url).KeepsAlive := by
  refine fun v => .of_bind (keepsAlive_openTab link url v) fun _ => ?_
  split
  · exact (stays_afterNavigation link config).keepsAlive v
  · exact .of_pure ()

theorem keepsAlive_closeTab : (closeTab link).KeepsAlive := by
  refine fun v => .of_get fun b _ => .of_guard ?_
  refine .of_bind (stays_tab.keepsAlive v) fun _ =>
    .of_bind ((stays_request link _).keepsAlive v) fun _ => .of_bind (.of_modify fun _ h => h) ?_
  exact fun _ => .of_get fun _ _ => keepsAlive_activate link _ v

theorem keepsAlive_perform (config : Config) {c : Call} (hc : c ≠ .stop) :
    (perform link config c).KeepsAlive := by
  cases hwindow : c.isAboutWindows with
  | false => exact (stays_perform link config hc hwindow).keepsAlive
  | true =>
    cases c with
    | newWindow url => exact keepsAlive_newWindow link config url
    | closeWindow => exact keepsAlive_closeTab link
    | switchToWindow index => exact keepsAlive_activate link index
    | _ => cases hwindow

end Use

theorem Browsing.session_endsByStop (config : Config) (b : Browsing τ) :
    (session link config).EndsByStop b := by
  refine .of_invariant (P := fun _ => True) (fun _ _ _ => trivial) (fun b _ => ?_)
    (fun c b _ hc => ?_) trivial
  · have quit : (Use.stop link { b with notes := [] }).2.alive = false :=
      congrArg Place.alive (Use.place_stop link _)
    show (if (Use.stop link { b with notes := [] }).2.alive then Status.running else _) = _
    rw [quit]
    rfl
  · have same : (Use.perform link config c { b with notes := [] }).2.alive = b.alive :=
      Use.keepsAlive_perform link config hc _ _ rfl
    show (if (Use.perform link config c { b with notes := [] }).2.alive then Status.running else _)
      = if b.alive then _ else _
    rw [same]

end

/-! ## Pages held in memory -/

namespace Page

/-- The page may change in all but whether it is stopped and which calls fail. -/
def Akin (p q : Page) : Prop := q.stopped = p.stopped ∧ q.faults = p.faults

theorem akin_changeFirst (p : Page) (selector : String) (change : Field → Field) :
    p.Akin (p.changeFirst selector change).2 := by
  unfold changeFirst
  cases p.fields selector with
  | nil => exact ⟨rfl, rfl⟩
  | cons f fs => exact ⟨rfl, rfl⟩

theorem akin_closeAlert (p : Page) : p.Akin p.closeAlert.2 := by
  unfold closeAlert
  cases p.alerts with
  | nil => exact ⟨rfl, rfl⟩
  | cons a rest => exact ⟨rfl, rfl⟩

theorem akin_answer (p : Page) {c : Call} (hc : c ≠ .stop) : p.Akin (p.answer c).2 := by
  cases c with
  | stop => exact absurd rfl hc
  | click s => exact p.akin_changeFirst s _
  | setValue s v w => exact p.akin_changeFirst s _
  | clear s => exact p.akin_changeFirst s _
  | selectOption s text => exact p.akin_changeFirst s _
  | acceptAlert => exact p.akin_closeAlert
  | dismissAlert => exact p.akin_closeAlert
  | setValueAt s i v =>
    unfold answer
    dsimp only
    cases (p.fields s)[i]? with
    | none => exact ⟨rfl, rfl⟩
    | some f => exact ⟨rfl, rfl⟩
  | waitFor condition d =>
    unfold answer
    dsimp only
    split
    · exact ⟨rfl, rfl⟩
    · exact ⟨rfl, rfl⟩
  | _ => exact ⟨rfl, rfl⟩

variable {config : Config} {p : Page}

theorem akin_perform {c : Call} (hc : c ≠ .stop) : p.Akin ((session config).perform c p).after := by
  unfold session
  dsimp only
  cases p.faults.lookup c.name with
  | none => exact p.akin_answer hc
  | some text => exact ⟨rfl, rfl⟩

theorem perform_stop (h : p.faults.lookup "stop" = none) :
    ((session config).perform .stop p).after = { p with stopped := true } := by
  unfold session
  dsimp only
  rw [show Call.stop.name = "stop" from rfl, h]
  rfl

theorem session_endsByStop (h : p.faults.lookup "stop" = none) :
    (session config).EndsByStop p := by
  refine .of_invariant (P := fun p => p.faults.lookup "stop" = none) (fun c p hp => ?_)
    (fun p hp => ?_) (fun c p _ hc => ?_) h
  · by_cases hc : c = .stop
    · subst hc
      rw [perform_stop hp]
      exact hp
    · rw [(akin_perform hc).2]
      exact hp
  · rw [perform_stop hp]
    rfl
  · show (if (((session config).perform c p).after).stopped then Status.stopped else _)
      = if p.stopped then _ else _
    rw [(akin_perform hc).1]

end Page

end PageScript
