import PageScript.Proofs.Browser.Place
import PageScript.Proofs.Session.Calls

/-!
# Sessions that have come to their end

When a session has been stopped, the browser is gone, whatever it said to being quit.  From then on
nothing is asked of it.  Stopping again succeeds, and every other call fails.

It should fail because the session was stopped, and nearly every call does, since it looks for the
tab in use first.  Three calls come to another failure before they look for the browser: there is no
window to switch to and no window that may be closed, and waiting takes the failure of a check for
one more reason to wait.  If it waits without a deadline it does not come back at all.  `refusal`
tells the failure of every other call, and `ended_forever` says that there is nothing else to be had
from a stopped session.
-/

namespace PageScript

variable {τ α β : Type}

/-- The browser has been quit and has left this at the other end of the link. -/
structure Browsing.Gone (far : τ) (b : Browsing τ) : Prop where
  alive : b.alive = false
  tabs : b.tabs = []
  far : b.far = far

namespace Use

/-- Without a browser the use fails in one way, and nothing is asked. -/
def Refuses (far : τ) (e : Error) (u : Use τ α) : Prop :=
  ∀ b, b.Gone far → ∃ b', u b = (.error e, b') ∧ b'.Gone far

/-! ## Refusing at first -/

variable {far : τ} {e : Error} {u : Use τ α}

theorem Refuses.bind (h : Refuses far e u) (f : α → Use τ β) : Refuses far e (u >>= f) := by
  intro b hb
  obtain ⟨b', hu, hb'⟩ := h b hb
  exact ⟨b', Lockstep.bind_error hu f, hb'⟩

theorem Refuses.map (h : Refuses far e u) (f : α → β) : Refuses far e (f <$> u) := h.bind _

/-- A note may be made before. -/
theorem Refuses.noted (h : Refuses far e u) (level : Level) (text : String) :
    Refuses far e (note level text >>= fun _ => u) :=
  fun b hb => h { b with notes := b.notes ++ [(level, text)] } ⟨hb.alive, hb.tabs, hb.far⟩

/-- A use that refuses may be left out. -/
theorem Refuses.optional {p : Prop} [Decidable p] {f : Unit → Use τ β} {u : Use τ Unit}
    (h : Refuses far e u) (hf : Refuses far e (f ())) :
    Refuses far e ((if p then u else pure ()) >>= f) := by
  split
  · exact h.bind f
  · exact hf

theorem refuses_ensureAlive : Refuses far .sessionStopped ensureAlive :=
  fun b hb => ⟨b, ensureAlive_quit hb.alive, hb⟩

theorem refuses_tab : Refuses far .sessionStopped tab :=
  fun b hb => ⟨b, tab_quit hb.alive, hb⟩

/-! ## Uses of pages -/

variable (link : Link τ)

theorem refuses_value (code : Snippet) (kind : Kind) :
    Refuses far .sessionStopped (value link code kind) :=
  refuses_tab.bind _

theorem refuses_execute (code : Snippet) : Refuses far .sessionStopped (execute link code) :=
  refuses_value link code .nothing

theorem refuses_first (selector : String) (expression : Snippet) :
    Refuses far .sessionStopped (first link selector expression) :=
  (refuses_value link _ _).bind _

theorem refuses_doFirst (selector : String) (expression : Snippet) :
    Refuses far .sessionStopped (doFirst link selector expression) :=
  (refuses_first link _ _).bind _

theorem refuses_navigate (config : Config) (r : String → Request) :
    Refuses far .sessionStopped (navigate link config r) :=
  refuses_tab.bind _

/-- Elements may be approached before they are used. -/
theorem refuses_approach {f : Unit → Use τ β} (config : Config) (selector : String)
    (hf : Refuses far .sessionStopped (f ())) :
    Refuses far .sessionStopped (approach link config selector >>= f) :=
  Refuses.optional ((refuses_doFirst link _ _).bind _) hf

theorem refuses_click (config : Config) (selector : String) :
    Refuses far .sessionStopped (click link config selector) := by
  refine refuses_approach link config selector ?_
  split
  · exact refuses_doFirst link _ _
  · exact refuses_tab.bind _

theorem refuses_setValue (config : Config) (selector text : String) (w : Writing) :
    Refuses far .sessionStopped (setValue link config selector text w) := by
  refine refuses_approach link config selector ?_
  dsimp only
  split
  · split
    · exact (refuses_doFirst link _ _).bind _
    · exact (refuses_doFirst link _ _).bind _
  · split
    · exact refuses_tab.bind _
    · exact (refuses_doFirst link _ _).bind _

theorem refuses_moveTo (config : Config) (selector : String) :
    Refuses far .sessionStopped (moveTo link config selector) :=
  refuses_approach link config selector ((refuses_first link _ _).bind _)

/-! ## Calls that fail in another way -/

section

variable (config : Config) (condition : Condition) {timeout : Duration}

/-- A refused check is a check that finds nothing, and is told as the reason in the end. -/
theorem refuses_waitFor (h : Waiting.hasDeadline (link.instant far) timeout = true) :
    Refuses far (Waiting.inVain timeout condition.text (some .sessionStopped))
      (waitFor link config condition timeout) := by
  rintro b ⟨halive, htabs, rfl⟩
  obtain ⟨b', hwait, hb'⟩ := Waiting.wait_failing (P := Browsing.Gone b.far)
    (refuses_value link (Snippet.predicate condition) .bool) ⟨halive, htabs, rfl⟩ h
  refine ⟨b', ?_, hb'⟩
  have ends : waiting link config condition timeout b = some _ := hwait
  rw [waitFor, ends]

/-- Without a deadline it is checked for ever. -/
theorem waiting_gone (h : Waiting.hasDeadline (link.instant far) timeout = false) {b : Browsing τ}
    (hb : b.Gone far) : waiting link config condition timeout b = none := by
  obtain ⟨halive, htabs, rfl⟩ := hb
  exact Waiting.wait_endless (P := Browsing.Gone b.far)
    (refuses_value link (Snippet.predicate condition) .bool) ⟨halive, htabs, rfl⟩ h

end

theorem refuses_activate (index : Nat) :
    Refuses far
      (.argument ("window " ++ Nat.repr index ++ " out of range (" ++ Nat.repr 0 ++ " open)"))
      (activate link index) := by
  intro b hb
  have none_open : b.tabs[index]? = none := by rw [hb.tabs]; rfl
  refine ⟨b, ?_, hb⟩
  rw [activate_missing none_open, hb.tabs]
  rfl

theorem refuses_closeTab :
    Refuses far (.actionFailed "cannot close the last window") (closeTab link) := by
  intro b hb
  exact ⟨b, closeTab_only (by rw [hb.tabs]; exact Nat.zero_le 1), hb⟩

/-- The failure of a call to a session that has been stopped, if it comes back. -/
def refusal : Call → Error
  | .waitFor condition timeout => Waiting.inVain timeout condition.text (some .sessionStopped)
  | .switchToWindow index =>
    .argument ("window " ++ Nat.repr index ++ " out of range (" ++ Nat.repr 0 ++ " open)")
  | .closeWindow => .actionFailed "cannot close the last window"
  | _ => .sessionStopped

/-- The call is refused before it is known that the session was stopped, or in spite of it. -/
def refusedOtherwise : Call → Bool
  | .waitFor _ _ | .switchToWindow _ | .closeWindow => true
  | _ => false

theorem refusal_eq_iff (c : Call) : refusal c = .sessionStopped ↔ refusedOtherwise c = false := by
  cases c with
  | waitFor condition timeout => exact ⟨nofun, nofun⟩
  | switchToWindow index => exact ⟨nofun, nofun⟩
  | closeWindow => exact ⟨nofun, nofun⟩
  | _ => exact ⟨fun _ => rfl, fun _ => rfl⟩

/-- A call that is made at an instant has a deadline, if it waits. -/
def hasDeadline (began : Nat) : Call → Bool
  | .waitFor _ timeout => Waiting.hasDeadline began timeout
  | _ => true

theorem refuses_perform (config : Config) {c : Call} (hc : c ≠ .stop)
    (hdeadline : hasDeadline (link.instant far) c = true) :
    Refuses far (refusal c) (perform link config c) := by
  cases c with
  | stop => exact absurd rfl hc
  | go url => exact (refuses_navigate link config _).noted _ _
  | back => exact refuses_navigate link config _
  | forward => exact refuses_navigate link config _
  | refresh => exact refuses_navigate link config _
  | currentUrl => exact refuses_tab.bind _
  | title => exact refuses_tab.bind _
  | pageText => exact refuses_tab.bind _
  | pageSource => exact refuses_value link _ _
  | count s => exact refuses_value link _ _
  | getText s => exact (refuses_first link _ _).map _
  | getTexts s => exact refuses_value link _ _
  | getValue s => exact (refuses_first link _ _).map _
  | getValues s => exact refuses_value link _ _
  | getAttribute s name => exact (refuses_first link _ _).bind _
  | isDisplayed s => exact refuses_value link _ _
  | isSelected s => exact (refuses_first link _ _).bind _
  | click s => exact refuses_click link config s
  | clickAll s => exact refuses_value link _ _
  | setValue s v w => exact refuses_setValue link config s v w
  | setValueAt s i v => exact (refuses_value link _ _).bind _
  | clear s => exact refuses_doFirst link _ _
  | selectOption s text => exact (refuses_first link _ _).bind _
  | moveTo s => exact refuses_moveTo link config s
  | pressKey s key => exact (refuses_doFirst link _ _).bind _
  | scrollTo s offset => exact (refuses_doFirst link _ _).bind _
  | scrollBy x y => exact refuses_execute link _
  | executeScript code => exact (refuses_value link [.code code] .any).map _
  | waitFor condition timeout => exact refuses_waitFor link config condition hdeadline
  | screenshot path => exact (refuses_tab.bind _).noted _ _
  | consoleLog => exact refuses_value link _ _
  | jsErrors => exact refuses_value link _ _
  | windowCount => exact refuses_ensureAlive.bind _
  | switchToWindow index => exact refuses_activate link index
  | newWindow url => exact (refuses_ensureAlive.bind _).bind _
  | closeWindow => exact refuses_closeTab link
  | alertText => exact refuses_value link _ _
  | acceptAlert => exact (refuses_value link _ _).bind _
  | dismissAlert => exact (refuses_value link _ _).bind _
  | showCursor => exact refuses_execute link _
  | showKeys => exact refuses_execute link _

/-- Stopping leaves no browser, and stopping again asks for nothing. -/
theorem gone_stop (b : Browsing τ) : (stop link b).2.Gone (stop link b).2.far := by
  obtain ⟨halive, htabs, -⟩ := Place.mk.inj (place_stop link b)
  exact ⟨halive, htabs, rfl⟩

theorem stop_gone {far : τ} {b : Browsing τ} (hb : b.Gone far) :
    ∃ b', stop link b = (.ok (), b') ∧ b'.Gone far :=
  ⟨_, stop_quit hb.alive, hb.alive, rfl, hb.far⟩

end Use

namespace Browsing

open Use

/-! ## Calls to a stopped session -/

variable (link : Link τ) (config : Config)

/-- What a call to a session without a browser is answered with. -/
def lastWord : (c : Call) → Except Error c.Reply
  | .stop => .ok ()
  | c => .error (refusal c)

theorem lastWord_of_ne {c : Call} (hc : c ≠ .stop) : lastWord c = .error (refusal c) := by
  cases c with
  | stop => exact absurd rfl hc
  | _ => rfl

section

variable {far : τ} {b : Browsing τ} (hb : b.Gone far)

include hb

/-- A call to a session without a browser is answered so, if it comes back. -/
theorem perform_refused {c : Call} (hdeadline : hasDeadline (link.instant far) c = true) :
    ((session link config).perform c b).result = lastWord c ∧
      ((session link config).perform c b).after.Gone far := by
  have unnoted : ({ b with notes := [] } : Browsing τ).Gone far := ⟨hb.alive, hb.tabs, hb.far⟩
  by_cases hc : c = .stop
  · subst hc
    obtain ⟨b', hstop, hb'⟩ := stop_gone link unnoted
    rw [session_perform (c := .stop) hstop]
    exact ⟨rfl, hb'.alive, hb'.tabs, hb'.far⟩
  · obtain ⟨b', hrefuse, hb'⟩ := refuses_perform link config hc hdeadline _ unnoted
    rw [session_perform hrefuse]
    exact ⟨(lastWord_of_ne hc).symm, hb'.alive, hb'.tabs, hb'.far⟩

/-- A call to a session without a browser asks nothing of it. -/
theorem perform_gone (c : Call) : ((session link config).perform c b).after.Gone far := by
  have unnoted : ({ b with notes := [] } : Browsing τ).Gone far := ⟨hb.alive, hb.tabs, hb.far⟩
  cases hdeadline : hasDeadline (link.instant far) c with
  | true => exact (perform_refused link config hb hdeadline).2
  | false =>
    cases c with
    | waitFor condition timeout =>
      obtain ⟨b', hcheck, hb'⟩ := refuses_value link (Snippet.predicate condition) .bool _ unnoted
      have waited : waitFor link config condition timeout { b with notes := [] }
          = (.error link.unanswered, b') := by
        rw [waitFor, waiting_gone link config condition hdeadline unnoted]
        exact congrArg (fun x => (_, x.2)) hcheck
      rw [session_perform (c := .waitFor condition timeout) waited]
      exact ⟨hb'.alive, hb'.tabs, hb'.far⟩
    | _ => cases hdeadline

end

theorem gone_after {far : τ} {b : Browsing τ} (hb : b.Gone far) (cs : List Call) :
    ((session link config).after b cs).Gone far :=
  Session.after_keeps (P := Gone far) _ (fun c _ _ hx => perform_gone link config hx c) hb

end Browsing

/-- Just the calls that are not refused otherwise are told that the session was stopped. -/
theorem Browsing.lastWord_eq_iff (c : Call) :
    lastWord c = .error .sessionStopped ↔ c ≠ .stop ∧ Use.refusedOtherwise c = false := by
  by_cases hc : c = .stop
  · subst hc
    exact iff_of_false nofun fun h => h.1 rfl
  · rw [lastWord_of_ne hc, Except.error.injEq, Use.refusal_eq_iff, and_iff_right hc]

/-- A session that has been stopped, however that went, stays stopped whatever is called afterwards.
Nothing more is asked of the browser, stopping again succeeds, and any other call fails.  It fails
because the session was stopped, unless it is one of the calls that are refused otherwise.  Only
waiting without a deadline neither succeeds nor fails: it does not come to an end. -/
theorem Browsing.ended_forever (link : Link τ) (config : Config) (b : Browsing (τ × List Request))
    (cs : List Call) (c : Call) :
    let s := session link.traced config
    let stopped := (s.perform .stop b).after
    let later := s.after stopped cs
    let bounded := Use.hasDeadline (link.instant later.far.1) c = true
    s.status later = .stopped ∧ (s.perform c later).after.far = stopped.far ∧
      (bounded → (s.perform c later).result = lastWord c) ∧
      (bounded → ((s.perform c later).result = .error .sessionStopped ↔
        c ≠ .stop ∧ Use.refusedOtherwise c = false)) ∧
      (¬ bounded → ∃ condition timeout, c = .waitFor condition timeout ∧
        Use.waiting link.traced config condition timeout later = none) := by
  intro s stopped later bounded
  have gone : stopped.Gone stopped.far := by
    have hstop := Use.gone_stop link.traced { b with notes := [] }
    exact ⟨hstop.alive, hstop.tabs, rfl⟩
  have gone_later : later.Gone later.far := by
    obtain ⟨halive, htabs, hfar⟩ := gone_after link.traced config gone cs
    exact ⟨halive, htabs, rfl⟩
  have unasked : later.far = stopped.far := (gone_after link.traced config gone cs).far
  have hresult (h : bounded) : (s.perform c later).result = lastWord c :=
    (perform_refused link.traced config gone_later h).1
  refine ⟨?_, (perform_gone link.traced config gone_later c).far.trans unasked, hresult,
    fun h => ?_, fun h => ?_⟩
  · show (if later.alive then Status.running else Status.stopped) = _
    rw [gone_later.alive]
    rfl
  · rw [hresult h]
    exact lastWord_eq_iff c
  · have unbounded : Use.hasDeadline (link.instant later.far.1) c = false := Bool.eq_false_iff.mpr h
    cases c with
    | waitFor condition timeout =>
      exact ⟨condition, timeout, rfl,
        Use.waiting_gone link.traced config condition unbounded gone_later⟩
    | _ => cases unbounded

/-- The browser fails to quit.  The session is stopped then, but three calls say otherwise. -/
theorem Browsing.ended_but_refused_otherwise :
    let s := session (Link.broken (.browser "connection lost")).traced .usual
    let stopped := (s.perform .stop ⟨((), []), true, ["1"], 0, ⟨[], []⟩, []⟩).after
    s.status stopped = .stopped ∧
      (s.perform (.switchToWindow 0) stopped).result
        = .error (.argument "window 0 out of range (0 open)") ∧
      (s.perform .closeWindow stopped).result
        = .error (.actionFailed "cannot close the last window") ∧
      (s.perform (.waitFor (.presence "#a") 0) stopped).result
        = .error (.timeout
            "waited 0ns for presence of '#a' (last error: session already stopped)") := by
  refine ⟨rfl, rfl, rfl, ?_⟩
  have gone : Gone ((), [Request.quit]) ⟨((), [Request.quit]), false, [], 0, ⟨[], []⟩, []⟩ :=
    ⟨rfl, rfl, rfl⟩
  have vain : Waiting.inVain 0 (Condition.presence "#a").text (some .sessionStopped)
      = .timeout "waited 0ns for presence of '#a' (last error: session already stopped)" := by
    decide +kernel
  have early : Use.hasDeadline 0 (.waitFor (.presence "#a") 0) = true := by decide +kernel
  refine (perform_refused (c := .waitFor (.presence "#a") 0)
    (Link.broken (.browser "connection lost")).traced .usual gone early).1.trans ?_
  exact congrArg Except.error vain

end PageScript
