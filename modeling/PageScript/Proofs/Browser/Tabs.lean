import PageScript.Browser.Session
import PageScript.Proofs.Run.Lockstep

/-!
# Uses of tabs

What the uses of tabs come to, case by case: whether the browser is there, whether there is such a
tab, and what the browser says to the request.
-/

namespace PageScript

namespace Use

variable {τ : Type} {link : Link τ} {b : Browsing τ} {far : τ}

/-! ## The tab in use -/

theorem get_bind {α : Type} (f : Browsing τ → Use τ α) (b : Browsing τ) : (get >>= f) b = f b b := rfl

theorem request_eq {r : Request} {x : Except Error r.Answer} (h : link.ask r b.far = (x, far)) :
    request link r b = (x, { b with far }) := by
  rw [request, h]

theorem ensureAlive_alive (h : b.alive = true) : ensureAlive b = (.ok (), b) := by
  rw [ensureAlive, get_bind, h]
  rfl

theorem ensureAlive_quit (h : b.alive = false) : ensureAlive b = (.error .sessionStopped, b) := by
  rw [ensureAlive, get_bind, h]
  rfl

theorem tab_quit (h : b.alive = false) : tab b = (.error .sessionStopped, b) :=
  Lockstep.bind_error (ensureAlive_quit h) _

theorem tab_found {t : String} (h : b.alive = true) (ht : b.tabs[b.current]? = some t) :
    tab b = (.ok t, b) := by
  rw [tab, Lockstep.bind_ok (ensureAlive_alive h), get_bind, ht]
  rfl

theorem tab_missing (h : b.alive = true) (ht : b.tabs[b.current]? = none) :
    tab b = (.error (.actionFailed "no open window"), b) := by
  rw [tab, Lockstep.bind_ok (ensureAlive_alive h), get_bind, ht]
  rfl

/-! ## Going to a tab -/

variable {i : Nat} {t : String}

theorem activate_reached (h : b.alive = true) (ht : b.tabs[i]? = some t)
    (hask : link.ask (.activate t) b.far = (.ok (), far)) :
    activate link i b = (.ok (), { b with far, current := i }) := by
  rw [activate, get_bind, ht]
  dsimp only
  rw [Lockstep.bind_ok (ensureAlive_alive h), Lockstep.bind_ok (request_eq hask)]
  rfl

theorem activate_refused {e : Error} (h : b.alive = true) (ht : b.tabs[i]? = some t)
    (hask : link.ask (.activate t) b.far = (.error e, far)) :
    activate link i b = (.error e, { b with far }) := by
  rw [activate, get_bind, ht]
  dsimp only
  rw [Lockstep.bind_ok (ensureAlive_alive h), Lockstep.bind_error (request_eq hask)]

theorem activate_missing (ht : b.tabs[i]? = none) :
    activate link i b = (.error (.argument ("window " ++ Nat.repr i ++ " out of range ("
      ++ Nat.repr b.tabs.length ++ " open)")), b) := by
  rw [activate, get_bind, ht]
  rfl

theorem activate_quit (link : Link τ) (i : Nat) (h : b.alive = false) :
    ∃ e, activate link i b = (.error e, b) := by
  cases ht : b.tabs[i]? with
  | none => exact ⟨_, activate_missing ht⟩
  | some t =>
    refine ⟨.sessionStopped, ?_⟩
    rw [activate, get_bind, ht]
    exact Lockstep.bind_error (ensureAlive_quit h) _

/-! ## Closing a tab -/

theorem closeTab_only (h : b.tabs.length ≤ 1) :
    closeTab link b = (.error (.actionFailed "cannot close the last window"), b) := by
  rw [closeTab, get_bind, if_pos h]
  rfl

theorem closeTab_quit (link : Link τ) (h : b.alive = false) :
    ∃ e, closeTab link b = (.error e, b) := by
  by_cases hlen : b.tabs.length ≤ 1
  · exact ⟨_, closeTab_only hlen⟩
  · refine ⟨.sessionStopped, ?_⟩
    rw [closeTab, get_bind, if_neg hlen]
    exact Lockstep.bind_error (tab_quit h) _

theorem closeTab_refused {e : Error} (h : b.alive = true) (hlen : ¬ b.tabs.length ≤ 1)
    (ht : b.tabs[b.current]? = some t) (hask : link.ask (.closeTab t) b.far = (.error e, far)) :
    closeTab link b = (.error e, { b with far }) := by
  rw [closeTab, get_bind, if_neg hlen]
  dsimp only
  rw [Lockstep.bind_ok (tab_found h ht), Lockstep.bind_error (request_eq hask)]

/-- When the tab in use has gone away, the browser goes to the one behind it or else to the last. -/
theorem closeTab_closed (h : b.alive = true) (hlen : ¬ b.tabs.length ≤ 1)
    (ht : b.tabs[b.current]? = some t) (hask : link.ask (.closeTab t) b.far = (.ok (), far)) :
    closeTab link b = activate link (min b.current ((b.tabs.eraseIdx b.current).length - 1))
      { b with far, tabs := b.tabs.eraseIdx b.current } := by
  rw [closeTab, get_bind, if_neg hlen]
  dsimp only
  rw [Lockstep.bind_ok (tab_found h ht), Lockstep.bind_ok (request_eq hask)]
  rfl

/-! ## Quitting -/

theorem quit_alive {r : Except Error Unit} (h : b.alive = true)
    (hask : link.ask .quit b.far = (r, far)) :
    quit link b = (r, { b with far, alive := false, tabs := [] }) := by
  rw [quit, get_bind, h]
  exact request_eq (b := { b with alive := false, tabs := [] }) hask

theorem quit_quit (h : b.alive = false) : quit link b = (.ok (), { b with tabs := [] }) := by
  rw [quit, get_bind, h]
  rfl

theorem stop_alive {r : Except Error Unit} (h : b.alive = true)
    (hask : link.ask .quit b.far = (r, far)) :
    stop link b = (r, ⟨far, false, [], b.current, b.files,
      b.notes ++ [(.info, "Stopping browser session")]⟩) := by
  rw [stop, get_bind, if_pos h]
  exact quit_alive (b := { b with notes := b.notes ++ [(.info, "Stopping browser session")] }) h hask

theorem stop_quit (h : b.alive = false) : stop link b = (.ok (), { b with tabs := [] }) := by
  rw [stop, get_bind, if_neg (by rw [h]; exact Bool.false_ne_true)]
  exact quit_quit h

end Use

/-- A call to the session, from what it does to the browser. -/
theorem Browsing.session_perform {τ : Type} {link : Link τ} {config : Config} {c : Call}
    {b after : Browsing τ} {r : Except Error c.Reply}
    (h : Use.perform link config c { b with notes := [] } = (r, after)) :
    (session link config).perform c b = ⟨r, after.notes, { after with notes := [] }⟩ := by
  have ran : (Use.perform link config c).run.run { b with notes := [] } = (r, after) := h
  unfold session
  dsimp only
  rw [ran]

end PageScript
