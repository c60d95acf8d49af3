import PageScript.Proofs.Browser.Tabs
import PageScript.Proofs.Browser.Uses

/-!
# The place of a browser in use

Whether the browser is there, which tabs it has and which of them is in use: that is its place.
Requests, notes and files do not change it, and so no call does that is not about windows or the end
of the session (`stays_perform`).
-/

namespace PageScript

/-- Where a browser in use is. -/
structure Place where
  alive : Bool
  tabs : List String
  current : Nat

variable {τ α : Type}

/-- Whether the browser is there, its tabs, and which of them is in use. -/
def Browsing.place (b : Browsing τ) : Place := ⟨b.alive, b.tabs, b.current⟩

namespace Use

/-- The place is the same afterwards. -/
def Stays (u : Use τ α) : Prop := ∀ v, Keeps (fun b => b.place = v) u

variable (link : Link τ)

theorem undisturbed_place (v : Place) :
    Undisturbed link (fun _ => True) (fun b => b.place = v) fun _ => True :=
  ⟨fun _ _ _ h => h, fun _ _ h => h, fun _ _ h => h, fun _ _ _ _ => trivial, trivial,
    fun _ _ => trivial⟩

theorem stays_request (r : Request) : (request link r).Stays :=
  fun v => (request_confined (r := r) (undisturbed_place link v) trivial).keeps

theorem stays_ensureAlive : (ensureAlive : Use τ Unit).Stays :=
  fun _ => (ensureAlive_confined fun _ _ => trivial).keeps

theorem stays_tab : (tab : Use τ String).Stays :=
  fun _ => (tab_confined fun _ _ => trivial).keeps

theorem stays_focusWindow : (focusWindow link).Stays :=
  fun v => (focusWindow_confined (undisturbed_place link v) fun _ => trivial).keeps

theorem stays_afterNavigation (config : Config) : (afterNavigation link config).Stays :=
  fun v => (afterNavigation_confined (undisturbed_place link v) config
    fun _ _ _ _ => trivial).keeps

theorem stays_perform (config : Config) {c : Call} (hstop : c ≠ .stop)
    (hwindow : c.isAboutWindows = false) : (perform link config c).Stays :=
  fun v => (perform_confined (undisturbed_place link v) config hstop hwindow fun _ _ => trivial).keeps

/-- When a session has been ended, however that went, the browser has been quit. -/
theorem place_stop (link : Link τ) (b : Browsing τ) :
    (stop link b).2.place = ⟨false, [], b.current⟩ := by
  cases h : b.alive with
  | true => rw [stop_alive h rfl]; rfl
  | false => rw [stop_quit h]; exact congrArg (Place.mk · [] b.current) h

end Use

end PageScript
