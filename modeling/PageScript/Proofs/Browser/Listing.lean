import Mathlib.Data.List.Nodup
import PageScript.Proofs.Browser.Windows

/-!
# The list of tabs

A session with a browser keeps a list of tabs, and calls about windows change it together with the
position of the tab in use.  What really happened is known at the other end of the link: a tab is
there from the request that opened it to the request that closed it.  `Link.logged` keeps these
events, and a request that fails is none.

`Windows.Step` says what a call about windows does, by whether it succeeds.  A call that fails may
have opened or closed a tab all the same, when only a request behind that one failed.  Along any
calls the list is that of the tabs that were opened and not closed since, as long as the browser
gives no new tab the name of an open one (`Browsing.windows_exact`).
-/

namespace PageScript

/-! ## Tabs opened and closed -/

/-- What happens to the tabs of a browser. -/
inductive TabEvent where
  | opened (tab : String)
  | closed (tab : String)
deriving DecidableEq

namespace TabEvent

/-- The tabs that were opened and not closed since, oldest first. -/
def standing : List TabEvent → List String
  | [] => []
  | .opened tab :: later => if .closed tab ∈ later then standing later else tab :: standing later
  | .closed _ :: later => standing later

/-- No new tab has the name of one that is open. -/
def Distinct (events : List TabEvent) : Prop :=
  ∀ front tab back, events = front ++ .opened tab :: back → tab ∉ standing front

theorem Distinct.of_append {events later : List TabEvent} (h : Distinct (events ++ later)) :
    Distinct events := by
  rintro front tab back rfl
  exact h front tab (back ++ later) (by simp)

theorem Distinct.nil : Distinct [] := by
  intro front tab back heq
  simp at heq

theorem Distinct.append {events : List TabEvent} (h : Distinct events) {e : TabEvent}
    (hnew : ∀ tab, e = .opened tab → tab ∉ standing events) : Distinct (events ++ [e]) := by
  intro front tab back heq
  obtain rfl | ⟨back, last, rfl⟩ := List.eq_nil_or_concat' back
  · obtain ⟨rfl, hlast⟩ := List.append_inj' heq rfl
    exact hnew tab (List.singleton_inj.mp hlast)
  · rw [← List.cons_append, ← List.append_assoc] at heq
    exact h front tab back (List.append_inj' heq rfl).1

theorem Distinct.opened {events : List TabEvent} (h : Distinct events) {tab : String}
    (hnew : tab ∉ standing events) : Distinct (events ++ [.opened tab]) := by
  refine h.append fun other heq => ?_
  cases heq
  exact hnew

theorem Distinct.closed {events : List TabEvent} (h : Distinct events) (tab : String) :
    Distinct (events ++ [.closed tab]) := h.append fun _ heq => nomatch heq

theorem standing_opened (events : List TabEvent) (tab : String) :
    standing (events ++ [.opened tab]) = standing events ++ [tab] := by
  induction events with
  | nil => simp [standing]
  | cons e events ih =>
    cases e with
    | closed other => exact ih
    | opened other =>
      simp only [List.cons_append, standing, ih, List.mem_append, List.mem_singleton, reduceCtorEq,
        or_false]
      split <;> rfl

theorem standing_closed (events : List TabEvent) (tab : String) :
    standing (events ++ [.closed tab]) = (standing events).filter (· ≠ tab) := by
  induction events with
  | nil => rfl
  | cons e events ih =>
    cases e with
    | closed other => exact ih
    | opened other =>
      simp only [List.cons_append, standing, ih, List.mem_append, List.mem_singleton,
        TabEvent.closed.injEq]
      by_cases hother : other = tab
      · subst hother
        rw [if_pos (.inr rfl)]
        split
        · rfl
        · rw [List.filter_cons_of_neg (by simp)]
      · simp only [hother, or_false]
        split
        · rfl
        · rw [List.filter_cons_of_pos (by simpa using hother)]

end TabEvent

open TabEvent (standing Distinct)

/-- What a request does to tabs, by its answer. -/
def Request.tabEvents : (r : Request) → Except Error r.Answer → List TabEvent
  | .newTab _, .ok tab => [.opened tab]
  | .closeTab tab, .ok _ => [.closed tab]
  | _, _ => []

/-- A link whose state also keeps what has happened to tabs so far, oldest first. -/
def Link.logged {τ : Type} (link : Link τ) : Link (τ × List TabEvent) where
  ask r state :=
    let (answer, after) := link.ask r state.1
    (answer, after, state.2 ++ r.tabEvents answer)
  instant state := link.instant state.1
  unanswered := link.unanswered

/-- The events are those before and what the request does by its answer. -/
theorem Link.logged_events {τ : Type} {link : Link τ} {r : Request} {x y : τ × List TabEvent}
    {answer : Except Error r.Answer} (h : link.logged.ask r x = (answer, y)) :
    y.2 = x.2 ++ r.tabEvents answer := by
  cases h
  rfl

/-! ## Windows -/

/-- The tabs that a session knows, the position of the tab in use, and what has really happened to
tabs. -/
@[ext] structure Windows where
  tabs : List String
  current : Nat
  events : List TabEvent
deriving DecidableEq

namespace Windows

/-- What a call about windows does, by whether it succeeds. -/
inductive Step (w : Windows) : Call → Bool → Windows → Prop
  | switched {i : Nat} (h : i < w.tabs.length) :
      Step w (.switchToWindow i) true { w with current := i }
  /-- The new tab is the one in use. -/
  | opened (url : Option String) (tab : String) :
      Step w (.newWindow url) true
        ⟨w.tabs ++ [tab], w.tabs.length, w.events ++ [.opened tab]⟩
  /-- The tab in use is closed, and the next one is in use. -/
  | closed {front back : List String} {tab next : String}
      (htabs : w.tabs = front ++ tab :: next :: back) (hcurrent : w.current = front.length) :
      Step w .closeWindow true ⟨front ++ next :: back, front.length, w.events ++ [.closed tab]⟩
  /-- The tab in use is closed, it was the last one, and the one that is last then is in use. -/
  | closedLast {front : List String} {before tab : String} (htabs : w.tabs = front ++ [before, tab])
      (hcurrent : w.current = front.length + 1) :
      Step w .closeWindow true ⟨front ++ [before], front.length, w.events ++ [.closed tab]⟩
  | refused (c : Call) : Step w c false w
  /-- A tab was opened, and a request behind that failed. -/
  | leftOpen (url : Option String) (tab : String) (current : Nat) :
      Step w (.newWindow url) false ⟨w.tabs ++ [tab], current, w.events ++ [.opened tab]⟩
  /-- The tab in use was closed, and the request to go to another one failed. -/
  | leftClosed {front back : List String} {tab : String} (htabs : w.tabs = front ++ tab :: back)
      (hcurrent : w.current = front.length) (hothers : front ++ back ≠ []) :
      Step w .closeWindow false ⟨front ++ back, w.current, w.events ++ [.closed tab]⟩

/-- The tabs are those that were opened and not closed since; they have different names, and there
is one. -/
structure Exact (w : Windows) : Prop where
  standing : w.tabs = standing w.events
  nodup : w.tabs.Nodup
  nonempty : w.tabs ≠ []

variable {w w' : Windows} {c : Call} {ok : Bool}

/-- Nothing that has happened is forgotten. -/
theorem Step.events_kept (h : w.Step c ok w') : w.events <+: w'.events := by
  cases h with
  | switched | refused => exact List.prefix_rfl
  | opened | closed | closedLast | leftOpen | leftClosed => exact List.prefix_append _ _

/-- What comes of opening a window comes of it as well when something behind it fails. -/
theorem Step.newWindow_failed {url : Option String} (h : w.Step (.newWindow url) ok w') :
    w.Step (.newWindow url) false w' := by
  cases h with
  | opened _ tab => exact .leftOpen url tab _
  | refused => exact .refused _
  | leftOpen _ tab current => exact .leftOpen url tab current

theorem Exact.append (h : w.Exact) {tab : String} (current : Nat)
    (hdistinct : Distinct (w.events ++ [.opened tab])) :
    Exact ⟨w.tabs ++ [tab], current, w.events ++ [.opened tab]⟩ where
  standing := by rw [TabEvent.standing_opened, ← h.standing]
  nodup := by
    have new : tab ∉ w.tabs := by
      rw [h.standing]
      exact hdistinct w.events tab [] rfl
    exact List.nodup_append_comm.mp (List.nodup_cons.mpr ⟨new, h.nodup⟩)
  nonempty := by simp

theorem Exact.remove (h : w.Exact) {front back : List String} {tab : String} (current : Nat)
    (htabs : w.tabs = front ++ tab :: back) (hothers : front ++ back ≠ []) :
    Exact ⟨front ++ back, current, w.events ++ [.closed tab]⟩ := by
  have nodup : (front ++ tab :: back).Nodup := by
    rw [← htabs]
    exact h.nodup
  obtain ⟨hnotMem, hothersNodup⟩ := List.nodup_cons.mp (List.nodup_middle.mp nodup)
  refine ⟨?_, hothersNodup, hothers⟩
  rw [TabEvent.standing_closed, ← h.standing, htabs]
  simp only [List.mem_append, not_or] at hnotMem
  have keeps (tabs : List String) (h : tab ∉ tabs) : tabs.filter (· ≠ tab) = tabs := by
    refine List.filter_eq_self.mpr fun other hother => ?_
    simpa using ne_of_mem_of_not_mem hother h
  rw [List.filter_append, keeps front hnotMem.1, List.filter_cons_of_neg (by simp),
    keeps back hnotMem.2]

/-- The only tab is not closed. -/
theorem Step.only (h : w.Step .closeWindow ok w') (honly : w.tabs.length = 1) :
    ok = false ∧ w' = w := by
  cases h with
  | refused => exact ⟨rfl, rfl⟩
  | closed htabs _ | closedLast htabs _ =>
    simp only [htabs, List.length_append, List.length_cons] at honly
    omega
  | leftClosed htabs _ hothers =>
    refine absurd (List.length_eq_zero_iff.mp ?_) hothers
    rw [htabs, List.length_append, List.length_cons] at honly
    rw [List.length_append]
    omega

/-- A call keeps the list exact. -/
theorem Exact.step (h : w.Exact) (hstep : w.Step c ok w') (hdistinct : Distinct w'.events) :
    w'.Exact := by
  cases hstep with
  | switched => exact ⟨h.standing, h.nodup, h.nonempty⟩
  | refused => exact h
  | opened | leftOpen => exact h.append _ hdistinct
  | closed htabs _ => exact h.remove _ htabs (by simp)
  | @closedLast front before tab htabs _ =>
    have split : w.tabs = (front ++ [before]) ++ [tab] := by
      rw [htabs, List.append_assoc]
      rfl
    have removed := h.remove front.length split (by simp)
    rwa [List.append_nil] at removed
  | leftClosed htabs _ hothers => exact h.remove _ htabs hothers

end Windows

/-- The windows of a browser in use. -/
def Browsing.windows {τ : Type} (b : Browsing (τ × List TabEvent)) : Windows :=
  ⟨b.tabs, b.current, b.far.2⟩

/-! ## Calls about windows -/

namespace Use

variable {τ : Type} {link : Link τ} {b : Browsing (τ × List TabEvent)}

/-- The use does not quit the browser, and it does to the windows what the call does. -/
structure Steps (u : Use (τ × List TabEvent) Unit) (b : Browsing (τ × List TabEvent)) (c : Call) :
    Prop where
  alive : (u b).2.alive = b.alive
  step : b.windows.Step c (u b).1.isOk (u b).2.windows

theorem Steps.of_refused {u : Use (τ × List TabEvent) Unit} {e : Error}
    {after : Browsing (τ × List TabEvent)} (c : Call) (h : u b = (.error e, after))
    (halive : after.alive = b.alive) (hwindows : after.windows = b.windows) : u.Steps b c := by
  constructor
  · rw [h]
    exact halive
  · rw [h, hwindows]
    exact .refused c

/-- A request that fails is no event. -/
theorem windows_failed {r : Request} {e : Error} {far : τ × List TabEvent}
    (h : link.logged.ask r b.far = (.error e, far)) :
    ({ b with far } : Browsing (τ × List TabEvent)).windows = b.windows := by
  have events := Link.logged_events h
  rw [show r.tabEvents (.error e) = [] by cases r <;> rfl, List.append_nil] at events
  exact Windows.ext rfl rfl events

theorem activate_steps (link : Link τ) (i : Nat) (b : Browsing (τ × List TabEvent)) :
    (activate link.logged i).Steps b (.switchToWindow i) := by
  cases h : b.alive with
  | false =>
    obtain ⟨e, hquit⟩ := activate_quit link.logged i h
    exact .of_refused _ hquit rfl rfl
  | true =>
    cases ht : b.tabs[i]? with
    | none => exact .of_refused _ (activate_missing ht) rfl rfl
    | some t =>
      obtain ⟨r, far, hask⟩ : ∃ r far, link.logged.ask (.activate t) b.far = (r, far) := ⟨_, _, rfl⟩
      cases r with
      | error e => exact .of_refused _ (activate_refused h ht hask) rfl (windows_failed hask)
      | ok _ =>
        have reached := activate_reached h ht hask
        have events : far.2 = b.far.2 := by
          rw [Link.logged_events hask]
          exact List.append_nil _
        constructor
        · rw [reached]
        · have after : ({ b with far, current := i } : Browsing (τ × List TabEvent)).windows
              = { b.windows with current := i } := Windows.ext rfl rfl events
          rw [reached, after]
          exact .switched (List.getElem?_eq_some_iff.mp ht).1

theorem openTab_steps (link : Link τ) (url : Option String) (b : Browsing (τ × List TabEvent)) :
    (openTab link.logged url).Steps b (.newWindow url) := by
  cases h : b.alive with
  | false =>
    have quit : openTab link.logged url b = (.error .sessionStopped, b) :=
      Lockstep.bind_error (ensureAlive_quit h) _
    exact .of_refused _ quit rfl rfl
  | true =>
    obtain ⟨r, far, hask⟩ : ∃ r far, link.logged.ask (.newTab url) b.far = (r, far) := ⟨_, _, rfl⟩
    cases r with
    | error e =>
      have failed : openTab link.logged url b = (.error e, { b with far }) := by
        rw [openTab, Lockstep.bind_ok (ensureAlive_alive h), Lockstep.bind_error (request_eq hask)]
      exact .of_refused _ failed rfl (windows_failed hask)
    | ok tab =>
      obtain ⟨b', hb'⟩ : ∃ b' : Browsing (τ × List TabEvent),
        b' = { b with far, tabs := b.tabs ++ [tab] } := ⟨_, rfl⟩
      have went : openTab link.logged url b = activate link.logged b.tabs.length b' := by
        rw [openTab, Lockstep.bind_ok (ensureAlive_alive h), Lockstep.bind_ok (request_eq hask)]
        show activate link.logged ((b.tabs ++ [tab]).length - 1) _ = _
        rw [List.length_append, hb']
        rfl
      have windows : b'.windows = ⟨b.tabs ++ [tab], b.current, b.far.2 ++ [.opened tab]⟩ := by
        rw [hb']
        exact Windows.ext rfl rfl (Link.logged_events hask)
      obtain ⟨halive, hstep⟩ := activate_steps link b.tabs.length b'
      constructor
      · rw [went, halive, hb']
      · rw [windows] at hstep
        rw [went]
        generalize (activate link.logged b.tabs.length b').1.isOk = ok at hstep
        generalize (activate link.logged b.tabs.length b').2.windows = w at hstep
        cases hstep with
        | switched _ => exact .opened url tab
        | refused => exact .leftOpen url tab b.current

/-- The tab in use has been closed, and the browser goes to the next one, or else to the last. -/
theorem activate_closed_steps (link : Link τ) {front back : List String} {tab : String}
    (htabs : b.tabs = front ++ tab :: back) (hcurrent : b.current = front.length)
    (hothers : front ++ back ≠ []) {b' : Browsing (τ × List TabEvent)}
    (hwindows : b'.windows = ⟨front ++ back, b.current, b.windows.events ++ [.closed tab]⟩) :
    let next := min b.current ((front ++ back).length - 1)
    b.windows.Step .closeWindow (activate link.logged next b').1.isOk
      (activate link.logged next b').2.windows := by
  intro next
  have hstep := (activate_steps link next b').step
  rw [hwindows] at hstep
  generalize (activate link.logged next b').1.isOk = ok at hstep
  generalize (activate link.logged next b').2.windows = w at hstep
  cases hstep with
  | refused => exact .leftClosed htabs hcurrent hothers
  | switched _ =>
    cases back with
    | cons behind back =>
      have position : next = front.length := by
        simp only [next, hcurrent, List.length_append, List.length_cons]
        omega
      rw [position]
      exact .closed htabs hcurrent
    | nil =>
      obtain rfl | ⟨front, before, rfl⟩ := List.eq_nil_or_concat' front
      · exact absurd rfl hothers
      · have position : next = front.length := by
          simp only [next, hcurrent, List.length_append, List.length_singleton, List.length_nil]
          omega
        rw [position, List.append_nil]
        refine .closedLast ?_ ?_
        · exact htabs.trans (List.append_assoc front [before] [tab])
        · exact hcurrent.trans List.length_append

/-- A tab of a list stands between those that remain without it. -/
theorem exists_split {tabs : List String} {i : Nat} {tab : String} (h : tabs[i]? = some tab) :
    ∃ front back, tabs = front ++ tab :: back ∧ i = front.length ∧
      tabs.eraseIdx i = front ++ back := by
  obtain ⟨hin, rfl⟩ := List.getElem?_eq_some_iff.mp h
  refine ⟨tabs.take i, tabs.drop (i + 1), ?_, ?_, List.eraseIdx_eq_take_drop_succ ..⟩
  · rw [List.getElem_cons_drop, List.take_append_drop]
  · rw [List.length_take_of_le (Nat.le_of_lt hin)]

theorem closeTab_steps (link : Link τ) (b : Browsing (τ × List TabEvent)) :
    (closeTab link.logged).Steps b .closeWindow := by
  cases h : b.alive with
  | false =>
    obtain ⟨e, hquit⟩ := closeTab_quit link.logged h
    exact .of_refused _ hquit rfl rfl
  | true =>
    by_cases hlen : b.tabs.length ≤ 1
    · exact .of_refused _ (closeTab_only hlen) rfl rfl
    · cases ht : b.tabs[b.current]? with
      | none =>
        have missing : closeTab link.logged b = (.error (.actionFailed "no open window"), b) := by
          rw [closeTab, get_bind, if_neg hlen]
          exact Lockstep.bind_error (tab_missing h ht) _
        exact .of_refused _ missing rfl rfl
      | some tab =>
        obtain ⟨r, far, hask⟩ : ∃ r far, link.logged.ask (.closeTab tab) b.far = (r, far) :=
          ⟨_, _, rfl⟩
        cases r with
        | error e => exact .of_refused _ (closeTab_refused h hlen ht hask) rfl (windows_failed hask)
        | ok _ =>
          have closed := closeTab_closed h hlen ht hask
          obtain ⟨front, back, htabs, hcurrent, herased⟩ := exists_split ht
          have hothers : front ++ back ≠ [] := by
            intro hnil
            obtain ⟨rfl, rfl⟩ := List.append_eq_nil_iff.mp hnil
            exact hlen (by simp [htabs])
          rw [herased] at closed
          constructor
          · rw [closed, (activate_steps link _ _).alive]
          · rw [closed]
            exact activate_closed_steps link htabs hcurrent hothers
              (Windows.ext rfl rfl (Link.logged_events hask))

/-- Requests that do nothing to tabs leave the windows alone. -/
theorem undisturbed_windows (link : Link τ) (alive : Bool) (w : Windows) :
    Undisturbed link.logged (fun r => ∀ answer, r.tabEvents answer = [])
      (fun b => b.alive = alive ∧ b.windows = w) fun _ => True where
  far := by
    rintro r b hr ⟨halive, hw⟩
    refine ⟨halive, hw ▸ Windows.ext rfl rfl ?_⟩
    have logged : (link.logged.ask r b.far).2.2
        = b.far.2 ++ r.tabEvents (link.ask r b.far.1).1 := Link.logged_events rfl
    rw [hr, List.append_nil] at logged
    exact logged
  notes _ _ h := h
  files _ _ h := h
  requests _ _ _ _ := trivial
  unanswered := trivial
  own _ _ := trivial

theorem newWindow_steps (link : Link τ) (config : Config) (url : Option String)
    (b : Browsing (τ × List TabEvent)) :
    (newWindow link.logged config url).Steps b (.newWindow url) := by
  obtain ⟨halive, hstep⟩ := openTab_steps link url b
  obtain ⟨r, b', hopen⟩ : ∃ r b', openTab link.logged url b = (r, b') := ⟨_, _, rfl⟩
  rw [hopen] at halive hstep
  cases r with
  | error e =>
    have failed : newWindow link.logged config url b = (.error e, b') := Lockstep.bind_error hopen _
    constructor <;> rw [failed]
    · exact halive
    · exact hstep
  | ok _ =>
    cases url with
    | none =>
      have done : newWindow link.logged config none b = (.ok (), b') := Lockstep.bind_ok hopen _
      constructor <;> rw [done]
      · exact halive
      · exact hstep
    | some url =>
      have done : newWindow link.logged config (some url) b
          = afterNavigation link.logged config b' := Lockstep.bind_ok hopen _
      obtain ⟨halive', hwindows⟩ := (afterNavigation_confined
        (undisturbed_windows link b'.alive b'.windows) config fun _ _ _ _ _ => rfl).keeps b' ⟨rfl, rfl⟩
      constructor <;> rw [done]
      · exact halive'.trans halive
      · rw [hwindows]
        cases (afterNavigation link.logged config b').1 with
        | ok _ => exact hstep
        | error e => exact hstep.newWindow_failed

end Use

namespace Browsing

variable {τ : Type} (link : Link τ) (config : Config)

/-- What a call about windows does to the windows. -/
theorem perform_steps {c : Call} (hc : c.isAboutWindows = true) (b : Browsing (τ × List TabEvent)) :
    let outcome := (session link.logged config).perform c b
    outcome.after.alive = b.alive ∧ b.windows.Step c outcome.result.isOk outcome.after.windows := by
  have of_steps {u : Use (τ × List TabEvent) Unit} (h : u.Steps { b with notes := [] } c) :
      (u { b with notes := [] }).2.alive = b.alive ∧
        b.windows.Step c (u { b with notes := [] }).1.isOk (u { b with notes := [] }).2.windows :=
    ⟨h.alive, h.step⟩
  cases c with
  | switchToWindow i => exact of_steps (u := Use.activate link.logged i) (Use.activate_steps link i _)
  | newWindow url => exact of_steps (Use.newWindow_steps link config url _)
  | closeWindow => exact of_steps (u := Use.closeTab link.logged) (Use.closeTab_steps link _)
  | _ => cases hc

variable {link config}

theorem windows_launch {files : FileTree} {far : τ} {b : Browsing (τ × List TabEvent)}
    (h : (launch link.logged config files (far, [])).1 = .ok b) :
    b.alive = true ∧ ∃ tab, b.windows = ⟨[tab], 0, [.opened tab]⟩ := by
  unfold launch at h
  split at h
  · cases h
  · rename_i far₁ hlaunched
    split at h
    · cases h
    · rename_i tab far₂ hopened
      have events : far₂.2 = [.opened tab] := by
        rw [Link.logged_events hopened, Link.logged_events hlaunched]
        rfl
      dsimp only at h
      split at h
      · -- the window of the tab is brought to the front, which does nothing to the windows
        have kept := (Use.focusWindow_confined (Use.undisturbed_windows link true
          ⟨[tab], 0, [.opened tab]⟩) fun _ _ => rfl).keeps ⟨far₂, true, [tab], 0, files, []⟩
          ⟨rfl, Windows.ext rfl rfl events⟩
        split at h
        · cases h
        · rename_i _ b' hfocus
          cases h
          rw [show Use.focusWindow link.logged _ = _ from hfocus] at kept
          exact ⟨kept.1, tab, kept.2⟩
      · cases h
        exact ⟨rfl, tab, Windows.ext rfl rfl events⟩

variable (link config) in
theorem events_after {cs : List Call} (hcs : ∀ c ∈ cs, c.isAboutWindows = true)
    (b : Browsing (τ × List TabEvent)) :
    b.windows.events <+: ((session link.logged config).after b cs).windows.events := by
  induction cs generalizing b with
  | nil => exact List.prefix_rfl
  | cons c cs ih =>
    have first := (perform_steps link config (hcs c List.mem_cons_self) b).2.events_kept
    exact first.trans (ih (fun d hd => hcs d (List.mem_cons_of_mem c hd)) _)

/-- Calls about windows keep an exact list exact. -/
theorem exact_after {cs : List Call} (hcs : ∀ c ∈ cs, c.isAboutWindows = true)
    {b : Browsing (τ × List TabEvent)} (halive : b.alive = true) (hexact : b.windows.Exact)
    (hdistinct : Distinct ((session link.logged config).after b cs).windows.events) :
    ((session link.logged config).after b cs).alive = true ∧
      ((session link.logged config).after b cs).windows.Exact := by
  induction cs generalizing b with
  | nil => exact ⟨halive, hexact⟩
  | cons c cs ih =>
    have rest : ∀ d ∈ cs, d.isAboutWindows = true := fun d hd => hcs d (List.mem_cons_of_mem c hd)
    obtain ⟨halive', hstep⟩ := perform_steps link config (hcs c List.mem_cons_self) b
    obtain ⟨later, hlater⟩ := events_after link config rest
      ((session link.logged config).perform c b).after
    have distinct := hdistinct
    rw [Session.after_cons, ← hlater] at distinct
    exact ih rest (halive'.trans halive) (hexact.step hstep distinct.of_append) hdistinct

/-- All along calls about windows, whatever requests fail, the list of tabs is that of the tabs that
were opened and not closed since, in that order and without repetition; and every call does with it
what it should. -/
theorem windows_exact {files : FileTree} {far : τ} {b : Browsing (τ × List TabEvent)}
    (h : (launch link.logged config files (far, [])).1 = .ok b) {cs : List Call}
    (hcs : ∀ c ∈ cs, c.isAboutWindows = true)
    (hdistinct : Distinct ((session link.logged config).after b cs).windows.events) :
    let s := session link.logged config
    let x := s.after b cs
    s.status x = .running ∧ x.windows.Exact ∧
      (s.perform .windowCount x).result = .ok x.tabs.length ∧
      (∀ c, c.isAboutWindows = true →
        x.windows.Step c (s.perform c x).result.isOk (s.perform c x).after.windows) ∧
      (x.tabs.length = 1 → (s.perform .closeWindow x).result.isOk = false ∧
        (s.perform .closeWindow x).after.windows = x.windows) := by
  intro s x
  obtain ⟨halive, tab, hwindows⟩ := windows_launch h
  have launched : b.windows.Exact := by
    rw [hwindows]
    exact ⟨rfl, List.nodup_singleton tab, List.cons_ne_nil _ _⟩
  obtain ⟨running, exact⟩ := exact_after hcs halive launched hdistinct
  have steps (c : Call) (hc : c.isAboutWindows = true) := (perform_steps link config hc x).2
  have counted : Use.perform link.logged config .windowCount { x with notes := [] }
      = (.ok x.tabs.length, { x with notes := [] }) :=
    Lockstep.bind_ok (Use.ensureAlive_alive (b := { x with notes := [] }) running) _
  refine ⟨if_pos running, exact, ?_, steps, (steps .closeWindow rfl).only⟩
  rw [session_perform counted]

/-- Two windows are opened, and the second one cannot be brought to the front.  The window in front
of both is closed, and the next one is in use. -/
theorem windows_exact_third_refused :
    let link := counting (· == 5)
    let b : Browsing (Nat × List TabEvent) :=
      ⟨(2, [.opened "1"]), true, ["1"], 0, ⟨[], []⟩, []⟩
    let cs : List Call := [.newWindow none, .newWindow none, .switchToWindow 0, .closeWindow]
    let s := session link.logged .usual
    let x := s.after b cs
    (launch link.logged .usual ⟨[], []⟩ (0, [])).1 = .ok b ∧
    (∀ c ∈ cs, c.isAboutWindows = true) ∧
    Distinct x.windows.events ∧
    x.windows = ⟨["2", "4"], 0, [.opened "1", .opened "2", .opened "4", .closed "1"]⟩ ∧
    x.windows.Exact ∧
    (s.perform .closeWindow x).after.windows.tabs = ["4"] := by
  intro link b cs s x
  have launched : (launch link.logged .usual ⟨[], []⟩ (0, [])).1 = .ok b := rfl
  have windows : ∀ c ∈ cs, c.isAboutWindows = true := by decide
  have state : x.windows
      = ⟨["2", "4"], 0, [.opened "1", .opened "2", .opened "4", .closed "1"]⟩ := by
    decide +kernel
  have distinct : Distinct x.windows.events := by
    rw [state]
    have first : Distinct [.opened "1"] := Distinct.nil.opened (by simp [standing])
    have second : Distinct [.opened "1", .opened "2"] := first.opened (by simp [standing])
    have third : Distinct [.opened "1", .opened "2", .opened "4"] :=
      second.opened (by simp [standing])
    exact third.closed "1"
  obtain ⟨-, exact, -⟩ := windows_exact launched windows distinct
  exact ⟨launched, windows, distinct, state, exact, by decide +kernel⟩

end Browsing

end PageScript
