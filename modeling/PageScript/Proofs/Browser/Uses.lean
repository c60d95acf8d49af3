import PageScript.Proofs.Browser.Asking
import PageScript.Proofs.Browser.Tabs
import PageScript.Proofs.Session.Waiting

/-!
# Uses of a browser

What notes, pictures and the requests that a call may ask for leave alone is left alone by every
call that is not about windows and does not end the session, and such a call fails as requests fail
or for a reason of its own (`Use.perform_confined`).  The lemmas go through the uses of a browser in
the order of their definitions.
-/

namespace PageScript

variable {τ α : Type}

namespace Use

/-- Allowed requests, notes and pictures leave the property alone, and failures of requests are of
the kind, as all others are. -/
structure Undisturbed (link : Link τ) (A : Request → Prop) (P : Browsing τ → Prop)
    (E : Error → Prop) : Prop where
  far : ∀ r b, A r → P b → P { b with far := (link.ask r b.far).2 }
  notes : ∀ b notes, P b → P { b with notes }
  files : ∀ b files, P b → P { b with files }
  requests : ∀ r state, FailsWith E (link.ask r state).1
  unanswered : E link.unanswered
  own : ∀ e, e.isUnknown = false → E e

variable {link : Link τ} {A : Request → Prop} {P : Browsing τ → Prop} {E : Error → Prop}

theorem ensureAlive_confined (own : ∀ e, e.isUnknown = false → E e) :
    Confined P E (ensureAlive : Use τ Unit) :=
  .of_get fun b _ => by
    split
    · exact .of_throw (own _ rfl)
    · exact .of_pure _

theorem tab_confined (own : ∀ e, e.isUnknown = false → E e) : Confined P E (tab : Use τ String) :=
  .of_bind (ensureAlive_confined own) fun _ => .of_get fun b _ => by
    cases b.tabs[b.current]? with
    | some tab => exact .of_pure tab
    | none => exact .of_throw (own _ rfl)

variable (h : Undisturbed link A P E)

include h

theorem note_confined (level : Level) (text : String) : Confined P E (note level text) :=
  .of_modify fun b hb => h.notes b _ hb

theorem request_confined {r : Request} (hr : A r) : Confined P E (request link r) :=
  fun b hb => ⟨h.requests r b.far, h.far r b hr hb⟩

theorem focusWindow_confined (ha : ∀ tab, A (.activate tab)) : Confined P E (focusWindow link) :=
  .of_bind (tab_confined h.own) fun tab => request_confined h (ha tab)

section

variable {code : Snippet} (ha : ∀ tab kind, A (.evaluate tab code kind))

include ha

theorem value_confined (kind : Kind) : Confined P E (value link code kind) :=
  .of_bind (tab_confined h.own) fun tab => request_confined h (ha tab kind)

theorem execute_confined : Confined P E (execute link code) := value_confined h ha .nothing

end

section

variable {selector : String} {expression : Snippet}
  (ha : ∀ tab kind, A (.evaluate tab (Snippet.firstElement selector expression) kind))

include ha

theorem first_confined : Confined P E (first link selector expression) := by
  refine .of_bind (value_confined h ha _) fun (found, v) => ?_
  cases found
  · exact .of_throw (h.own _ rfl)
  · exact .of_pure v

theorem doFirst_confined : Confined P E (doFirst link selector expression) := by
  refine .of_bind ?_ fun _ => .of_pure _
  exact first_confined h ha

end

/-! ## Uses of pages -/

theorem afterNavigation_confined (config : Config)
    (ha : ∀ code ∈ config.arrivals, ∀ tab kind, A (.evaluate tab code kind)) :
    Confined P E (afterNavigation link config) := by
  have hooks : Confined P E (tryCatch (execute link [.code Snippet.hooks]) fun e =>
      note .warn ("Failed to install page hooks: " ++ e.message)) :=
    .of_catch (execute_confined h (ha _ List.mem_cons_self)) fun e => note_confined h _ _
  refine .of_bind hooks fun _ => ?_
  split
  · rename_i hdemo
    rw [Config.arrivals, if_pos hdemo] at ha
    exact .of_bind (execute_confined h (ha _ (by simp))) fun _ =>
      execute_confined h (ha _ (by simp))
  · exact .of_pure ()

theorem navigate_confined (config : Config) {r : String → Request} (hr : ∀ tab, A (r tab))
    (ha : ∀ code ∈ config.arrivals, ∀ tab kind, A (.evaluate tab code kind)) :
    Confined P E (navigate link config r) :=
  .of_bind (tab_confined h.own) fun tab => .of_bind (request_confined h (hr tab)) fun _ =>
    afterNavigation_confined h config ha

theorem scrollTo_confined {selector : String} {offset : Int}
    (ha : ∀ tab kind,
      A (.evaluate tab (Snippet.firstElement selector (Snippet.scrollTo offset)) kind)) :
    Confined P E (scrollTo link selector offset) :=
  .of_bind (doFirst_confined h ha) fun _ => .of_bind (tab_confined h.own) fun _ => .of_pure ()

theorem approach_confined (config : Config) (selector : String)
    (ha : ∀ code ∈ config.approaches selector, ∀ tab kind, A (.evaluate tab code kind)) :
    Confined P E (approach link config selector) := by
  unfold approach
  split
  · rename_i hscroll
    rw [Config.approaches, if_pos hscroll] at ha
    exact scrollTo_confined h (ha _ List.mem_cons_self)
  · exact .of_pure ()

theorem click_confined (config : Config) (selector : String)
    (ha : ∀ r, (Call.click selector).asks config r → A r) :
    Confined P E (click link config selector) := by
  refine .of_bind (approach_confined h config selector fun code hcode tab kind =>
    ha (.evaluate tab code kind) (List.mem_cons_of_mem _ hcode)) fun _ => ?_
  split
  · exact doFirst_confined h fun tab kind => ha (.evaluate tab _ kind) List.mem_cons_self
  · -- only a selector that is no XPath expression is given to the browser itself
    rename_i hxpath
    rw [Bool.not_eq_true] at hxpath
    refine .of_bind (tab_confined h.own) fun tab => ?_
    split
    · exact request_confined h (ha (.humanClick tab selector) fun _ _ => hxpath)
    · exact request_confined h (ha (.click tab selector) fun _ _ => hxpath)

theorem setValue_confined (config : Config) (selector text : String) (w : Writing)
    (ha : ∀ r, (Call.setValue selector text w).asks config r → A r) :
    Confined P E (setValue link config selector text w) := by
  have script {code : Snippet} (hcode : code ∈ (Call.setValue selector text w).scripts config)
      (tab : String) (kind : Kind) : A (.evaluate tab code kind) := ha (.evaluate tab code kind) hcode
  have leave : Confined P E
      (if w.blur then doFirst link selector [.code "el.blur()"] else pure ()) := by
    split
    · exact doFirst_confined h (script (by simp [Call.scripts]))
    · exact .of_pure ()
  have type : Confined P E (do
      doFirst link selector [.code "el.focus()"]
      let tab ← tab
      request link (.typeText tab text)
      if w.blur then doFirst link selector [.code "el.blur()"]) :=
    .of_bind (doFirst_confined h (script (by simp [Call.scripts]))) fun _ =>
      .of_bind (tab_confined h.own) fun tab =>
        .of_bind (request_confined h (ha (.typeText tab text) fun _ hsays => hsays.1)) fun _ => leave
  refine .of_bind (approach_confined h config selector fun code hcode =>
    script (List.mem_append_right _ hcode)) fun _ => ?_
  dsimp only
  split
  · split
    · exact .of_bind (doFirst_confined h (script (by simp [Call.scripts]))) fun _ => type
    · exact type
  · split
    · rename_i hfill
      have css : Snippet.isXPath selector = false := by
        rw [Bool.and_eq_true, Bool.not_eq_true'] at hfill
        exact hfill.2
      exact .of_bind (tab_confined h.own) fun tab =>
        .of_bind (request_confined h (ha (.fill tab selector text) fun _ hsays => ⟨css, hsays.1⟩))
          fun _ => leave
    · exact .of_bind (doFirst_confined h (script (by simp [Call.scripts]))) fun _ => leave

theorem setValueAt_confined (config : Config) (selector : String) (index : Nat) (text : String)
    (ha : ∀ r, (Call.setValueAt selector index text).asks config r → A r) :
    Confined P E (setValueAt link selector index text) := by
  refine .of_bind (value_confined h (fun tab kind => ha (.evaluate tab _ kind) List.mem_cons_self) _)
    fun found => ?_
  split
  · exact .of_throw (h.own _ rfl)
  · exact .of_pure ()

theorem selectOption_confined (config : Config) (selector text : String)
    (ha : ∀ r, (Call.selectOption selector text).asks config r → A r) :
    Confined P E (selectOption link selector text) := by
  refine .of_bind (first_confined h fun tab kind => ha (.evaluate tab _ kind) List.mem_cons_self)
    fun answer => ?_
  split
  · exact .of_pure ()
  · exact .of_throw (h.own _ rfl)
  · exact .of_throw (h.own _ rfl)

theorem moveTo_confined (config : Config) (selector : String)
    (ha : ∀ r, (Call.moveTo selector).asks config r → A r) :
    Confined P E (moveTo link config selector) := by
  have approach : Confined P E (approach link config selector) :=
    approach_confined h config selector fun code hcode tab kind =>
      ha (.evaluate tab code kind) (List.mem_cons_of_mem _ hcode)
  exact .of_bind approach fun _ =>
    .of_bind (first_confined h fun tab kind => ha (.evaluate tab _ kind) List.mem_cons_self)
      fun centre => .of_bind (tab_confined h.own) fun tab =>
        request_confined h (ha (.moveMouse tab _ _) fun _ _ => trivial)

theorem pressKey_confined (config : Config) (selector key : String)
    (ha : ∀ r, (Call.pressKey selector key).asks config r → A r) :
    Confined P E (pressKey link selector key) :=
  .of_bind (doFirst_confined h fun tab kind => ha (.evaluate tab _ kind) List.mem_cons_self) fun _ =>
    .of_bind (tab_confined h.own) fun tab =>
      request_confined h (ha (.pressKey tab key) fun _ hsays => hsays)

theorem getAttribute_confined (config : Config) (selector name : String)
    (ha : ∀ r, (Call.getAttribute selector name).asks config r → A r) :
    Confined P E (getAttribute link selector name) := by
  refine .of_bind
    (first_confined h fun tab kind => ha (.evaluate tab _ kind) List.mem_cons_self) fun v => ?_
  split
  · exact .of_pure _
  · exact .of_pure _

theorem closeAlert_confined
    (ha : ∀ tab kind, A (.evaluate tab [.code "(window.__wr_alerts || []).shift() ?? null"] kind)) :
    Confined P E (closeAlert link) := by
  refine .of_bind (value_confined h ha _) fun text => ?_
  cases text with
  | some text => exact .of_pure ()
  | none => exact .of_throw (h.own _ rfl)

theorem screenshot_confined (path : String) (ha : ∀ tab, A (.picture tab)) :
    Confined P E (screenshot link path) := by
  refine .of_bind (note_confined h _ _) fun _ => .of_bind (tab_confined h.own) fun tab =>
    .of_bind (request_confined h (ha tab)) fun picture => .of_get fun b _ => ?_
  split
  · exact .of_modify fun b hb => h.files b _ hb
  · exact .of_throw (h.own _ rfl)

theorem waitFor_confined (config : Config) (condition : Condition) (timeout : Duration)
    (ha : ∀ tab kind, A (.evaluate tab (Snippet.predicate condition) kind)) :
    Confined P E (waitFor link config condition timeout) := by
  have check : Confined P E (check link condition) := value_confined h ha .bool
  intro b hb
  unfold waitFor
  split
  · rename_i waited hwait
    exact Waiting.wait_confined check.keeps (fun _ => h.own _ rfl) hb hwait
  · exact ⟨.of_error h.unanswered, check.keeps b hb⟩

/-! ## Calls -/

/-- So does a call that is not about windows and does not end the session. -/
theorem perform_confined (config : Config) {c : Call} (hstop : c ≠ .stop)
    (hwindow : c.isAboutWindows = false) (ha : ∀ r, c.asks config r → A r) :
    Confined P E (perform link config c) := by
  have script {code : Snippet} (hcode : code ∈ c.scripts config) (tab : String) (kind : Kind) :
      A (.evaluate tab code kind) := ha (.evaluate tab code kind) hcode
  cases c with
  | stop => exact absurd rfl hstop
  | go url =>
    exact .of_bind (note_confined h _ _) fun _ =>
      navigate_confined h config (fun tab => ha (.navigate tab url) fun _ hsays => hsays)
        fun _ => script
  | back =>
    exact navigate_confined h config (fun tab => ha (.back tab) fun _ _ => trivial) fun _ => script
  | forward =>
    exact navigate_confined h config (fun tab => ha (.forward tab) fun _ _ => trivial) fun _ => script
  | refresh =>
    exact navigate_confined h config (fun tab => ha (.reload tab) fun _ _ => trivial) fun _ => script
  | currentUrl =>
    exact .of_bind (tab_confined h.own) fun tab =>
      request_confined h (ha (.address tab) fun _ _ => trivial)
  | title =>
    exact .of_bind (tab_confined h.own) fun tab =>
      request_confined h (ha (.title tab) fun _ _ => trivial)
  | pageText =>
    exact .of_bind (tab_confined h.own) fun tab =>
      request_confined h (ha (.pageText tab) fun _ _ => trivial)
  | pageSource | count | getTexts | getValues | isDisplayed | clickAll | consoleLog | jsErrors
  | alertText => exact value_confined h (script List.mem_cons_self) _
  | executeScript => exact (value_confined h (script List.mem_cons_self) _).map _
  | getText s | getValue s => exact (first_confined h (script List.mem_cons_self)).map _
  | getAttribute s name => exact getAttribute_confined h config s name ha
  | isSelected s =>
    exact .of_bind (first_confined h (script List.mem_cons_self)) fun _ => .of_pure _
  | click s => exact click_confined h config s ha
  | setValue s v w => exact setValue_confined h config s v w ha
  | setValueAt s i v => exact setValueAt_confined h config s i v ha
  | clear s => exact doFirst_confined h (script List.mem_cons_self)
  | selectOption s text => exact selectOption_confined h config s text ha
  | moveTo s => exact moveTo_confined h config s ha
  | pressKey s key => exact pressKey_confined h config s key ha
  | scrollTo s offset => exact scrollTo_confined h (script List.mem_cons_self)
  | scrollBy x y => exact execute_confined h (script List.mem_cons_self)
  | waitFor condition timeout =>
    exact waitFor_confined h config condition timeout (script List.mem_cons_self)
  | screenshot path => exact screenshot_confined h path fun tab => ha (.picture tab) fun _ _ => trivial
  | windowCount => exact .of_bind (ensureAlive_confined h.own) fun _ => .of_get fun b _ => .of_pure _
  | switchToWindow index => cases hwindow
  | newWindow url => cases hwindow
  | closeWindow => cases hwindow
  | acceptAlert | dismissAlert => exact closeAlert_confined h (script List.mem_cons_self)
  | showCursor | showKeys => exact execute_confined h (script List.mem_cons_self)

end Use

/-! ## Requests made -/

/-- A call that is not about windows and does not end the session makes its own requests only. -/
theorem Browsing.asked_perform (link : Link τ) (config : Config) {c : Call} (hstop : c ≠ .stop)
    (hwindow : c.isAboutWindows = false) (b : Browsing (τ × List Request)) {r : Request}
    (hr : r ∈ ((session link.traced config).perform c b).after.far.2) :
    r ∈ b.far.2 ∨ c.asks config r := by
  have traced : Use.Undisturbed link.traced (c.asks config)
      (fun x => ∀ r ∈ x.far.2, r ∈ b.far.2 ∨ c.asks config r) fun _ => True :=
    { far := fun r x hr hx d hd => by
        rcases List.mem_append.mp hd with hd | hd
        · exact hx d hd
        · rw [List.mem_singleton.mp hd]
          exact .inr hr
      notes := fun _ _ h => h
      files := fun _ _ h => h
      requests := fun _ _ _ _ => trivial
      unanswered := trivial
      own := fun _ _ => trivial }
  exact (Use.perform_confined traced config hstop hwindow fun _ h => h).keeps { b with notes := [] }
    (fun _ h => .inl h) r hr

namespace Use

/-- In a tab, a snippet has the value that the browser answers. -/
theorem value_answered {link : Link τ} {b : Browsing τ} {t : String} (halive : b.alive = true)
    (htab : b.tabs[b.current]? = some t) {code : Snippet} {kind : Kind}
    {x : Except Error kind.Reading} {far : τ}
    (hask : link.ask (.evaluate t code kind) b.far = (x, far)) :
    value link code kind b = (x, { b with far }) :=
  (Lockstep.bind_ok (tab_found halive htab) _).trans (request_eq hask)

/-- The requests of the use begin with this one. -/
def BeginsWith {β : Type} (r : Request) (b : Browsing (τ × List Request))
    (u : Use (τ × List Request) β) : Prop :=
  b.far.2 ++ [r] <+: (u b).2.far.2

/-- Requests that were made stay made. -/
theorem undisturbed_made (link : Link τ) (made : List Request) :
    Undisturbed link.traced (fun _ => True) (fun b => made <+: b.far.2) fun _ => True :=
  { far := fun r _ _ h => h.trans (List.prefix_append _ [r])
    notes := fun _ _ h => h
    files := fun _ _ h => h
    requests := fun _ _ _ _ => trivial
    unanswered := trivial
    own := fun _ _ => trivial }

section

variable {β : Type} {r : Request} {b : Browsing (τ × List Request)}

theorem BeginsWith.of_eq {u : Use (τ × List Request) β} (h : (u b).2.far.2 = b.far.2 ++ [r]) :
    BeginsWith r b u := ⟨[], by rw [List.append_nil, h]⟩

theorem BeginsWith.bind {u : Use (τ × List Request) α} {f : α → Use (τ × List Request) β}
    (h : BeginsWith r b u) (hf : ∀ x made, Keeps (fun b => made <+: b.far.2) (f x)) :
    BeginsWith r b (u >>= f) := by
  obtain ⟨x, v, hu⟩ : ∃ x v, u b = (x, v) := ⟨_, _, rfl⟩
  unfold BeginsWith at h ⊢
  rw [hu] at h
  cases x with
  | error e =>
    rw [Lockstep.bind_error hu]
    exact h
  | ok x =>
    rw [Lockstep.bind_ok hu]
    exact hf x _ v h

theorem BeginsWith.map {u : Use (τ × List Request) α} (h : BeginsWith r b u) (f : α → β) :
    BeginsWith r b (f <$> u) := h.bind fun _ _ => .of_pure _

end

variable (link : Link τ) {b : Browsing (τ × List Request)} {t : String} (halive : b.alive = true)
  (htab : b.tabs[b.current]? = some t)

include halive htab

theorem value_traced (code : Snippet) (kind : Kind) :
    (value link.traced code kind b).2.far.2 = b.far.2 ++ [.evaluate t code kind] := by
  obtain ⟨x, far, hask⟩ : ∃ x far, link.traced.ask (.evaluate t code kind) b.far = (x, far) :=
    ⟨_, _, rfl⟩
  rw [value_answered halive htab hask]
  exact congrArg (fun answer => answer.2.2) hask.symm

theorem value_begins (code : Snippet) (kind : Kind) :
    BeginsWith (.evaluate t code kind) b (value link.traced code kind) :=
  .of_eq (value_traced link halive htab ..)

theorem first_traced (selector : String) (expression : Snippet) :
    (first link.traced selector expression b).2.far.2
      = b.far.2 ++ [.evaluate t (Snippet.firstElement selector expression) .found] := by
  obtain ⟨x, v, hvalue⟩ : ∃ x v, value link.traced (Snippet.firstElement selector expression) .found b
    = (x, v) := ⟨_, _, rfl⟩
  rw [← value_traced link halive htab, hvalue]
  match x with
  | .error e => rw [first, Lockstep.bind_error hvalue]
  | .ok (true, y) => rw [first, Lockstep.bind_ok hvalue]; rfl
  | .ok (false, y) => rw [first, Lockstep.bind_ok hvalue]; rfl

theorem first_begins (selector : String) (expression : Snippet) :
    BeginsWith (.evaluate t (Snippet.firstElement selector expression) .found) b
      (first link.traced selector expression) :=
  .of_eq (first_traced link halive htab ..)

theorem doFirst_traced (selector : String) (expression : Snippet) :
    (doFirst link.traced selector expression b).2.far.2
      = b.far.2 ++ [.evaluate t (Snippet.firstElement selector expression) .found] := by
  obtain ⟨x, v, hfirst⟩ : ∃ x v, first link.traced selector expression b = (x, v) := ⟨_, _, rfl⟩
  rw [← first_traced link halive htab, hfirst]
  cases x with
  | error e => rw [doFirst, Lockstep.bind_error hfirst]
  | ok x => rw [doFirst, Lockstep.bind_ok hfirst]; rfl

theorem doFirst_begins (selector : String) (expression : Snippet) :
    BeginsWith (.evaluate t (Snippet.firstElement selector expression) .found) b
      (doFirst link.traced selector expression) :=
  .of_eq (doFirst_traced link halive htab ..)

/-- Waiting begins with a check, also where it does not end. -/
theorem waitFor_begins (config : Config) (condition : Condition) (timeout : Duration) :
    BeginsWith (.evaluate t (Snippet.predicate condition) .bool) b
      (waitFor link.traced config condition timeout) := by
  have first : BeginsWith (.evaluate t (Snippet.predicate condition) .bool) b
      (check link.traced condition) := value_begins link halive htab _ .bool
  have made := undisturbed_made link (b.far.2 ++ [.evaluate t (Snippet.predicate condition) .bool])
  have keeps : Keeps (fun x => _ <+: x.far.2) (check link.traced condition) :=
    (value_confined made (fun _ _ => trivial) .bool).keeps
  unfold BeginsWith waitFor
  split
  · rename_i waited hwait
    exact Waiting.wait_behind first keeps hwait
  · exact first

end Use

end PageScript
