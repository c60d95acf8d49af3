import PageScript.Proofs.Browser.Place
import PageScript.Proofs.Session.Calls

/-!
# The tab in use

A running browser should be in one of its tabs.  It is in a tab when it is launched, and every call
leaves it in one, whatever the requests behind the call come to, with a single exception.  When the
tab in use is the last of several and its window is closed, the tab goes away first and the tab in
front of it is brought to the front afterwards.  If that request fails, the browser is behind its
last tab (`Strands`): it has tabs, and yet every use of a page says that no window is open.

`inTab_throughout_iff` says that a launched browser gets out of its tabs in no other way.
-/

namespace PageScript

variable {τ : Type} {link : Link τ}

/-- If the browser is there, it is in one of its tabs. -/
def Browsing.InTab (b : Browsing τ) : Prop := b.alive = true → b.current < b.tabs.length

theorem Browsing.inTab_of_place_eq {b b' : Browsing τ} (h : b'.place = b.place) :
    b'.InTab ↔ b.InTab := by
  obtain ⟨halive, htabs, hcurrent⟩ := Place.mk.inj h
  rw [InTab, InTab, halive, htabs, hcurrent]

namespace Use

variable {b : Browsing τ}

/-- A running browser finds its tab exactly when it is in one. -/
theorem inTab_iff_tab (h : b.alive = true) : b.InTab ↔ ∃ t, tab b = (.ok t, b) := by
  constructor
  · intro hin
    exact ⟨_, tab_found h (List.getElem?_eq_getElem (hin h))⟩
  · rintro ⟨t, ht⟩ -
    refine Nat.lt_of_not_le fun hout => ?_
    rw [tab_missing h (List.getElem?_eq_none hout)] at ht
    cases ht

/-! ## Going, opening, closing -/

/-- Where a browser goes it is in a tab, and where it cannot go it stays. -/
theorem inTab_activate (i : Nat) : Keeps Browsing.InTab (activate link i) := by
  intro b hin
  cases h : b.alive with
  | false =>
    obtain ⟨e, hquit⟩ := activate_quit link i h
    rw [hquit]
    exact hin
  | true =>
    cases ht : b.tabs[i]? with
    | none =>
      rw [activate_missing ht]
      exact hin
    | some t =>
      obtain ⟨r, far, hask⟩ : ∃ r far, link.ask (.activate t) b.far = (r, far) := ⟨_, _, rfl⟩
      cases r with
      | ok _ =>
        rw [activate_reached h ht hask]
        exact fun _ => (List.getElem?_eq_some_iff.mp ht).1
      | error e =>
        rw [activate_refused h ht hask]
        exact hin

theorem Stays.inTab {α : Type} {u : Use τ α} (h : u.Stays) : Keeps Browsing.InTab u :=
  fun b hin => (Browsing.inTab_of_place_eq (h b.place b rfl)).mpr hin

theorem inTab_openTab (url : Option String) : Keeps Browsing.InTab (openTab link url) := by
  refine .of_bind stays_ensureAlive.inTab fun _ => ?_
  refine .of_bind (stays_request link _).inTab fun tab => ?_
  refine .of_bind (.of_modify fun b hin h => ?_) fun _ => .of_get fun b _ => inTab_activate _
  have := hin h
  rw [List.length_append]
  exact Nat.lt_add_right _ this

theorem inTab_newWindow (config : Config) (url : Option String) :
    Keeps Browsing.InTab (newWindow link config url) := by
  refine .of_bind (inTab_openTab url) fun _ => ?_
  split
  · exact (stays_afterNavigation link config).inTab
  · exact .of_pure ()

/-- Closing the window of the tab in use leaves no tab in use: it is the last of several, it goes
away, and the tab in front of it cannot be brought to the front. -/
inductive Strands (link : Link τ) (b : Browsing τ) : Prop where
  | intro {front : List String} {tab last : String} {far : τ} {e : Error} (alive : b.alive = true)
      (tabs : b.tabs = front ++ [tab, last]) (current : b.current = front.length + 1)
      (closes : link.ask (.closeTab last) b.far = (.ok (), far))
      (refuses : (link.ask (.activate tab) far).1 = .error e)

/-- Notes have nothing to do with it. -/
theorem strands_notes (notes : List (Level × String)) :
    Strands link { b with notes } ↔ Strands link b :=
  ⟨fun ⟨h, htabs, hcurrent, hcloses, hrefuses⟩ => ⟨h, htabs, hcurrent, hcloses, hrefuses⟩,
    fun ⟨h, htabs, hcurrent, hcloses, hrefuses⟩ => ⟨h, htabs, hcurrent, hcloses, hrefuses⟩⟩

section

variable {front : List String} {tab last : String} (h : b.alive = true)
  (htabs : b.tabs = front ++ [tab, last]) (hcurrent : b.current = front.length + 1)

include h htabs hcurrent

theorem strands_iff : Strands link b ↔ ∃ far e, link.ask (.closeTab last) b.far = (.ok (), far) ∧
    (link.ask (.activate tab) far).1 = .error e := by
  constructor
  · rintro ⟨-, htabs', -, hcloses, hrefuses⟩
    obtain ⟨-, heq⟩ := List.append_inj' (htabs.symm.trans htabs') rfl
    cases heq
    exact ⟨_, _, hcloses, hrefuses⟩
  · rintro ⟨far, e, hcloses, hrefuses⟩
    exact ⟨h, htabs, hcurrent, hcloses, hrefuses⟩

/-- Closing the last of several tabs. -/
theorem inTab_closeTab_last : (closeTab link b).2.InTab ↔ ¬ Strands link b := by
  rw [strands_iff h htabs hcurrent]
  have several : ¬ b.tabs.length ≤ 1 := by
    rw [htabs, List.length_append]
    exact fun hle => absurd hle (by simp)
  have found : b.tabs[b.current]? = some last := by
    rw [htabs, hcurrent]
    simp
  have remaining : b.tabs.eraseIdx b.current = front ++ [tab] := by
    rw [htabs, hcurrent, List.eraseIdx_append_of_length_le (Nat.le_succ _)]
    simp
  obtain ⟨r, far, hclose⟩ : ∃ r far, link.ask (.closeTab last) b.far = (r, far) := ⟨_, _, rfl⟩
  cases r with
  | error e =>
    rw [closeTab_refused h several found hclose]
    refine iff_of_true (fun _ => ?_) ?_
    · show b.current < b.tabs.length
      rw [htabs, hcurrent, List.length_append]
      exact Nat.lt_succ_self _
    · rintro ⟨far', e', hclose', -⟩
      cases hclose.symm.trans hclose'
  | ok _ =>
    have next : min b.current ((front ++ [tab]).length - 1) = front.length := by
      rw [hcurrent, List.length_append]
      exact Nat.min_eq_right (Nat.le_succ _)
    rw [closeTab_closed h several found hclose, remaining, next]
    have neighbour : (front ++ [tab])[front.length]? = some tab := by simp
    obtain ⟨r, far', hactivate⟩ : ∃ r far', link.ask (.activate tab) far = (r, far') := ⟨_, _, rfl⟩
    cases r with
    | ok _ =>
      rw [activate_reached (b := { b with far, tabs := front ++ [tab] }) h neighbour hactivate]
      refine iff_of_true (fun _ => ?_) ?_
      · show front.length < (front ++ [tab]).length
        rw [List.length_append]
        exact Nat.lt_succ_self _
      · rintro ⟨far'', e, hclose', hrefused⟩
        cases hclose.symm.trans hclose'
        rw [hactivate] at hrefused
        cases hrefused
    | error e =>
      rw [activate_refused (b := { b with far, tabs := front ++ [tab] }) h neighbour hactivate]
      refine iff_of_false (fun hin => ?_) fun hs => hs ⟨far, e, hclose, congrArg Prod.fst hactivate⟩
      have : b.current < (front ++ [tab]).length := hin h
      rw [hcurrent, List.length_append] at this
      exact absurd this (Nat.lt_irrefl _)

end

/-- Closing another tab than the last keeps the browser in a tab. -/
theorem inTab_closeTab_inner (h : b.alive = true) (hinner : b.current + 1 < b.tabs.length) :
    (closeTab link b).2.InTab := by
  have several : ¬ b.tabs.length ≤ 1 := by omega
  have hin : b.current < b.tabs.length := by omega
  have found := List.getElem?_eq_getElem hin
  obtain ⟨r, far, hclose⟩ : ∃ r far, link.ask (.closeTab b.tabs[b.current]) b.far = (r, far) :=
    ⟨_, _, rfl⟩
  cases r with
  | error e =>
    rw [closeTab_refused h several found hclose]
    exact fun _ => hin
  | ok _ =>
    rw [closeTab_closed h several found hclose]
    refine inTab_activate _ _ fun _ => ?_
    show b.current < (b.tabs.eraseIdx b.current).length
    rw [List.length_eraseIdx_of_lt hin]
    omega

theorem exists_last_two {α : Type} {xs : List α} (h : 2 ≤ xs.length) :
    ∃ front x y, xs = front ++ [x, y] := by
  rcases List.eq_nil_or_concat xs with rfl | ⟨ys, y, rfl⟩
  · exact absurd h (by simp)
  · rcases List.eq_nil_or_concat ys with rfl | ⟨front, x, rfl⟩
    · exact absurd h (by simp)
    · exact ⟨front, x, y, by simp⟩

/-- Closing a tab leaves the browser in a tab unless it strands it. -/
theorem inTab_closeTab_iff (hin : b.InTab) : (closeTab link b).2.InTab ↔ ¬ Strands link b := by
  cases h : b.alive with
  | false =>
    obtain ⟨e, hquit⟩ := closeTab_quit link h
    rw [hquit]
    exact iff_of_true hin fun ⟨halive, _, _, _, _⟩ => Bool.false_ne_true (h.symm.trans halive)
  | true =>
    by_cases hinner : b.current + 1 < b.tabs.length
    · refine iff_of_true (inTab_closeTab_inner h hinner) ?_
      rintro ⟨-, htabs, hcurrent, -, -⟩
      rw [htabs, hcurrent, List.length_append] at hinner
      exact absurd hinner (Nat.lt_irrefl _)
    · -- the tab in use is the last one
      have hlast : b.current + 1 = b.tabs.length := Nat.le_antisymm (hin h) (Nat.le_of_not_lt hinner)
      by_cases several : 2 ≤ b.tabs.length
      · obtain ⟨front, tab, last, htabs⟩ := exists_last_two several
        rw [htabs, List.length_append] at hlast
        exact inTab_closeTab_last h htabs (Nat.succ.inj hlast)
      · rw [closeTab_only (Nat.le_of_lt_succ (Nat.lt_of_not_le several))]
        refine iff_of_true hin ?_
        rintro ⟨-, htabs, -, -, -⟩
        rw [htabs, List.length_append] at several
        exact several (Nat.le_add_left 2 _)

/-! ## Calls -/

variable (link) (config : Config)

theorem inTab_perform {c : Call} (hc : c ≠ .closeWindow) :
    Keeps Browsing.InTab (perform link config c) := by
  by_cases hstop : c = .stop
  · subst hstop
    intro b _ halive
    have stopped := congrArg Place.alive (place_stop link b)
    exact absurd (stopped.symm.trans halive) Bool.false_ne_true
  · cases hwindow : c.isAboutWindows with
    | false => exact (stays_perform link config hstop hwindow).inTab
    | true =>
      cases c with
      | closeWindow => exact absurd rfl hc
      | newWindow url => exact inTab_newWindow config url
      | switchToWindow index => exact inTab_activate index
      | _ => cases hwindow

/-- A call leaves the browser in a tab, unless it closes a window and strands it. -/
theorem inTab_perform_iff (hin : b.InTab) (c : Call) :
    (((Browsing.session link config).perform c b).after).InTab ↔
      ¬ (c = .closeWindow ∧ Strands link b) := by
  by_cases hc : c = .closeWindow
  · subst hc
    rw [and_iff_right rfl, ← strands_notes []]
    exact inTab_closeTab_iff (b := { b with notes := [] }) hin
  · exact iff_of_true (inTab_perform link config hc { b with notes := [] } hin) fun h => hc h.1

end Use

namespace Browsing

/-! ## Launched browsers -/

/-- A launched browser is in its only tab. -/
theorem place_launch {config : Config} {files : FileTree} {far : τ} {b : Browsing τ}
    (h : (launch link config files far).1 = .ok b) : ∃ tab, b.place = ⟨true, [tab], 0⟩ := by
  unfold launch at h
  split at h
  · cases h
  · split at h
    · cases h
    · rename_i tab far' _
      refine ⟨tab, ?_⟩
      dsimp only at h
      split at h
      · -- the window of the tab is brought to the front, which is no change of place
        have stays := Use.stays_focusWindow link _ ⟨far', true, [tab], 0, files, []⟩ rfl
        split at h
        · cases h
        · rename_i _ b' hfocus
          cases h
          rwa [show Use.focusWindow link _ = _ from hfocus] at stays
      · cases h
        rfl

/-- A launched browser is in a tab all along some calls, and every use of a page finds it, exactly if
none of them closes a window and strands it. -/
theorem inTab_throughout_iff (link : Link τ) (config : Config) (files : FileTree) (far : τ)
    {b : Browsing τ} (h : (launch link config files far).1 = .ok b) (cs : List Call) :
    (∀ front back, cs = front ++ back →
      let b' := (session link config).after b front
      b'.InTab ∧ (b'.alive = true → ∃ t, Use.tab b' = (.ok t, b'))) ↔
      ∀ front back, cs = front ++ .closeWindow :: back →
        ¬ Use.Strands link ((session link config).after b front) := by
  obtain ⟨tab, hplace⟩ := place_launch h
  have hin : b.InTab := by
    intro _
    show b.place.current < b.place.tabs.length
    rw [hplace]
    exact Nat.zero_lt_one
  have step (c : Call) (b : Browsing τ) (hin : b.InTab) := Use.inTab_perform_iff link config hin c
  have throughout := Session.holds_throughout_iff (P := Browsing.InTab) _ step cs hin
  constructor
  · intro hcs front back heq hstrands
    exact throughout.mp (fun front back heq => (hcs front back heq).1) front _ back heq
      ⟨rfl, hstrands⟩
  · intro hcs front back heq
    have hin := throughout.mpr (by
      rintro front _ back heq ⟨rfl, hstrands⟩
      exact hcs front back heq hstrands) front back heq
    exact ⟨hin, fun halive => (Use.inTab_iff_tab halive).mp hin⟩

/-! ## A browser that counts its requests -/

/-- The value of code that does nothing. -/
def plainValue : (kind : Kind) → kind.Reading
  | .nothing => ()
  | .bool => false
  | .nat => 0
  | .text => ""
  | .texts => []
  | .textOrNone => none
  | .found => (false, .null)
  | .any => none

/-- What a browser answers to the request of a number, if it does as it is asked: a tab is named by
that number. -/
def plainAnswer (n : Nat) : (r : Request) → r.Answer
  | .newTab _ => Nat.repr n
  | .address _ | .title _ | .pageText _ | .picture _ => ""
  | .evaluate _ _ kind => plainValue kind
  | .launch _ | .activate _ | .closeTab _ | .quit | .navigate _ _ | .back _ | .forward _ | .reload _
  | .click _ _ | .humanClick _ _ | .fill _ _ _ | .typeText _ _ | .pressKey _ _
  | .moveMouse _ _ _ => ()

/-- A browser that counts the requests made to it, and fails those of some numbers. -/
def counting (fails : Nat → Bool) : Link Nat where
  ask r n := (if fails n then .error (.browser "CDP error") else .ok (plainAnswer n r), n + 1)
  instant n := n
  unanswered := .browser "CDP error"

/-- The browser of such a link when it has been launched. -/
def launched : Browsing Nat := ⟨2, true, ["1"], 0, ⟨[], []⟩, []⟩

/-- A window is opened and closed by a browser that fails no request. -/
theorem inTab_throughout_opened_and_closed :
    (launch (counting fun _ => false) .usual ⟨[], []⟩ 0).1 = .ok launched ∧
      ((session (counting fun _ => false) .usual).after launched
        [.newWindow none, .closeWindow]).InTab := by
  have h : (launch (counting fun _ => false) .usual ⟨[], []⟩ 0).1 = .ok launched := rfl
  refine ⟨h, ((inTab_throughout_iff _ _ _ _ h _).mpr ?_ [.newWindow none, .closeWindow] [] rfl).1⟩
  rintro front back - ⟨-, -, -, -, hrefuses⟩
  cases hrefuses

/-- The window of a second tab is closed, and the request for the first one fails: one tab is open,
and no use of a page finds it. -/
theorem stranded_behind_last_tab :
    (launch (counting fun n => n == 5) .usual ⟨[], []⟩ 0).1 = .ok launched ∧
      let b := (session (counting fun n => n == 5) .usual).after launched
        [.newWindow none, .closeWindow]
      b.alive = true ∧ b.tabs = ["1"] ∧ b.current = 1 ∧ ¬ b.InTab ∧
        (Use.tab b).1 = .error (.actionFailed "no open window") := by
  refine ⟨rfl, rfl, rfl, rfl, fun hin => ?_, rfl⟩
  exact absurd (hin rfl) (Nat.lt_irrefl 1)

end Browsing

end PageScript
