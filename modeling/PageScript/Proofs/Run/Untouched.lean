import PageScript.Fake.Data
import PageScript.Library.Standard
import PageScript.Proofs.Run.Calling
import PageScript.Proofs.Run.Policy
import PageScript.Proofs.Session.Ending

/-!
# Stopped sessions are left alone

A session may be stopped when a run begins, and a run may be told to stop it behind a failed command.
Either way it is not called from then on, neither by a command nor to be stopped again, and every
command that would call it fails.  So a run that stops the session at its first failure makes no
other calls than the run that does not, up to where it stops.

The session has to be one that is stopped by being stopped and by nothing else
(`Session.EndsByStop`).
-/

namespace PageScript

variable {σ : Type}

namespace Setup

variable (setup : Setup σ)

/-- The session is one that ends by being stopped. -/
abbrev Ends (p : Progress (σ × List Call)) : Prop := setup.session.EndsByStop p.world.session.1

theorem kept_ends : setup.traced.Kept setup.Ends :=
  setup.traced.kept_session (P := fun x => setup.session.EndsByStop x.1)
    (setup.traced.runCommand_preserves fun c _ _ hx => hx.call c) fun _ _ hx _ => hx.call .stop

/-! ## Stopped once -/

/-- The session has not been stopped by a call, or it has just been stopped and for the first
time. -/
def StopsLast (s : Session σ) (x : σ × List Call) : Prop :=
  .stop ∉ x.2 ∨ s.status x.1 = .stopped ∧ ∃ before, .stop ∉ before ∧ x.2 = before ++ [.stop]

theorem StopsLast.eq_nil {s : Session σ} {x : σ × List Call} (h : StopsLast s x)
    {front back : List Call} (heq : x.2 = front ++ .stop :: back) : back = [] := by
  rcases h with h | ⟨-, before, h, hbefore⟩
  · exact absurd (by rw [heq]; simp) h
  · rcases List.eq_nil_or_concat back with rfl | ⟨more, last, rfl⟩
    · rfl
    · have two : before ++ [.stop] = (front ++ .stop :: more) ++ [last] := by
        rw [← hbefore, heq]
        simp
      obtain ⟨hmore, -⟩ := List.append_inj' two rfl
      exact absurd (by rw [hmore]; simp) h

theorem kept_stopsLast :
    setup.traced.Kept (fun p => setup.Ends p ∧ StopsLast setup.session p.world.session) := by
  refine setup.traced.kept_session
    (P := fun x => setup.session.EndsByStop x.1 ∧ StopsLast setup.session x) (fun c p hp => ?_) ?_
  · obtain ⟨hends, hp⟩ := hp
    refine ⟨setup.kept_ends.command c p hends, ?_⟩
    rcases hp with hp | ⟨hstopped, hp⟩
    · refine .inl (setup.traced.runCommand_preserves (P := fun x => .stop ∉ x.2) ?_ c p hp)
      intro d hd x hx hmem
      rcases List.mem_append.mp hmem with hmem | hmem
      · exact hx hmem
      · exact hd (List.mem_singleton.mp hmem).symm
    · have alone := setup.traced.runCommand_idle (x := p.world.session) hstopped c p rfl
      rw [alone]
      exact .inr ⟨hstopped, hp⟩
  · rintro - x ⟨hends, hx⟩ hrunning
    refine ⟨hends.call .stop, ?_⟩
    rcases hx with hx | ⟨hstopped, -⟩
    · exact .inr ⟨hends.stopped, x.2, hx, rfl⟩
    · cases hrunning.symm.trans hstopped

/-! ## Stopped by a failure -/

theorem failed_stopped (hoption : setup.options.stopOnFailure = true) (index : Nat) (c : Command)
    (e : Error) {p : Progress (σ × List Call)} (hp : setup.Ends p) :
    setup.session.status (setup.traced.failed index c e p).world.session.1 = .stopped := by
  rw [failed, if_pos (show setup.traced.options.stopOnFailure = true from hoption)]
  cases hstatus : setup.traced.session.status (noted index c e p).world.session with
  | stopped => rwa [setup.traced.stopSession_stopped hstatus]
  | running =>
    rw [setup.traced.stopSession_running hstatus]
    exact hp.stopped

/-- When failures stop the session, it is stopped from the first failure on. -/
theorem kept_stoppedByFailure (hoption : setup.options.stopOnFailure = true) :
    setup.traced.Kept (fun p => setup.Ends p ∧
      (p.failures = [] ∨ setup.session.status p.world.session.1 = .stopped)) := by
  -- apart from failed commands, nothing fails, and what is stopped stays stopped
  have kept {α : Type} {a : Running (σ × List Call) α} (hends : Keeps setup.Ends a)
      (hfailures : ∀ p, (a p).2.failures = p.failures)
      (hidle : ∀ x, setup.session.status x.1 = .stopped → a.Preserves (· = x)) :
      Keeps (fun p => setup.Ends p ∧
        (p.failures = [] ∨ setup.session.status p.world.session.1 = .stopped)) a := by
    rintro p ⟨hp, hfailed⟩
    refine ⟨hends p hp, ?_⟩
    rcases hfailed with hnone | hstopped
    · exact .inl ((hfailures p).trans hnone)
    · rw [hidle p.world.session hstopped p rfl]
      exact .inr hstopped
  have ends := setup.kept_ends
  refine ⟨fun c => kept (ends.meet c) (setup.traced.met_failures c) fun _ _ => ?_,
    fun c => kept (ends.command c) (fun p => ?_) fun x hx => ?_,
    fun deeper directory c => kept (ends.load deeper directory c) (fun p => ?_) fun _ _ => ?_,
    fun p hp => hp, fun index c e p hp => ⟨ends.fail index c e p hp.1, ?_⟩⟩
  · exact setup.traced.meet_preserves c
  · exact congrArg Tally.failures (setup.traced.runCommand_tally c p)
  · exact setup.traced.runCommand_idle hx c
  · exact congrArg Tally.failures (setup.traced.loadInclude_tally deeper directory c p)
  · exact setup.traced.loadInclude_preserves _ _ _
  · rw [fail_eq]
    exact .inr (setup.failed_stopped hoption index c e hp.1)

/-! ## With and without stopping -/

/-- The setup whose failures stop the session, or do not. -/
def withStop (setup : Setup σ) (stopOnFailure : Bool) : Setup σ :=
  { setup with options := { setup.options with stopOnFailure } }

end Setup

/-- The calls of a session that do not stop it. -/
def capabilityCalls (calls : List Call) : List Call := calls.filter (· ≠ .stop)

theorem capabilityCalls_append (front back : List Call) :
    capabilityCalls (front ++ back) = capabilityCalls front ++ capabilityCalls back :=
  List.filter_append ..

/-- Two runs from one state, of which the first stops the session: they are the same, or the first
has stopped it and the second has made at least the other calls of the first. -/
inductive Parted (s : Session σ) : Course.After σ → Course.After σ → Prop where
  | same (x : Course.After σ) : Parted s x x
  | stopped {r r' : Except Error Unit} {q q' : Progress (σ × List Call)}
      (hstopped : s.status q.world.session.1 = .stopped)
      (hcalls : capabilityCalls q.calls <+: capabilityCalls q'.calls) : Parted s (r, q) (r', q')

namespace Parted

/-- Behind runs that have parted, the first does nothing and the second may call. -/
theorem bind {setup : Setup σ} {a b f g : Running (σ × List Call) Unit}
    {p : Progress (σ × List Call)} (h : Parted setup.session (a p) (b p))
    (hends : setup.Ends (a p).2)
    (hfg : ∀ q, setup.Ends q → Parted setup.session (f q) (g q))
    (hidle : ∀ x, setup.session.status x.1 = .stopped → f.Preserves (· = x))
    (hadds : ∀ calls, Keeps (fun q => capabilityCalls calls <+: capabilityCalls q.calls) g) :
    Parted setup.session ((a >>= fun _ => f) p) ((b >>= fun _ => g) p) := by
  obtain ⟨x, ha⟩ : ∃ x, a p = x := ⟨_, rfl⟩
  obtain ⟨y, hb⟩ : ∃ y, b p = y := ⟨_, rfl⟩
  rw [ha, hb] at h
  rw [ha] at hends
  cases h with
  | same =>
    obtain ⟨r, q⟩ := x
    cases r with
    | error e =>
      rw [Lockstep.bind_error ha, Lockstep.bind_error hb]
      exact .same _
    | ok _ =>
      rw [Lockstep.bind_ok ha, Lockstep.bind_ok hb]
      exact hfg q hends
  | @stopped r r' q q' hstopped hcalls =>
    obtain ⟨t, q₁, hleft, hsame⟩ : ∃ t q₁, (a >>= fun _ => f) p = (t, q₁) ∧
        q₁.world.session = q.world.session := by
      cases r with
      | error e => exact ⟨_, q, Lockstep.bind_error ha _, rfl⟩
      | ok _ => exact ⟨_, _, Lockstep.bind_ok ha _, hidle _ hstopped q rfl⟩
    obtain ⟨u, q₂, hright, hmore⟩ : ∃ u q₂, (b >>= fun _ => g) p = (u, q₂) ∧
        capabilityCalls q'.calls <+: capabilityCalls q₂.calls := by
      cases r' with
      | error e => exact ⟨_, q', Lockstep.bind_error hb _, List.prefix_refl _⟩
      | ok _ => exact ⟨_, _, Lockstep.bind_ok hb _, hadds q'.calls q' (List.prefix_refl _)⟩
    rw [hleft, hright]
    have calls : q₁.calls = q.calls := congrArg Prod.snd hsame
    exact .stopped (by rw [hsame]; exact hstopped) (by rw [calls]; exact hcalls.trans hmore)

end Parted

namespace Setup

variable (setup : Setup σ)

/-- Calls are only added. -/
theorem kept_calls (calls : List Call) :
    setup.traced.Kept (fun p => capabilityCalls calls <+: capabilityCalls p.calls) := by
  have more (c : Call) (x : σ × List Call) (hx : capabilityCalls calls <+: capabilityCalls x.2) :
      capabilityCalls calls <+: capabilityCalls (x.2 ++ [c]) := by
    rw [capabilityCalls_append]
    exact hx.trans (List.prefix_append _ _)
  exact setup.traced.kept_session (P := fun x => capabilityCalls calls <+: capabilityCalls x.2)
    (setup.traced.runCommand_preserves fun c _ => more c) fun _ x hx _ => more .stop x hx

/-- A failed command makes no call but stopping the session. -/
theorem failed_capabilityCalls (index : Nat) (c : Command) (e : Error)
    (p : Progress (σ × List Call)) :
    capabilityCalls (setup.traced.failed index c e p).calls = capabilityCalls p.calls := by
  refine setup.traced.failed_preserves
    (P := fun x => capabilityCalls x.2 = capabilityCalls p.calls) (fun _ x hx _ => ?_) rfl
  show capabilityCalls (x.2 ++ [.stop]) = _
  rw [capabilityCalls_append, hx]
  exact List.append_nil _

/-- The setup that stops the session behind a failed command, with its calls. -/
def stopping (setup : Setup σ) : Setup (σ × List Call) := (setup.withStop true).traced

/-- The setup that does not stop the session, with its calls. -/
def sparing (setup : Setup σ) : Setup (σ × List Call) := (setup.withStop false).traced

/-- The runs of the two setups part in this way from every state. -/
def Parts (setup : Setup σ) (levels : Nat) : Prop :=
  ∀ directory cs p, setup.Ends p → Parted setup.session
    (setup.stopping.runWithin levels directory cs p) (setup.sparing.runWithin levels directory cs p)

theorem parted_fail (index : Nat) (c : Command) (e : Error) {p : Progress (σ × List Call)}
    (hp : setup.Ends p) :
    Parted setup.session (setup.stopping.fail index c e p) (setup.sparing.fail index c e p) := by
  rw [fail_eq, fail_eq]
  have calls (b : Bool) := (setup.withStop b).failed_capabilityCalls index c e p
  have same := (calls true).trans (calls false).symm
  exact .stopped ((setup.withStop true).failed_stopped rfl index c e hp)
    ⟨[], (List.append_nil _).trans same⟩

theorem parted_runSingle (index : Nat) (c : Command) {p : Progress (σ × List Call)}
    (hp : setup.Ends p) :
    Parted setup.session (setup.stopping.runSingle index c p)
      (setup.sparing.runSingle index c p) := by
  obtain ⟨r, q, hrun⟩ : ∃ r q, setup.traced.runCommand c p = (r, q) := ⟨_, _, rfl⟩
  have attempt : ∀ b, Running.attempt ((setup.withStop b).traced.runCommand c) p = (.ok r, q) := by
    intro b
    refine Running.attempt_eq (Eq.trans ?_ hrun)
    exact congrFun (setup.traced.runCommand_options (o := (setup.withStop b).options) rfl rfl c) p
  have hq : setup.Ends q := by
    have := setup.kept_ends.command c p hp
    rwa [hrun] at this
  unfold runSingle
  rw [stopping, sparing, Lockstep.bind_ok (attempt true), Lockstep.bind_ok (attempt false)]
  cases r with
  | error e => exact setup.parted_fail index c e hq
  | ok _ => exact .same _

section

variable {setup} {levels : Nat} (hinner : ∀ n, levels = n + 1 → setup.Parts n)

include hinner

theorem parted_include (directory : String) (index : Nat) (c : Command)
    {p : Progress (σ × List Call)} (hp : setup.Ends p) :
    Parted setup.session
      (setup.stopping.runInclude (setup.stopping.inner levels) directory index c p)
      (setup.sparing.runInclude (setup.sparing.inner levels) directory index c p) := by
  rw [stopping, sparing, runInclude, runInclude, inner_isSome, inner_isSome]
  obtain ⟨deeper, hdeeper⟩ : ∃ b, decide (0 < levels) = b := ⟨_, rfl⟩
  obtain ⟨r, q, hload⟩ : ∃ r q, setup.traced.loadInclude deeper directory c p = (r, q) :=
    ⟨_, _, rfl⟩
  have attempt : ∀ b, Running.attempt ((setup.withStop b).traced.loadInclude deeper directory c) p
      = (.ok r, q) := by
    intro b
    refine Running.attempt_eq (Eq.trans ?_ hload)
    exact congrFun (setup.traced.loadInclude_options (o := (setup.withStop b).options) rfl _ _ c) p
  have hq : setup.Ends q := by
    have := setup.kept_ends.load deeper directory c p hp
    rwa [hload] at this
  rw [hdeeper, Lockstep.bind_ok (attempt true), Lockstep.bind_ok (attempt false)]
  cases r with
  | error e => exact setup.parted_fail index c e hq
  | ok script =>
    cases levels with
    | zero => exact .same _
    | succ n => exact hinner n rfl script.directory script.commands q hq

theorem parted_dispatch (directory : String) (c : Command) {p : Progress (σ × List Call)}
    (hp : setup.Ends p) :
    Parted setup.session (setup.stopping.dispatch (setup.stopping.inner levels) directory c p)
      (setup.sparing.dispatch (setup.sparing.inner levels) directory c p) := by
  have stopped : setup.stopping.meet c p = (.ok (p.index + 1), setup.traced.met c p) :=
    setup.traced.meet_eq c p
  have spared : setup.sparing.meet c p = (.ok (p.index + 1), setup.traced.met c p) :=
    setup.traced.meet_eq c p
  have hmet : setup.Ends (setup.traced.met c p) := setup.kept_ends.meet c p hp
  unfold dispatch
  rw [Lockstep.bind_ok stopped, Lockstep.bind_ok spared]
  split
  · exact parted_include hinner directory _ c hmet
  · exact setup.parted_runSingle _ c hmet

theorem parted_commands : setup.Parts levels
  | _, [], _, _ => by
    rw [runWithin_nil, runWithin_nil]
    exact .same _
  | directory, c :: cs, p, hp => by
    rw [runWithin_cons, runWithin_cons]
    refine (parted_dispatch hinner directory c hp).bind ?_
      (parted_commands directory cs) (fun x hx => ?_) fun calls => ?_
    · exact (setup.withStop true).kept_ends.dispatch_inner levels directory c p hp
    · exact (setup.stopping.kept_stopped hx).runWithin _ _ _
    · exact ((setup.withStop false).kept_calls calls).runWithin _ _ _

end

theorem parted_runWithin : ∀ levels, setup.Parts levels
  | 0 => parted_commands nofun
  | levels + 1 => parted_commands (by
      rintro n ⟨⟩
      exact parted_runWithin levels)

end Setup

/-! ## Whole runs -/

/-- The ending tells that a command has failed. -/
inductive Ending.Tells (ending : Ending σ) (index : Nat) (c : Command) (e : Error) : Prop where
  | reported {report : Report} (h : ending.result = .ok report)
      (hmem : ⟨index, Script.reportText c, e.message⟩ ∈ report.failures)
  /-- It has ended the run. -/
  | ended (h : ending.result = .error e)

theorem Ending.of_world (x : Except Error Unit × Progress σ) : (Ending.of x).world = x.2.world := by
  obtain ⟨r, q⟩ := x
  cases r <;> rfl

namespace Setup

variable {setup : Setup σ}

/-- A run that goes on behind failures comes to its end. -/
theorem runWithin_ok (herrors : setup.options.errors = false) (levels : Nat) (directory : String)
    (cs : List Command) (p : Progress (σ × List Call)) :
    ∃ q, setup.traced.runWithin levels directory cs p = (.ok (), q) := by
  have patient : setup.patient = setup.traced := by
    rw [patient, withErrors, ← show setup.traced.options.errors = false from herrors]
  have follows := pair_runWithin setup levels directory cs p
  rw [patient] at follows
  obtain ⟨x, hx⟩ : ∃ x, setup.traced.runWithin levels directory cs p = x := ⟨_, rfl⟩
  obtain ⟨y, hy⟩ : ∃ y, setup.strict.runWithin levels directory cs p = y := ⟨_, rfl⟩
  rw [hx, hy] at follows
  rw [hx]
  cases follows with
  | same _ _ => exact ⟨_, rfl⟩
  | ended _ _ _ _ => exact ⟨_, rfl⟩

variable {script : Script} {world : World (σ × List Call)} {n : Nat} {place : String} {c : Command}
  {p q : Progress (σ × List Call)}

/-- A run tells of the failure of a command that it comes to. -/
theorem Meets.tells {e : Error}
    (hmeets : setup.traced.Meets maxIncludeDepth script.directory script.commands
      (setup.traced.start world) n place c p)
    (h : setup.traced.dispatch (setup.traced.inner n) place c p
      = setup.traced.fail (p.index + 1) c e q) :
    (setup.traced.run script world).Tells (p.index + 1) c e := by
  obtain ⟨collected, ends⟩ := hmeets.failure h
  rw [run_eq]
  cases herrors : setup.options.errors with
  | true =>
    refine .ended ?_
    rw [Ending.of, ends herrors]
  | false =>
    obtain ⟨r, hrun⟩ := runWithin_ok herrors maxIncludeDepth script.directory script.commands
      (setup.traced.start world)
    rw [hrun] at collected ⊢
    exact .reported rfl collected

/-- A command that uses the session fails when it is stopped. -/
theorem Meets.refused
    (hmeets : setup.traced.Meets maxIncludeDepth script.directory script.commands
      (setup.traced.start world) n place c p)
    (hp : setup.session.status p.world.session.1 = .stopped) (hneeds : c.needsSession = true) :
    ∃ e, (setup.traced.run script world).Tells (p.index + 1) c e ∧
      (setup.traced.Resolves c (setup.traced.met c p) → e = .sessionStopped) := by
  have stopped : setup.traced.session.status (setup.traced.met c p).world.session = .stopped := by
    rw [show (setup.traced.met c p).world.session = p.world.session from
      setup.traced.meet_preserves (P := (· = p.world.session)) c p rfl]
    exact hp
  have single : c.name ≠ "include" := by
    intro hname
    rw [Command.needsSession, Command.isReading, hname] at hneeds
    exact absurd hneeds (by decide +kernel)
  obtain ⟨e, q, hrun, -, he⟩ := setup.traced.runCommand_refused hneeds stopped
  exact ⟨e, hmeets.tells (dispatch_failed single hrun), he⟩

variable (setup) (script) (world : World σ)

/-- A run that stops the session at its first failure makes the first calls of the run that does
not. -/
theorem withStop_calls (hs : setup.session.EndsByStop world.session) :
    capabilityCalls ((setup.withStop true).traced.run script world.fresh).world.session.2
      <+: capabilityCalls ((setup.withStop false).traced.run script world.fresh).world.session.2 := by
  rw [run_eq, run_eq, Ending.of_world, Ending.of_world]
  let start := setup.traced.start world.fresh
  have parted := setup.parted_runWithin maxIncludeDepth script.directory script.commands start hs
  obtain ⟨x, hx⟩ : ∃ x, setup.stopping.runWithin maxIncludeDepth script.directory script.commands
    start = x := ⟨_, rfl⟩
  obtain ⟨y, hy⟩ : ∃ y, setup.sparing.runWithin maxIncludeDepth script.directory script.commands
    start = y := ⟨_, rfl⟩
  show capabilityCalls (setup.stopping.runWithin _ _ _ start).2.calls
    <+: capabilityCalls (setup.sparing.runWithin _ _ _ start).2.calls
  rw [hx, hy] at parted ⊢
  cases parted with
  | same _ => exact List.prefix_refl _
  | stopped _ hcalls => exact hcalls

/-- A session that is stopped, before the run or because a command has failed, is not called any
more, nor stopped again, and every command that would use it fails.  So the calls of the run that
stops it at the first failure are the first calls of the run that does not. -/
theorem stopped_session_untouched (hs : setup.session.EndsByStop world.session) :
    let ending := setup.traced.run script world.fresh
    (setup.session.status world.session = .stopped → ending.world.session.2 = []) ∧
    (∀ front back, ending.world.session.2 = front ++ .stop :: back → back = []) ∧
    (∀ n place c p, setup.traced.Meets maxIncludeDepth script.directory script.commands
        (setup.traced.start world.fresh) n place c p →
      (setup.options.stopOnFailure = true → p.failures ≠ [] →
        setup.session.status p.world.session.1 = .stopped) ∧
      (setup.session.status p.world.session.1 = .stopped →
        ending.world.session.2 = p.calls ∧
        (c.needsSession = true → ∃ e, ending.Tells (p.index + 1) c e ∧
          (setup.traced.Resolves c (setup.traced.met c p) → e = .sessionStopped)))) ∧
    capabilityCalls ((setup.withStop true).traced.run script world.fresh).world.session.2
      <+: capabilityCalls ((setup.withStop false).traced.run script world.fresh).world.session.2 := by
  let start := setup.traced.start world.fresh
  have hstart : setup.Ends start := hs
  have after : ∀ {P : Progress (σ × List Call) → Prop}, setup.traced.Kept P → P start →
      P (setup.traced.runWithin maxIncludeDepth script.directory script.commands start).2 :=
    fun kept h => kept.runWithin _ _ _ _ h
  dsimp only
  refine ⟨fun hstopped => ?_, fun front back heq => ?_, fun n place c p hmeets => ⟨?_, ?_⟩,
    setup.withStop_calls script world hs⟩
  · rw [run_eq, Ending.of_world]
    have alone := after (setup.traced.kept_stopped (x := (world.session, [])) hstopped) rfl
    rw [alone]
  · rw [run_eq, Ending.of_world] at heq
    exact (after setup.kept_stopsLast ⟨hstart, .inl List.not_mem_nil⟩).2.eq_nil heq
  · intro hoption hfailures
    have kept := setup.kept_stoppedByFailure hoption
    exact (kept.meets hmeets ⟨hstart, .inl rfl⟩).2.resolve_left hfailures
  · intro hp
    refine ⟨?_, hmeets.refused hp⟩
    have alone := (setup.traced.kept_stopped hp).end_of_meets hmeets rfl
    rw [run_eq, Ending.of_world, alone]
    rfl

/-! ## A rehearsal -/

/-- Runs on a page held in memory; a failure stops it. -/
def rehearsal : Setup Page :=
  ⟨Page.session .usual, Library.standard, Fake.generate, .usual, .ofFiles [] []⟩

/-- A page without elements, before anything has happened. -/
def blankWorld : World Page :=
  ⟨⟨false, "", "", "", [], [], [], [], .null, []⟩, .still⟩

def clickSend : Command := ⟨"click", some (.text "#send")⟩

def readName : Command := ⟨"value_of", some (.text "#name")⟩

/-- The click fails, and the run goes on. -/
theorem clickSend_fails :
    ∃ p, rehearsal.traced.dispatch (rehearsal.traced.inner maxIncludeDepth) "." clickSend
      (rehearsal.traced.start blankWorld.fresh) = (.ok (), p) ∧ p.failures ≠ [] := by
  refine ⟨_, Prod.ext (show _ = Except.ok () from rfl) rfl, ?_⟩
  decide +kernel

/-- Behind a click that has failed, the page is not read. -/
theorem stopped_session_untouched_rehearsed :
    rehearsal.session.EndsByStop blankWorld.session ∧
      let ending := rehearsal.traced.run ⟨[clickSend, readName], none⟩ blankWorld.fresh
      ∃ p : Progress (Page × List Call), p.failures ≠ [] ∧ ending.world.session.2 = p.calls ∧
        ending.Tells (p.index + 1) readName .sessionStopped := by
  have ends : rehearsal.session.EndsByStop blankWorld.session := Page.session_endsByStop rfl
  refine ⟨ends, ?_⟩
  obtain ⟨p, hclick, failed⟩ := clickSend_fails
  obtain ⟨-, -, points, -⟩ :=
    rehearsal.stopped_session_untouched ⟨[clickSend, readName], none⟩ blankWorld ends
  obtain ⟨stops, untouched⟩ := points _ _ readName p (.behind hclick .here)
  obtain ⟨calls, refused⟩ := untouched (stops rfl failed)
  obtain ⟨e, tells, he⟩ := refused (by decide +kernel)
  have resolves : rehearsal.traced.Resolves readName (rehearsal.traced.met readName p) :=
    ⟨⟨"value_of", [.text "#name"]⟩, rfl, fun _ => ⟨"#name", rfl⟩⟩
  rw [he resolves] at tells
  exact ⟨p, failed, calls, tells⟩

end Setup

end PageScript
