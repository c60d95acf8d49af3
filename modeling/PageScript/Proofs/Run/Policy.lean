import PageScript.Proofs.Run.Points

/-!
# The first failure

The same script is run twice in the same world, once so that failures are collected and the run goes
on, once so that the first failure ends it.  The two runs are one run up to the first failure.  There
they have collected the same, and from there on the run that goes on can only collect more and call
more (`Follows`).

Calls are counted by a session that keeps them (`Session.traced`).
-/

namespace PageScript

variable {σ : Type}

/-- The setup whose first failure ends the run, or does not. -/
def Setup.withErrors (setup : Setup σ) (errors : Bool) : Setup σ :=
  { setup with options := { setup.options with errors } }

/-- The setup whose session keeps the calls. -/
def Setup.traced (setup : Setup σ) : Setup (σ × List Call) :=
  ⟨setup.session.traced, setup.registry, setup.fake, setup.options, setup.files⟩

/-- The calls that a session has kept. -/
def Progress.calls (p : Progress (σ × List Call)) : List Call := p.world.session.2

/-! ## Calls are only added -/

/-- Behind other calls a session does the same. -/
def Coupling.shift (setup : Setup σ) (before : List Call) : Coupling setup.traced.session where
  session x y := x.1 = y.1 ∧ x.2 = before ++ y.2
  outside := Eq
  status h := congrArg setup.session.status h.1
  result c h := congrArg (fun x => (setup.session.perform c x).result) h.1
  notes c h := congrArg (fun x => (setup.session.perform c x).notes) h.1
  after c h := by
    refine ⟨congrArg (fun x => (setup.session.perform c x).after) h.1, ?_⟩
    show _ ++ [c] = before ++ (_ ++ [c])
    rw [h.2, List.append_assoc]
  steady := Surroundings.steady_eq

/-- The action adds calls behind those made before, and leaves the tally alone. -/
def Adds {α : Type} (a : Running (σ × List Call) α) : Prop :=
  ∀ p, p.calls <+: (a p).2.calls ∧ (a p).2.tally = p.tally

theorem adds_of_lockstep {α : Type} {setup : Setup σ} {a : Running (σ × List Call) α}
    (h : ∀ before t u, Lockstep ((Coupling.shift setup before).running t u) a a) : Adds a := by
  intro p
  -- the same run without the calls before
  let q : Progress (σ × List Call) := { p with world := ⟨(p.world.session.1, []), p.world.outside⟩ }
  have related : (Coupling.shift setup p.calls).running p.tally q.tally p q :=
    ⟨⟨⟨rfl, (List.append_nil _).symm⟩, rfl⟩, rfl, fun _ f _ => Callable.respects_eq f, rfl, rfl⟩
  obtain ⟨-, after⟩ := h p.calls p.tally q.tally p q related
  exact ⟨⟨_, after.world.1.2.symm⟩, after.left⟩

variable (setup : Setup σ)

theorem adds_runCommand (c : Command) : Adds (setup.traced.runCommand c) :=
  adds_of_lockstep fun before _ _ => (Coupling.shift setup before).runCommand_lockstep
    (fun _ _ _ f _ => Callable.respects_eq f) (FakeSource.respects_eq _) c

theorem adds_loadInclude (deeper : Bool) (directory : String) (c : Command) :
    Adds (setup.traced.loadInclude deeper directory c) :=
  adds_of_lockstep fun before _ _ => (Coupling.shift setup before).loadInclude_lockstep
    (FakeSource.respects_eq _) deeper directory c

theorem adds_stopSession : Adds setup.traced.stopSession :=
  adds_of_lockstep fun before _ _ => (Coupling.shift setup before).stopSession_lockstep

/-- A failed command adds calls and the failure. -/
theorem adds_failed (index : Nat) (c : Command) (e : Error) (p : Progress (σ × List Call)) :
    p.calls <+: (setup.traced.failed index c e p).calls ∧
      (setup.traced.failed index c e p).failures
        = p.failures ++ [⟨index, Script.reportText c, e.message⟩] := by
  refine ⟨?_, setup.traced.failed_failures index c e p⟩
  unfold Setup.failed
  split
  · exact (adds_stopSession setup (Setup.noted index c e p)).1
  · exact List.prefix_refl _

/-! ## Two runs from one state -/

/-- What a run and its state are after some commands. -/
abbrev Course.After (σ : Type) := Except Error Unit × Progress (σ × List Call)

/-- From one state, the first run has gone on behind failures and the second has ended with the
first of them: without failures they are the same, and otherwise the first has made at least the
calls of the second. -/
inductive Follows (p : Progress (σ × List Call)) : Course.After σ → Course.After σ → Prop where
  | same {q : Progress (σ × List Call)} (hcalls : p.calls <+: q.calls)
      (hfailures : q.failures = p.failures) : Follows p (.ok (), q) (.ok (), q)
  | ended {q r : Progress (σ × List Call)} {f : Failure} {more : List Failure} {e : Error}
      (hcalls : p.calls <+: q.calls) (hfailures : q.failures = p.failures ++ f :: more)
      (herror : e.message = f.error) (hfirst : r.calls <+: q.calls) :
      Follows p (.ok (), q) (.error e, r)

/-- The two actions are such a pair from every state. -/
def Pair (a b : Running (σ × List Call) Unit) : Prop := ∀ p, Follows p (a p) (b p)

theorem Follows.from {p q : Progress (σ × List Call)} {x y : Course.After σ} (h : Follows q x y)
    (hcalls : p.calls <+: q.calls) (hfailures : q.failures = p.failures) : Follows p x y := by
  cases h with
  | same hc hf => exact .same (hcalls.trans hc) (hf.trans hfailures)
  | ended hc hf he hp => exact .ended (hcalls.trans hc) (by rw [hf, hfailures]) he hp

/-- What comes next runs only where the second run has not ended. -/
theorem Follows.bind {p : Progress (σ × List Call)} {a b f g : Running (σ × List Call) Unit}
    (h : Follows p (a p) (b p)) (hfg : Pair f g) :
    Follows p ((a >>= fun _ => f) p) ((b >>= fun _ => g) p) := by
  obtain ⟨x, ha⟩ : ∃ x, a p = x := ⟨_, rfl⟩
  obtain ⟨y, hb⟩ : ∃ y, b p = y := ⟨_, rfl⟩
  rw [ha, hb] at h
  cases h with
  | @same q hcalls hfailures =>
    rw [Lockstep.bind_ok ha, Lockstep.bind_ok hb]
    exact (hfg q).from hcalls hfailures
  | @ended q r failure more e hcalls hfailures herror hfirst =>
    rw [Lockstep.bind_ok ha, Lockstep.bind_error hb]
    -- the first run goes on alone
    obtain ⟨z, hf⟩ : ∃ z, f q = z := ⟨_, rfl⟩
    obtain ⟨z', hg⟩ : ∃ z', g q = z' := ⟨_, rfl⟩
    have next := hfg q
    rw [hf, hg] at next
    rw [hf]
    cases next with
    | same hc hn => exact .ended (hcalls.trans hc) (hn.trans hfailures) herror (hfirst.trans hc)
    | ended hc hn _ _ =>
      have collected := hn
      rw [hfailures, List.append_assoc, List.cons_append] at collected
      exact .ended (hcalls.trans hc) collected herror (hfirst.trans hc)

/-- The setup that goes on behind failures. -/
def Setup.patient (setup : Setup σ) : Setup (σ × List Call) := setup.traced.withErrors false

/-- The setup that ends with the first failure. -/
def Setup.strict (setup : Setup σ) : Setup (σ × List Call) := setup.traced.withErrors true

theorem pair_fail (index : Nat) (c : Command) (e : Error) :
    Pair (setup.patient.fail index c e) (setup.strict.fail index c e) := by
  intro p
  obtain ⟨hcalls, hfailures⟩ := adds_failed setup index c e p
  rw [Setup.fail_eq, Setup.fail_eq]
  exact .ended hcalls hfailures rfl (List.prefix_refl _)

/-- A single command does not look at what failures do to the run. -/
theorem runCommand_withErrors (setup : Setup σ) (errors : Bool) (c : Command) :
    (setup.withErrors errors).runCommand c = setup.runCommand c :=
  setup.runCommand_options (o := { setup.options with errors }) rfl rfl c

theorem pair_runSingle (index : Nat) (c : Command) :
    Pair (setup.patient.runSingle index c) (setup.strict.runSingle index c) := by
  intro p
  obtain ⟨r, q, hrun⟩ : ∃ r q, setup.traced.runCommand c p = (r, q) := ⟨_, _, rfl⟩
  obtain ⟨hcalls, htally⟩ := adds_runCommand setup c p
  rw [hrun] at hcalls htally
  have attempt : ∀ b, Running.attempt ((setup.traced.withErrors b).runCommand c) p = (.ok r, q) :=
    fun b => Running.attempt_eq (by rw [runCommand_withErrors, hrun])
  unfold Setup.runSingle
  rw [Setup.patient, Setup.strict, Lockstep.bind_ok (attempt false), Lockstep.bind_ok (attempt true)]
  cases r with
  | error e => exact (pair_fail setup index c e q).from hcalls (congrArg Tally.failures htally)
  | ok _ => exact .same hcalls (congrArg Tally.failures htally)

/-- What runs inclusions is such a pair, or is missing in both runs. -/
def InnerPair : Option (Setup.Course (σ × List Call)) → Option (Setup.Course (σ × List Call)) → Prop
  | none, none => True
  | some a, some b => ∀ directory cs, Pair (a directory cs) (b directory cs)
  | _, _ => False

theorem pair_runInclude {a b : Option (Setup.Course (σ × List Call))} (hab : InnerPair a b)
    (directory : String) (index : Nat) (c : Command) :
    Pair (setup.patient.runInclude a directory index c)
      (setup.strict.runInclude b directory index c) := by
  intro p
  have same : b.isSome = a.isSome := by
    cases a <;> cases b <;> first | rfl | cases hab
  obtain ⟨r, q, hload⟩ : ∃ r q, setup.traced.loadInclude a.isSome directory c p = (r, q) :=
    ⟨_, _, rfl⟩
  obtain ⟨hcalls, htally⟩ := adds_loadInclude setup a.isSome directory c p
  rw [hload] at hcalls htally
  have attempt : ∀ e, Running.attempt ((setup.traced.withErrors e).loadInclude a.isSome directory c) p
      = (.ok r, q) := fun _ => Running.attempt_eq hload
  unfold Setup.runInclude
  rw [same, Setup.patient, Setup.strict, Lockstep.bind_ok (attempt false),
    Lockstep.bind_ok (attempt true)]
  cases r with
  | error e => exact (pair_fail setup index c e q).from hcalls (congrArg Tally.failures htally)
  | ok script =>
    cases a with
    | none =>
      cases b with
      | none => exact .same hcalls (congrArg Tally.failures htally)
      | some _ => cases hab
    | some run =>
      cases b with
      | none => cases hab
      | some run' =>
        exact (hab script.directory script.commands q).from hcalls (congrArg Tally.failures htally)

theorem pair_runCommands {a b : Option (Setup.Course (σ × List Call))} (hab : InnerPair a b)
    (directory : String) : ∀ cs : List Command,
    Pair (setup.patient.runCommands a directory cs) (setup.strict.runCommands b directory cs)
  | [], _ => .same (List.prefix_refl _) rfl
  | c :: cs, p => by
    obtain ⟨pieces, hmeet⟩ := setup.traced.meet_ok c p
    have meet : ∀ e, (setup.traced.withErrors e).meet c p = _ := fun _ => hmeet
    rw [Setup.runCommands, Setup.runCommands, Setup.patient, Setup.strict,
      Lockstep.bind_ok (meet false), Lockstep.bind_ok (meet true)]
    have rest := pair_runCommands hab directory cs
    split
    · exact ((pair_runInclude setup hab directory _ c _).bind rest).from (List.prefix_refl _) rfl
    · exact ((pair_runSingle setup _ c _).bind rest).from (List.prefix_refl _) rfl

theorem pair_runWithin : ∀ (levels : Nat) (directory : String) (cs : List Command),
    Pair (setup.patient.runWithin levels directory cs) (setup.strict.runWithin levels directory cs)
  | 0, directory, cs => pair_runCommands setup (a := none) (b := none) trivial directory cs
  | levels + 1, directory, cs =>
    pair_runCommands setup (a := some _) (b := some _) (pair_runWithin levels) directory cs

/-! ## Whole runs -/

/-- The world of a session that has kept no calls. -/
def World.fresh (world : World σ) : World (σ × List Call) :=
  ⟨(world.session, []), world.outside⟩

/-- A run that goes on behind failures always comes to its end.  A run that ends with the first
failure is the same run if there is none.  Otherwise it gives the first failure that the other run
has collected, and its calls are the first calls of the other run. -/
theorem strict_follows_patient (script : Script) (world : World σ) :
    ∃ report : Report,
      (setup.patient.run script world.fresh).result = .ok report ∧
      (setup.patient.run script world.fresh).phase = .idle ∧
      (report.failures = [] →
        setup.strict.run script world.fresh = setup.patient.run script world.fresh) ∧
      ∀ f more, report.failures = f :: more →
        ∃ e, (setup.strict.run script world.fresh).result = .error e ∧ e.message = f.error ∧
          (setup.strict.run script world.fresh).phase = .aborted ∧
          (setup.strict.run script world.fresh).world.session.2 <+:
            (setup.patient.run script world.fresh).world.session.2 := by
  have follows := pair_runWithin setup maxIncludeDepth script.directory script.commands
    (setup.traced.start world.fresh)
  obtain ⟨x, hx⟩ : ∃ x, setup.patient.runWithin maxIncludeDepth script.directory script.commands
    (setup.traced.start world.fresh) = x := ⟨_, rfl⟩
  obtain ⟨y, hy⟩ : ∃ y, setup.strict.runWithin maxIncludeDepth script.directory script.commands
    (setup.traced.start world.fresh) = y := ⟨_, rfl⟩
  have patient : setup.patient.run script world.fresh = .of x :=
    (Setup.run_eq _ _ _).trans (congrArg _ hx)
  have strict : setup.strict.run script world.fresh = .of y :=
    (Setup.run_eq _ _ _).trans (congrArg _ hy)
  rw [hx, hy] at follows
  rw [patient, strict]
  cases follows with
  | @same q hcalls hfailures =>
    refine ⟨⟨q.executed, q.failures, q.names⟩, rfl, rfl, fun _ => rfl, ?_⟩
    intro f more heq
    have none : q.failures = [] := hfailures
    rw [none] at heq
    cases heq
  | @ended q r f more e hcalls hfailures herror hfirst =>
    have collected : q.failures = f :: more := hfailures
    refine ⟨⟨q.executed, q.failures, q.names⟩, rfl, rfl, ?_, ?_⟩
    · intro hnone
      rw [show q.failures = [] from hnone] at collected
      cases collected
    · intro f' more' heq
      rw [show q.failures = f' :: more' from heq] at collected
      cases collected
      exact ⟨e, rfl, herror, rfl, hfirst⟩

end PageScript
