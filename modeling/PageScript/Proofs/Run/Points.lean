import PageScript.Proofs.Run.Keeping
import PageScript.Proofs.Run.Single

/-!
# The points of a run

A run goes from command to command, into the scripts that are included and back.  `Setup.Meets` says
that it comes to a command, and in which state.  What every part of a run keeps holds at all of these
points, and in the end (`Setup.Kept`).  The failure of a command is in the tally from then on, and
it is the failure of the run where the first failure ends it.
-/

namespace PageScript

variable {σ : Type}

/-! ## Commands one after another -/

namespace Setup

/-- What runs the scripts that are included with a number of levels left. -/
def inner (setup : Setup σ) : (levels : Nat) → Option (Course σ)
  | 0 => none
  | levels + 1 => some (setup.runWithin levels)

theorem runWithin_eq (setup : Setup σ) (levels : Nat) :
    setup.runWithin levels = setup.runCommands (setup.inner levels) := by
  cases levels <;> rfl

theorem inner_isSome (setup : Setup σ) (levels : Nat) :
    (setup.inner levels).isSome = decide (0 < levels) := by
  cases levels with
  | zero => rfl
  | succ levels => exact (decide_eq_true (Nat.succ_pos levels)).symm

/-- Runs one command of a script. -/
def dispatch (setup : Setup σ) (inner : Option (Course σ)) (directory : String) (c : Command) :
    Running σ Unit := do
  let index ← setup.meet c
  if c.name = "include" then setup.runInclude inner directory index c
  else setup.runSingle index c

theorem runCommands_cons (setup : Setup σ) (inner : Option (Course σ)) (directory : String)
    (c : Command) (cs : List Command) :
    setup.runCommands inner directory (c :: cs)
      = setup.dispatch inner directory c >>= fun _ => setup.runCommands inner directory cs := by
  rw [runCommands, dispatch, bind_assoc]
  refine congrArg _ (funext fun index => ?_)
  split <;> rfl

theorem runCommands_append (setup : Setup σ) (inner : Option (Course σ)) (directory : String)
    (cs ds : List Command) :
    setup.runCommands inner directory (cs ++ ds)
      = setup.runCommands inner directory cs >>= fun _ => setup.runCommands inner directory ds := by
  induction cs with
  | nil => rfl
  | cons c cs ih => rw [List.cons_append, runCommands_cons, runCommands_cons, ih, bind_assoc]

theorem runWithin_nil (setup : Setup σ) (levels : Nat) (directory : String) :
    setup.runWithin levels directory [] = pure () := by
  rw [runWithin_eq, runCommands]

theorem runWithin_cons (setup : Setup σ) (levels : Nat) (directory : String) (c : Command)
    (cs : List Command) :
    setup.runWithin levels directory (c :: cs)
      = setup.dispatch (setup.inner levels) directory c >>= fun _ =>
        setup.runWithin levels directory cs := by
  rw [runWithin_eq, runCommands_cons]

/-! ## Options -/

theorem importValues_options (setup : Setup σ) (o : Options) (vs : List Value) :
    { setup with options := o }.importValues vs = setup.importValues vs := by
  induction vs with
  | nil => rfl
  | cons v vs ih =>
    rw [importValues, importValues, ih]
    rfl

/-- A single command looks only at the options that say what unknown commands and expressions
without meaning are. -/
theorem runCommand_options (setup : Setup σ) {o : Options}
    (hunknown : o.unknown = setup.options.unknown)
    (hunresolved : o.unresolved = setup.options.unresolved) (c : Command) :
    { setup with options := o }.runCommand c = setup.runCommand c := by
  have arguments : { setup with options := o }.arguments c = setup.arguments c := by
    rw [Setup.arguments, Setup.arguments, resolver, resolver, hunresolved]
  have imports : { setup with options := o }.importCommand c = setup.importCommand c := by
    rw [importCommand, importCommand, arguments]
    simp only [importValues_options]
  have reading (read : String → Doing σ String) :
      { setup with options := o }.readCommand c read = setup.readCommand c read := by
    rw [readCommand, readCommand, arguments]
  have unknown (name : String) :
      { setup with options := o }.unknownCommand name = setup.unknownCommand name := by
    rw [unknownCommand, unknownCommand, hunknown]
  unfold runCommand
  rw [imports, arguments]
  split
  · rfl
  · exact reading _
  · exact reading _
  · cases Operation.ofName? c.name with
    | none => exact unknown _
    | some op => rfl

/-- An inclusion looks only at the option that says what expressions without meaning are. -/
theorem loadInclude_options (setup : Setup σ) {o : Options}
    (hunresolved : o.unresolved = setup.options.unresolved) (deeper : Bool) (directory : String)
    (c : Command) :
    { setup with options := o }.loadInclude deeper directory c
      = setup.loadInclude deeper directory c := by
  have arguments : { setup with options := o }.arguments c = setup.arguments c := by
    rw [Setup.arguments, Setup.arguments, resolver, resolver, hunresolved]
  rw [loadInclude, loadInclude, arguments]

/-! ## What a whole run keeps -/

variable {setup : Setup σ} {P : Progress σ → Prop}

/-- Every part of a run keeps the property. -/
structure Kept (setup : Setup σ) (P : Progress σ → Prop) : Prop where
  meet : ∀ c, Keeps P (setup.meet c)
  command : ∀ c, Keeps P (setup.runCommand c)
  load : ∀ deeper directory c, Keeps P (setup.loadInclude deeper directory c)
  count : ∀ p, P p → P { p with executed := p.executed + 1 }
  fail : ∀ index c e, Keeps P (setup.fail index c e)

theorem attempt_keeps {α : Type} {a : Running σ α} (h : Keeps P a) : Keeps P (Running.attempt a) :=
  fun p hp => h p hp

namespace Kept

variable (h : setup.Kept P)

include h

theorem runSingle (index : Nat) (c : Command) : Keeps P (setup.runSingle index c) := by
  refine .of_bind (attempt_keeps (h.command c)) fun r => ?_
  cases r with
  | error e => exact h.fail index c e
  | ok _ => exact .of_modify h.count

theorem dispatch {inner : Option (Course σ)}
    (hinner : ∀ run ∈ inner, ∀ directory cs, Keeps P (run directory cs)) (directory : String)
    (c : Command) : Keeps P (setup.dispatch inner directory c) := by
  refine .of_bind (h.meet c) fun index => ?_
  split
  · refine .of_bind (attempt_keeps (h.load _ directory c)) fun r => ?_
    cases r with
    | error e => exact h.fail index c e
    | ok script =>
      cases inner with
      | none => exact .of_pure ()
      | some run => exact hinner run rfl _ _
  · exact h.runSingle index c

theorem runCommands {inner : Option (Course σ)}
    (hinner : ∀ run ∈ inner, ∀ directory cs, Keeps P (run directory cs)) (directory : String) :
    ∀ cs : List Command, Keeps P (setup.runCommands inner directory cs)
  | [] => .of_pure ()
  | c :: cs => by
    rw [runCommands_cons]
    exact .of_bind (h.dispatch hinner directory c) fun _ => runCommands hinner directory cs

theorem runWithin : ∀ (levels : Nat) (directory : String) (cs : List Command),
    Keeps P (setup.runWithin levels directory cs)
  | 0, directory, cs => by
    refine h.runCommands (fun run hrun => ?_) directory cs
    cases hrun
  | levels + 1, directory, cs => by
    refine h.runCommands (fun run hrun => ?_) directory cs
    cases hrun
    exact runWithin levels

theorem dispatch_inner (levels : Nat) (directory : String) (c : Command) :
    Keeps P (setup.dispatch (setup.inner levels) directory c) := by
  refine h.dispatch (fun run hrun => ?_) directory c
  cases levels with
  | zero => cases hrun
  | succ levels =>
    cases hrun
    exact h.runWithin levels

end Kept

/-! ## Points -/

/-- The state in which a command is dealt with that is met in a state. -/
def met (setup : Setup σ) (c : Command) (p : Progress σ) : Progress σ := (setup.meet c p).2

theorem meet_eq (setup : Setup σ) (c : Command) (p : Progress σ) :
    setup.meet c p = (.ok (p.index + 1), setup.met c p) := by
  obtain ⟨outside, hmeet⟩ := setup.meet_ok c p
  rw [met, hmeet]

/-- The run of commands comes to a command, in the script of a directory, with a number of levels
left for inclusions, and in a state. -/
inductive Meets (setup : Setup σ) :
    (levels : Nat) → (directory : String) → List Command → Progress σ →
    (levels : Nat) → (directory : String) → Command → Progress σ → Prop where
  /-- The first command. -/
  | here {levels : Nat} {directory : String} {c : Command} {cs : List Command} {p : Progress σ} :
      Meets setup levels directory (c :: cs) p levels directory c p
  /-- A command of the script that the first command includes. -/
  | inside {levels n : Nat} {directory place : String} {c d : Command} {cs : List Command}
      {p q r : Progress σ} {script : Script} (hc : c.name = "include")
      (hload : setup.loadInclude true directory c (setup.met c p) = (.ok script, q))
      (h : Meets setup levels script.directory script.commands q n place d r) :
      Meets setup (levels + 1) directory (c :: cs) p n place d r
  /-- A command behind the first one, which does not end the run. -/
  | behind {levels n : Nat} {directory place : String} {c d : Command} {cs : List Command}
      {p q r : Progress σ} (hc : setup.dispatch (setup.inner levels) directory c p = (.ok (), q))
      (h : Meets setup levels directory cs q n place d r) :
      Meets setup levels directory (c :: cs) p n place d r

/-- An inclusion whose script is loaded runs the commands of the script. -/
theorem dispatch_loaded {levels : Nat} {directory : String} {c : Command} {p q : Progress σ}
    {script : Script} (hc : c.name = "include")
    (hload : setup.loadInclude true directory c (setup.met c p) = (.ok script, q)) :
    setup.dispatch (setup.inner (levels + 1)) directory c p
      = setup.runWithin levels script.directory script.commands q := by
  rw [dispatch, Lockstep.bind_ok (setup.meet_eq c p), if_pos hc]
  exact Lockstep.bind_ok (Running.attempt_eq hload) _

section

variable {levels n : Nat} {directory place : String} {cs : List Command} {d : Command}
  {p r : Progress σ}

/-- What every part of a run keeps holds wherever the run comes to. -/
theorem Kept.meets (h : setup.Kept P) (hmeets : setup.Meets levels directory cs p n place d r)
    (hp : P p) : P r := by
  induction hmeets with
  | here => exact hp
  | @inside levels n directory place c d cs p q r script hc hload hmeets ih =>
    have loaded := h.load true directory c _ (h.meet c p hp)
    rw [show (setup.meet c p).2 = setup.met c p from rfl, hload] at loaded
    exact ih loaded
  | @behind levels n directory place c d cs p q r hc hmeets ih =>
    have after := h.dispatch_inner levels directory c p hp
    rw [hc] at after
    exact ih after

/-- What holds at a point of a run, and is kept by every part of it, holds in the end. -/
theorem Kept.end_of_meets (h : setup.Kept P)
    (hmeets : setup.Meets levels directory cs p n place d r) (hr : P r) :
    P (setup.runWithin levels directory cs p).2 := by
  induction hmeets with
  | here => exact h.runWithin _ _ _ _ hr
  | @inside levels n directory place c d cs p q r script hc hload hmeets ih =>
    rw [runWithin_cons]
    have inside : Keeps P (setup.runWithin (levels + 1) directory cs) := h.runWithin _ _ _
    obtain ⟨x, z, hrun⟩ : ∃ x z, setup.runWithin levels script.directory script.commands q = (x, z) :=
      ⟨_, _, rfl⟩
    have hdispatch := (dispatch_loaded hc hload).trans hrun
    have after := ih hr
    rw [hrun] at after
    cases x with
    | ok _ =>
      rw [Lockstep.bind_ok hdispatch]
      exact inside z after
    | error e =>
      rw [Lockstep.bind_error hdispatch]
      exact after
  | @behind levels n directory place c d cs p q r hc hmeets ih =>
    rw [runWithin_cons, Lockstep.bind_ok hc]
    exact ih hr

end

end Setup

/-! ## Tallies -/

theorem Callable.respects_eq (f : Callable) : Callable.Respects Eq f := by
  intro args a b h
  subst h
  exact ⟨rfl, rfl⟩

theorem FakeSource.respects_eq (fake : FakeSource) : FakeSource.Respects Eq fake :=
  fun category => Taking.respects_eq (fake category)

/-- A session in one state does one thing. -/
def Coupling.same (s : Session σ) : Coupling s :=
  .ofOutside s Eq Surroundings.steady_eq

namespace Setup

variable {setup : Setup σ}

theorem tally_of_lockstep {α : Type} {a : Running σ α}
    (h : ∀ t u, Lockstep ((Coupling.same setup.session).running t u) a a) (p : Progress σ) :
    (a p).2.tally = p.tally :=
  (h p.tally p.tally p p
    ⟨⟨rfl, rfl⟩, rfl, fun _ f _ => Callable.respects_eq f, rfl, rfl⟩).2.left

variable (setup)

theorem runCommand_tally (c : Command) (p : Progress σ) :
    (setup.runCommand c p).2.tally = p.tally :=
  tally_of_lockstep (fun _ _ => (Coupling.same setup.session).runCommand_lockstep
    (fun _ _ _ f _ => Callable.respects_eq f) (FakeSource.respects_eq _) c) p

theorem loadInclude_tally (deeper : Bool) (directory : String) (c : Command) (p : Progress σ) :
    (setup.loadInclude deeper directory c p).2.tally = p.tally :=
  tally_of_lockstep (fun _ _ => (Coupling.same setup.session).loadInclude_lockstep
    (FakeSource.respects_eq _) deeper directory c) p

theorem stopSession_tally (p : Progress σ) : (setup.stopSession p).2.tally = p.tally :=
  tally_of_lockstep (fun _ _ => (Coupling.same setup.session).stopSession_lockstep) p

/-- A failed command adds its failure. -/
theorem failed_failures (index : Nat) (c : Command) (e : Error) (p : Progress σ) :
    (setup.failed index c e p).failures
      = p.failures ++ [⟨index, Script.reportText c, e.message⟩] := by
  unfold failed
  split
  · exact congrArg Tally.failures (setup.stopSession_tally _)
  · rfl

theorem met_failures (c : Command) (p : Progress σ) : (setup.met c p).failures = p.failures := by
  obtain ⟨outside, hmeet⟩ := setup.meet_ok c p
  rw [met, hmeet]

/-- A failure that has been collected stays collected. -/
theorem kept_failure (f : Failure) : setup.Kept (fun p => f ∈ p.failures) := by
  have kept {α : Type} {a : Running σ α} (h : ∀ p, (a p).2.failures = p.failures) :
      Keeps (fun p => f ∈ p.failures) a := by
    intro p hp
    show f ∈ (a p).2.failures
    rw [h]
    exact hp
  refine ⟨fun c => kept (setup.met_failures c), fun c => kept fun p => ?_,
    fun deeper directory c => kept fun p => ?_, fun p hp => hp, fun index c e p hp => ?_⟩
  · exact congrArg Tally.failures (setup.runCommand_tally c p)
  · exact congrArg Tally.failures (setup.loadInclude_tally deeper directory c p)
  · rw [fail_eq]
    show f ∈ (setup.failed index c e p).failures
    rw [failed_failures]
    exact List.mem_append_left _ hp

/-! ## Failures at points -/

variable {setup} {levels n : Nat} {directory place : String} {cs : List Command} {d : Command}
  {p q r : Progress σ} {e : Error}

/-- A command that is no inclusion fails. -/
theorem dispatch_failed (hd : d.name ≠ "include")
    (h : setup.runCommand d (setup.met d r) = (.error e, q)) :
    setup.dispatch (setup.inner n) place d r = setup.fail (r.index + 1) d e q := by
  rw [dispatch, Lockstep.bind_ok (setup.meet_eq d r), if_neg hd]
  exact Lockstep.bind_ok (Running.attempt_eq h) _

/-- The failure of a command is in the tally in the end, and it ends the run if the first failure
does that. -/
theorem Meets.failure (hmeets : setup.Meets levels directory cs p n place d r)
    (h : setup.dispatch (setup.inner n) place d r = setup.fail (r.index + 1) d e q) :
    ⟨r.index + 1, Script.reportText d, e.message⟩
        ∈ (setup.runWithin levels directory cs p).2.failures ∧
      (setup.options.errors = true → (setup.runWithin levels directory cs p).1 = .error e) := by
  rw [fail_eq] at h
  have kept := setup.kept_failure ⟨r.index + 1, Script.reportText d, e.message⟩
  have added : ⟨r.index + 1, Script.reportText d, e.message⟩
      ∈ (setup.failed (r.index + 1) d e q).failures := by
    rw [failed_failures]
    exact List.mem_append_right _ List.mem_cons_self
  induction hmeets with
  | here =>
    rw [runWithin_cons]
    cases herrors : setup.options.errors with
    | true =>
      rw [herrors] at h
      rw [Lockstep.bind_error h]
      exact ⟨added, fun _ => rfl⟩
    | false =>
      rw [herrors] at h
      rw [Lockstep.bind_ok h]
      exact ⟨kept.runWithin _ _ _ _ added, nofun⟩
  | @inside levels n directory place c d cs p q r script hc hload hmeets ih =>
    obtain ⟨collected, ends⟩ := ih h kept added
    obtain ⟨x, z, hrun⟩ : ∃ x z, setup.runWithin levels script.directory script.commands q = (x, z) :=
      ⟨_, _, rfl⟩
    have hdispatch := (dispatch_loaded hc hload).trans hrun
    rw [hrun] at collected ends
    rw [runWithin_cons]
    cases x with
    | ok _ =>
      rw [Lockstep.bind_ok hdispatch]
      exact ⟨kept.runWithin _ _ _ _ collected, fun h => nomatch ends h⟩
    | error e =>
      rw [Lockstep.bind_error hdispatch]
      exact ⟨collected, ends⟩
  | @behind levels n directory place c d cs p q r hc hmeets ih =>
    rw [runWithin_cons, Lockstep.bind_ok hc]
    exact ih h kept added

end Setup

end PageScript
