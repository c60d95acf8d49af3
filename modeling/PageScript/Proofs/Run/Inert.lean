import PageScript.Proofs.Run.History
import PageScript.Proofs.Run.Skipping
import PageScript.Proofs.Run.Spliced

/-!
# Commands that do nothing

Unless the options make it an error, an unknown command is passed over, with a warning at most.  Its
arguments are not resolved.  So a script runs as it does without its unknown commands (`run_known`):
they are counted, and nothing else comes of them.
-/

namespace PageScript

variable {σ : Type}

/-- The command is passed over in a script that is inside of so many inclusions: the script is the
one that is run, and the command is unknown. -/
def Command.isPassed (depth : Nat) (c : Command) : Bool := depth == 0 && !c.isKnown

/-- The turn is one of an unknown command of the script that is run. -/
def Turn.isPassed (t : Turn σ) : Bool := t.command.isPassed t.depth

/-- The script without its unknown commands. -/
def Script.known (script : Script) : Script :=
  { script with commands := script.commands.filter Command.isKnown }

/-- The failure, with its number among the turns that are not passed over. -/
def Failure.among (ts : List (Turn σ)) (f : Failure) : Failure :=
  { f with index := f.index - (ts.take f.index).countP Turn.isPassed }

/-! ## Marks -/

/-- When the unknown commands are marked, the turns that are passed over are. -/
theorem Turn.marks_known {ts : List (Turn σ)} {cs : List Command}
    (h : (ts.filter fun t => t.depth = 0).map Turn.command = cs) :
    Turn.marks 0 (cs.map (!·.isKnown)) ts = ts.map Turn.isPassed := by
  induction ts generalizing cs with
  | nil => rfl
  | cons t ts ih =>
    subst h
    by_cases hdepth : t.depth = 0
    · have own : (t :: ts).filter (fun t => t.depth = 0) = t :: ts.filter fun t => t.depth = 0 := by
        simp [hdepth]
      rw [own, List.map_cons, List.map_cons, Turn.marks_own hdepth, List.map_cons, List.tail_cons,
        ih rfl]
      simp [Turn.isPassed, Command.isPassed, hdepth]
    · have deeper : (t :: ts).filter (fun t => t.depth = 0) = ts.filter fun t => t.depth = 0 := by
        simp [hdepth]
      rw [deeper, Turn.marks, if_neg hdepth, ih rfl]
      simp [Turn.isPassed, Command.isPassed, hdepth]

/-- The marked turns in front of a failure are those that are passed over. -/
theorem Failure.unmarked_passed (ts : List (Turn σ)) (f : Failure) :
    f.unmarked (ts.map Turn.isPassed) ts = f.among ts := by
  have parts : ts.map Turn.isPassed
      = (ts.take f.index).map Turn.isPassed ++ (ts.drop f.index).map Turn.isPassed := by
    rw [← List.map_append, List.take_append_drop]
  rw [Failure.unmarked, Failure.lowered, Failure.among, Nat.sub_zero, Nat.zero_add, parts,
    marked_map_append, List.countP_eq_length_filter]

namespace Setup

/-! ## One turn -/

variable {setup : Setup σ} {t : Turn σ}

/-- An unknown command changes nothing but what was put out. -/
theorem unknownCommand_eq (setup : Setup σ) (name : String) (p : Progress σ) :
    ∃ r pieces, setup.unknownCommand name p = (r, p.putting pieces) := by
  have same : p.putting [] = p := by
    rw [Progress.putting, List.append_nil]
  unfold unknownCommand
  cases setup.options.unknown with
  | ignore => exact ⟨.ok (), [], by rw [same]; rfl⟩
  | warn => exact ⟨.ok (), [.note .warn ("Unknown command '" ++ name ++ "', skipping")], rfl⟩
  | error => exact ⟨.error (.unknownCommand name), [], by rw [same]; rfl⟩

/-- Unless unknown commands are errors, they are passed over. -/
theorem unknownCommand_passed (hunknown : setup.options.unknown ≠ .error) (name : String)
    (p : Progress σ) : (setup.unknownCommand name p).1 = .ok () := by
  unfold unknownCommand
  cases hpolicy : setup.options.unknown with
  | ignore => rfl
  | warn => rfl
  | error => exact absurd hpolicy hunknown

/-- The turn of an unknown command leaves the run beside what it was beside. -/
theorem closing_unknown (setup : Setup σ) {k : Coupling setup.session} (hk : k.Deaf)
    (hdemo : setup.session.config.demo = false) (h : t.command.isKnown = false) {q : Progress σ}
    (hq : k.Beside t.before q) : k.Beside (setup.closing t) q := by
  obtain ⟨hname, hcommand⟩ := setup.runCommand_of_not_known h
  obtain ⟨r, said, hsaid⟩ := setup.unknownCommand_eq t.command.name (setup.opening t)
  rw [closing, if_neg hname, running, hcommand, hsaid]
  exact (setup.opening_beside hk hdemo hq).putting hk said

theorem idle_of_unknown (setup : Setup σ) {k : Coupling setup.session} (hk : k.Deaf)
    (hdemo : setup.session.config.demo = false) (hunknown : setup.options.unknown ≠ .error)
    (h : t.command.isKnown = false) : setup.Idle k t := by
  refine ⟨?_, fun q hq => setup.closing_unknown hk hdemo h hq⟩
  obtain ⟨hname, hcommand⟩ := setup.runCommand_of_not_known h
  rw [fate, if_neg hname, running, hcommand, unknownCommand_passed hunknown]
  rfl

/-! ## Whole runs -/

/-- Unless unknown commands are errors or there are spectators, who are given a rest in front of every
command, a script runs as it does without unknown commands: the session is left the same and has had
the same calls, the same is imported and recorded, and the same commands fail.  The unknown commands
count as executed, and they count in the numbers of the failures behind them.  Only what was put out
may differ, which the functions of the registry and the source of synthetic data must not look at; the
standard ones do not. -/
theorem run_known (setup : Setup σ) (hdemo : setup.session.config.demo = false)
    (hregistry : setup.registry.Respects Surroundings.Alike)
    (hfake : setup.fake.Respects Surroundings.Alike) (herrors : setup.options.errors = false)
    (hunknown : setup.options.unknown ≠ .error) (script : Script) (world : World σ) :
    let whole := setup.traced.run script world.fresh
    let known := setup.traced.run script.known world.fresh
    ∃ report rest, whole.result = .ok report ∧ known.result = .ok rest ∧
      report.executed = rest.executed + script.commands.countP (!·.isKnown) ∧
      rest.failures
        = report.failures.map (Failure.among (setup.traced.scriptTurns script world.fresh)) ∧
      rest.names = report.names ∧ known.world.session = whole.world.session ∧
      whole.world.outside.Alike known.world.outside := by
  let ts := setup.traced.scriptTurns script world.fresh
  obtain ⟨r, q, hrun, takes⟩ := setup.traced.run_takes script world.fresh
  cases takes.ok_of_patient herrors
  have marks : Turn.marks 0 (script.commands.map (!·.isKnown)) ts = ts.map Turn.isPassed :=
    Turn.marks_known takes.commands_eq
  have deaf : (Coupling.quiet setup.session.traced).Deaf := fun h => h.output
  have idle : ∀ t ∈ marked (Turn.marks 0 (script.commands.map (!·.isKnown)) ts) ts,
      setup.traced.Idle (Coupling.quiet setup.session.traced) t := by
    intro t ht
    rw [marks, marked_map] at ht
    obtain ⟨-, hpassed⟩ := List.mem_filter.mp ht
    refine setup.traced.idle_of_unknown deaf hdemo hunknown ?_
    simpa [Turn.isPassed, Command.isPassed] using (Bool.and_eq_true_iff.mp hpassed).2
  have same : script.unmarked (script.commands.map (!·.isKnown)) = script.known := by
    rw [Script.unmarked, unmarked_map, Script.known]
    simp
  obtain ⟨results, -, sessions, outside⟩ :=
    setup.traced.run_unmarked hdemo deaf hregistry hfake ⟨rfl, rfl, rfl, rfl, rfl, rfl⟩ idle
  rw [same] at results sessions outside
  dsimp only
  rw [hrun] at results sessions outside ⊢
  obtain ⟨report, hreport⟩ : ∃ report, (Ending.of (.ok (), q)).result = .ok report := ⟨_, rfl⟩
  obtain ⟨rest, hrest⟩ : ∃ rest, (setup.traced.run script.known world.fresh).result = rest :=
    ⟨_, rfl⟩
  rw [hreport, hrest] at results
  cases results with
  | @reported _ rest executed failures names =>
    refine ⟨report, rest, hreport, hrest, ?_, ?_, names, sessions.symm, outside⟩
    · rwa [marked_map, ← List.countP_eq_length_filter] at executed
    · rw [failures, marks]
      exact List.map_congr_left fun f _ => f.unmarked_passed ts

/-- A script with unknown commands in front of a failing one and of an inclusion. -/
def mixedScript : Script :=
  ⟨[⟨"dance", some (.text "(( eval|1 ))")⟩, ⟨"back", none⟩, ⟨"log", some (.text "(( vars|eval ))")⟩,
    ⟨"sing", none⟩, ⟨"include", some (.text "sub/inner.json")⟩], none⟩

theorem run_known_mixed :
    let whole := brokenSetup.traced.run mixedScript stillWorld.fresh
    let known := brokenSetup.traced.run mixedScript.known stillWorld.fresh
    brokenSetup.session.config.demo = false ∧
      brokenSetup.registry.Respects Surroundings.Alike ∧
      brokenSetup.fake.Respects Surroundings.Alike ∧ brokenSetup.options.errors = false ∧
      brokenSetup.options.unknown ≠ .error ∧
      ∃ report rest, whole.result = .ok report ∧ known.result = .ok rest ∧
        report.executed = rest.executed + mixedScript.commands.countP (!·.isKnown) ∧
        rest.failures = report.failures.map
          (Failure.among (brokenSetup.traced.scriptTurns mixedScript stillWorld.fresh)) ∧
        rest.names = report.names ∧ known.world.session = whole.world.session ∧
        whole.world.outside.Alike known.world.outside :=
  ⟨rfl, Library.standard_alike, Fake.generate_alike, rfl, by decide,
    run_known brokenSetup rfl Library.standard_alike Fake.generate_alike rfl (by decide) mixedScript
      stillWorld⟩

-- the unknown commands were the first and the fourth of six
example : (brokenSetup.traced.run mixedScript stillWorld.fresh).result.toOption.map
      (·.failures.map (·.index)) = some [2, 3, 6] ∧
    (brokenSetup.traced.run mixedScript.known stillWorld.fresh).result.toOption.map
      (·.failures.map (·.index)) = some [1, 2, 4] := by decide +kernel

end Setup

end PageScript
