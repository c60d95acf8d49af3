import PageScript.Proofs.Operation.Asserting
import PageScript.Proofs.Run.Inert
import PageScript.Proofs.Run.Replaying
import PageScript.Proofs.Run.Splicing
import PageScript.Proofs.Run.Written

/-!
# Assertions that hold

An assertion makes no call that may change the page.  Its action records nothing and takes nothing
from the surroundings, and neither does an argument that is written out, without tokens.  So if calls
that only look at the page leave the session as it is, an assertion that holds changes nothing at all
(`idle_of_passes`), and a script runs as it does without such assertions (`run_passing`).
-/

namespace PageScript

variable {σ : Type}

/-- The calls that may change the page. -/
def changingCalls (calls : List Call) : List Call := calls.filter (!·.isReading)

theorem changingCalls_append (front back : List Call) :
    changingCalls (front ++ back) = changingCalls front ++ changingCalls back :=
  List.filter_append ..

theorem changingCalls_reading {c : Call} (h : c.isReading = true) : changingCalls [c] = [] := by
  simp [changingCalls, h]

/-- Calls that only look at the page leave the session as it is. -/
def Session.KeptByReading (s : Session σ) : Prop :=
  ∀ (c : Call) (x : σ), c.isReading = true → (s.perform c x).after = x

theorem Page.session_keptByReading (config : Config) : (Page.session config).KeptByReading := by
  intro c p h
  cases hfault : p.faults.lookup c.name with
  | some text => simp [session, hfault]
  | none =>
    have after : ((session config).perform c p).after = (p.answer c).2 := by
      simp [session, hfault]
    rw [after]
    cases c with
    | waitFor condition d =>
      rw [answer]
      split <;> rfl
    | currentUrl | title | pageText | pageSource | count | getText | getTexts | getValue | getValues
    | getAttribute | isDisplayed | isSelected | consoleLog | jsErrors | windowCount | alertText => rfl
    | _ => cases h

/-- The sessions are in one state and have had the same calls that may change the page, and the
surroundings differ at most in what was put out. -/
def Coupling.changing (s : Session σ) : Coupling s.traced where
  session x y := x.1 = y.1 ∧ changingCalls x.2 = changingCalls y.2
  outside := Surroundings.Alike
  status h := congrArg s.status h.1
  result c h := congrArg (fun x => (s.perform c x).result) h.1
  notes c h := congrArg (fun x => (s.perform c x).notes) h.1
  after {x y} c h := by
    refine ⟨congrArg (fun x => (s.perform c x).after) h.1, ?_⟩
    show changingCalls (x.2 ++ [c]) = changingCalls (y.2 ++ [c])
    rw [changingCalls_append, changingCalls_append, h.2]
  steady := Surroundings.steady_alike

/-- The command has the name of an assertion. -/
def Command.isAssertion (c : Command) : Bool := Text.startsWith "assert_".toList c.name.toList

/-- A run treats no assertion on its own. -/
theorem Command.isAssertion_unreserved {c : Command} (h : c.isAssertion = true) :
    c.name ∉ reservedNames := by
  have apart : ∀ name ∈ reservedNames, Text.startsWith "assert_".toList name.toList = false := by
    decide +kernel
  intro hmem
  rw [Command.isAssertion, apart c.name hmem] at h
  cases h

/-- A run ends as another does that has more commands: the page is left the same and has had the same
calls that may change it, and the same error or the same report is given, up to the commands that are
done and the numbers of failures. -/
structure Ending.Shortens (n : Nat) (renumber : Failure → Failure)
    (whole rest : Ending (σ × List Call)) : Prop where
  result : EndsWithFewer n renumber whole.result rest.result
  phase : rest.phase = whole.phase
  page : rest.world.session.1 = whole.world.session.1
  calls : changingCalls rest.world.session.2 = changingCalls whole.world.session.2

theorem Ending.Shortens.of_agrees {n : Nat} {renumber : Failure → Failure}
    {whole whole' rest rest' : Ending (σ × List Call)} (h : whole'.Shortens n renumber rest')
    (hwhole : whole.Agrees whole') (hrest : rest.Agrees rest') : whole.Shortens n renumber rest where
  result := by rw [hwhole.result, hrest.result]; exact h.result
  phase := by rw [hwhole.phase, hrest.phase, h.phase]
  page := by rw [hwhole.session, hrest.session, h.page]
  calls := by rw [hwhole.session, hrest.session, h.calls]

namespace Setup

/-- The turn is one of an assertion whose argument is written out, and it is done. -/
def passes (setup : Setup σ) (t : Turn σ) : Bool :=
  t.command.isAssertion && t.command.argument.all Value.isStatic && (setup.fate t).isDone

/-! ## One turn -/

section

variable {setup : Setup σ} {t : Turn (σ × List Call)} {q : Progress (σ × List Call)}

theorem changing_deaf : (Coupling.changing setup.session).Deaf := fun h => h.output

variable (hdemo : setup.session.config.demo = false)
variable (hreading : setup.session.KeptByReading)

include hreading

/-- A call that only looks at the page leaves a world beside what it was beside. -/
theorem call_beside {c : Call} (h : c.isReading = true) (v : World (σ × List Call)) :
    Keeps (fun w => (Coupling.changing setup.session).world w v)
      (Doing.call setup.session.traced c) := by
  intro w hw
  obtain ⟨pieces, hnotes⟩ :=
    notes_eq (setup.session.traced.perform c w.session).notes w.outside
  refine ⟨⟨(hreading c w.session.1 h).trans hw.1.1, ?_⟩, ?_⟩
  · show changingCalls (w.session.2 ++ [c]) = changingCalls v.session.2
    rw [changingCalls_append, changingCalls_reading h, List.append_nil]
    exact hw.1.2
  · show Surroundings.Alike (Doing.notes _ w.outside).2 v.outside
    rw [hnotes]
    exact hw.2.output _ v.outside.output

include hdemo

/-- The turn of an assertion whose argument is written out leaves the run beside what it was
beside. -/
theorem closing_assertion (hassertion : t.command.isAssertion = true)
    (hstatic : t.command.argument.all Value.isStatic = true)
    (hq : (Coupling.changing setup.session).Beside t.before q) :
    (Coupling.changing setup.session).Beside (setup.traced.closing t) q := by
  have unreserved := Command.isAssertion_unreserved hassertion
  cases hop : Operation.ofName? t.command.name with
  | none =>
    refine setup.traced.closing_unknown changing_deaf hdemo ?_ hq
    simp [Command.isKnown, unreserved, hop]
  | some op =>
    have hname : t.command.name ≠ "include" := by
      intro h
      exact unreserved (by simp [h, reservedNames])
    have asserts : op.isAssertion = true := by
      rwa [Operation.isAssertion, Operation.name_of_ofName? hop]
    have opening := setup.traced.opening_beside changing_deaf hdemo hq
    rw [closing, if_neg hname, running, setup.traced.runCommand_operation hop,
      Lockstep.bind_ok (arguments_static setup.traced hstatic _)]
    exact ⟨Operation.assertion_keeps (fun c hc => call_beside hreading hc q.world) asserts _ _
      opening.world, opening.names, opening.respects⟩

theorem idle_of_passes (h : setup.traced.passes t = true) :
    setup.traced.Idle (Coupling.changing setup.session) t := by
  obtain ⟨hwritten, hdone⟩ := Bool.and_eq_true_iff.mp h
  obtain ⟨hassertion, hstatic⟩ := Bool.and_eq_true_iff.mp hwritten
  refine ⟨?_, fun q hq => closing_assertion hdemo hreading hassertion hstatic hq⟩
  cases hfate : setup.traced.fate t with
  | done => rfl
  | _ => simp [hfate, Fate.isDone] at hdone

end

/-! ## Whole runs -/

section

variable {setup : Setup σ} {b : Bool} {marks : List Bool} {ts us : List (Turn σ)}
  (h : List.Forall₂ (setup.Replayed b) ts us)

include h

/-- The turns of two runs of which one replays the other have the same marks. -/
theorem marks_replayed : Turn.marks 0 marks ts = Turn.marks 0 marks us := by
  induction h generalizing marks with
  | nil => rfl
  | @cons t u ts us hfirst hrest ih => rw [Turn.marks, Turn.marks, hfirst.depth, ih, ih]

theorem unmarked_replayed :
    Failure.unmarked (Turn.marks 0 marks ts) ts = Failure.unmarked (Turn.marks 0 marks us) us := by
  funext f
  rw [marks_replayed h, Failure.unmarked, Failure.unmarked, Failure.lowered, Failure.lowered,
    length_marked (List.forall₂_take (f.index - 0) h).length_eq]

theorem passes_replayed :
    (∀ t ∈ marked (Turn.marks 0 marks ts) ts, setup.passes t = true) ↔
      ∀ u ∈ marked (Turn.marks 0 marks us) us, (setup.watched b).passes u = true := by
  rw [marks_replayed h]
  refine forall_replayed_iff (fun t u h => ?_) (forall₂_marked h _)
  rw [passes, passes, h.command, h.fate]

end

/-- Without spectators a script and the script without marked commands, run in one world, end alike. -/
theorem run_passing_unwatched (setup : Setup σ) (hdemo : setup.session.config.demo = false)
    (hregistry : setup.registry.Respects Surroundings.Alike)
    (hfake : setup.fake.Respects Surroundings.Alike) (hreading : setup.session.KeptByReading)
    (script : Script) (world : World (σ × List Call)) (marks : List Bool)
    (hpasses : ∀ t ∈ marked (Turn.marks 0 marks (setup.traced.scriptTurns script world))
      (setup.traced.scriptTurns script world), setup.traced.passes t = true) :
    let whole := setup.traced.run script world
    let rest := setup.traced.run (script.unmarked marks) world
    let ts := setup.traced.scriptTurns script world
    whole.Shortens (marked marks script.commands).length
        (Failure.unmarked (Turn.marks 0 marks ts) ts) rest ∧
      whole.world.outside.Alike rest.world.outside := by
  have idle := fun t ht => idle_of_passes (t := t) hdemo hreading (hpasses t ht)
  obtain ⟨results, phases, ⟨states, calls⟩, outside⟩ := setup.traced.run_unmarked hdemo
    changing_deaf hregistry hfake ⟨⟨rfl, rfl⟩, rfl, rfl, rfl, rfl, rfl⟩ idle
  exact ⟨⟨results, phases, states.symm, calls.symm⟩, outside⟩

/-- Asserts a value. -/
def checkingCommand (text : String) : Command :=
  ⟨"assert_value_of_element", some (.list [.text "#name", .text text])⟩

/-- A value is asserted, written and asserted again, in front of an assertion that does not hold. -/
def checkedScript : Script :=
  ⟨[checkingCommand "old", ⟨"set_value", some (.list [.text "#name", .text "new"])⟩,
    checkingCommand "new", ⟨"assert_found", some (.text "#send")⟩,
    ⟨"log", some (.text "(( eval|1 ))")⟩], none⟩

/-- The two assertions that hold. -/
def holdingMarks : List Bool := [true, false, true]

/-- With spectators the first assertion holds whatever is to come. -/
theorem passes_watched (f : Future) :
    let ts := (rehearsal.watched true).traced.scriptTurns checkedScript (fieldWorld.facing f).fresh
    ∀ t ∈ marked (Turn.marks 0 [true] ts) ts, (rehearsal.watched true).traced.passes t = true := by
  obtain ⟨t, ht⟩ : ∃ t : Turn (Page × List Call), t = ⟨0, maxIncludeDepth, checkedScript.directory,
    checkingCommand "old", (rehearsal.watched true).traced.start (fieldWorld.facing f).fresh⟩ :=
    ⟨_, rfl⟩
  obtain ⟨ts, hts⟩ : ∃ ts, (rehearsal.watched true).traced.scriptTurns checkedScript
      (fieldWorld.facing f).fresh = t :: ts := by
    rw [ht]
    exact turns_first
  have first : t.command = checkingCommand "old" := by rw [ht]
  have static : (checkingCommand "old").argument.all Value.isStatic = true := by decide +kernel
  have done : (rehearsal.watched true).traced.fate t = .done := by
    obtain ⟨outside, hmeet⟩ := (rehearsal.watched true).traced.meet_ok t.command t.before
    have hop : Operation.ofName? t.command.name = some .assertValueOfElement := by
      rw [first]
      exact Operation.ofName?_name .assertValueOfElement
    have running : ((rehearsal.watched true).traced.running t).1 = .ok () := by
      rw [Setup.running, runCommand_operation _ hop,
        Lockstep.bind_ok (arguments_static _ (by rw [first]; exact static) _), opening, met, hmeet, ht]
      rfl
    rw [fate, if_neg (by rw [first]; decide), running]
    rfl
  dsimp only
  rw [hts, (skips ht rfl [] ts).2.2, List.tail_cons, Turn.marked_none]
  intro u hu
  rw [List.mem_singleton.mp hu, passes, done, first, static]
  decide +kernel

-- the failing assertion was the fourth command
example : (rehearsal.traced.run checkedScript fieldWorld.fresh).result.toOption.map
      (fun report => (report.executed, report.failures.map (·.index))) = some (4, [4]) ∧
    (rehearsal.traced.run (checkedScript.unmarked holdingMarks) fieldWorld.fresh).result.toOption.map
      (fun report => (report.executed, report.failures.map (·.index))) = some (2, [2]) := by
  decide +kernel

end Setup

end PageScript
