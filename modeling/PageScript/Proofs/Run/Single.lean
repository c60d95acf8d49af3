import PageScript.Run.Script
import PageScript.Proofs.Run.Coupling

/-!
# Meeting, failing, stopping

These parts of a run succeed whatever the state is, apart from the failure that the options want.
Meeting a command counts it, and takes nothing from the surroundings unless spectators watch.
-/

namespace PageScript

/-- The run with more put out. -/
def Progress.putting {σ : Type} (p : Progress σ) (pieces : List Output) : Progress σ :=
  { p with world :=
      ⟨p.world.session, { p.world.outside with output := p.world.outside.output ++ pieces }⟩ }

theorem Running.attempt_eq {σ α : Type} {action : Running σ α} {p q : Progress σ}
    {r : Except Error α} (h : action p = (r, q)) : Running.attempt action p = (.ok r, q) := by
  unfold Running.attempt
  rw [h]

namespace Setup

variable {σ : Type}

/-- Stopping the session never fails. -/
theorem stopSession_ok (setup : Setup σ) (p : Progress σ) :
    ∃ q, setup.stopSession p = (.ok (), q) := by
  have status : (Running.status setup.session : Running σ Status) p
      = (.ok (setup.session.status p.world.session), p) := rfl
  unfold Setup.stopSession
  rw [Lockstep.bind_ok status]
  split
  · obtain ⟨r, q, hstop⟩ : ∃ r q, (Running.attempt (Running.doing
        (Doing.call setup.session .stop)) : Running σ (Except Error Unit)) p = (.ok r, q) :=
      ⟨_, _, rfl⟩
    rw [Lockstep.bind_ok hstop]
    cases r with
    | ok _ => exact ⟨q, rfl⟩
    | error e => exact ⟨_, rfl⟩
  · exact ⟨p, rfl⟩

/-- Meeting a command counts it and puts something out, where no spectators watch. -/
theorem meet_unwatched (setup : Setup σ) (hdemo : setup.session.config.demo = false) (c : Command)
    (p : Progress σ) :
    ∃ pieces, setup.meet c p
      = (.ok (p.index + 1), { p.putting pieces with index := p.index + 1 }) := by
  unfold meet Progress.putting
  rw [hdemo]
  cases setup.options.verbose with
  | false =>
    refine ⟨[], ?_⟩
    rw [List.append_nil]
    rfl
  | true => exact ⟨[.note .info ("[" ++ Nat.repr (p.index + 1) ++ "] " ++ c.text)], rfl⟩

/-- Meeting a command counts it and leaves all but the surroundings alone. -/
theorem meet_ok (setup : Setup σ) (c : Command) (p : Progress σ) :
    ∃ outside, setup.meet c p
      = (.ok (p.index + 1),
        { p with world := ⟨p.world.session, outside⟩, index := p.index + 1 }) := by
  unfold meet
  cases setup.options.verbose <;> cases setup.session.config.demo <;> exact ⟨_, rfl⟩

/-- A failure noted and collected. -/
def noted (index : Nat) (c : Command) (e : Error) (p : Progress σ) : Progress σ :=
  let note : Output := .note .error
    ("Command " ++ Nat.repr index ++ " failed: " ++ e.message ++ "\n" ++ Script.reportText c)
  { p.putting [note] with
    failures := p.failures ++ [⟨index, Script.reportText c, e.message⟩] }

/-- What a failed command leaves. -/
def failed (setup : Setup σ) (index : Nat) (c : Command) (e : Error) (p : Progress σ) : Progress σ :=
  if setup.options.stopOnFailure then (setup.stopSession (noted index c e p)).2
  else noted index c e p

/-- A failed command leaves the same whether the options want its failure or not. -/
theorem fail_eq (setup : Setup σ) (index : Nat) (c : Command) (e : Error) (p : Progress σ) :
    setup.fail index c e p
      = (if setup.options.errors then .error e else .ok (), setup.failed index c e p) := by
  unfold fail failed
  cases setup.options.stopOnFailure with
  | false => cases setup.options.errors <;> rfl
  | true =>
    obtain ⟨q, hstop⟩ := setup.stopSession_ok (noted index c e p)
    show (setup.stopSession >>= fun _ => if setup.options.errors = true then throw e else pure ())
      (noted index c e p) = _
    rw [Lockstep.bind_ok hstop, if_pos rfl, hstop]
    cases setup.options.errors <;> rfl

end Setup

/-! ## Whole runs -/

/-- How a run of commands ends the run of their script. -/
def Ending.of {σ : Type} (x : Except Error Unit × Progress σ) : Ending σ :=
  match x.1 with
  | .ok () => ⟨.ok ⟨x.2.executed, x.2.failures, x.2.names⟩, .idle, x.2.world⟩
  | .error e => ⟨.error e, .aborted, x.2.world⟩

theorem Setup.run_eq {σ : Type} (setup : Setup σ) (script : Script) (world : World σ) :
    setup.run script world
      = .of (setup.runWithin maxIncludeDepth script.directory script.commands (setup.start world)) :=
  rfl

end PageScript
