import PageScript.Proofs.Operation.Calls
import PageScript.Proofs.Run.Points

/-!
# What a run does to its session

Expressions, imports and inclusions leave the session alone.  Operations and readings call it, but
never stop it (`runCommand_preserves`), and they do not call it when it is stopped
(`runCommand_idle`).  A run stops its session in one place only, behind a failed command, and only a
session that can be used (`stopSession_running`, `stopSession_stopped`).
-/

namespace PageScript

variable {σ α : Type}

/-- The part of a run keeps a property of the session. -/
abbrev Running.Preserves (P : σ → Prop) (a : Running σ α) : Prop :=
  Keeps (fun p => P p.world.session) a

namespace Running

variable {P : σ → Prop}

theorem doing_preserves {a : Doing σ α} (h : a.Preserves P) : Preserves P (doing a) :=
  fun p hp => h p.world hp

theorem resolving_preserves (a : Resolving α) : Preserves P (resolving a) := fun _ hp => hp

theorem note_preserves (level : Level) (text : String) : Preserves P (note level text) :=
  fun _ hp => hp

theorem ofExcept_preserves (r : Except Error α) : Preserves P (ofExcept r) := by
  cases r with
  | ok x => exact .of_pure x
  | error e => exact .of_throw e

theorem status_eq (s : Session σ) (p : Progress σ) :
    (status s : Running σ Status) p = (.ok (s.status p.world.session), p) := rfl

end Running

namespace Setup

open Running

variable (setup : Setup σ) {P : σ → Prop}

/-! ## What leaves the session alone -/

theorem arguments_preserves (c : Command) : Preserves P (setup.arguments c) :=
  resolving_preserves _

theorem importValue_preserves (v : Value) : Preserves P (setup.importValue v) := by
  unfold importValue
  cases v.scalarText with
  | none => exact .of_throw _
  | some spec =>
    refine .of_get fun p _ => .of_bind (ofExcept_preserves _) fun found => ?_
    exact .of_modify fun _ h => h

theorem importValues_preserves : ∀ vs : List Value, Preserves P (setup.importValues vs)
  | [] => .of_pure ()
  | v :: vs => .of_bind (setup.importValue_preserves v) fun _ => importValues_preserves vs

theorem importCommand_preserves (c : Command) : Preserves P (setup.importCommand c) :=
  .of_bind (setup.arguments_preserves c) fun _ => .of_guard (setup.importValues_preserves _)

theorem unknownCommand_preserves (name : String) : Preserves P (setup.unknownCommand name) := by
  unfold unknownCommand
  cases setup.options.unknown with
  | ignore => exact .of_pure ()
  | warn => exact note_preserves _ _
  | error => exact .of_throw _

theorem loadInclude_preserves (deeper : Bool) (directory : String) (c : Command) :
    Preserves P (setup.loadInclude deeper directory c) := by
  refine .of_bind (setup.arguments_preserves c) fun args =>
    .of_bind (ofExcept_preserves _) fun path => .of_bind (note_preserves _ _) fun _ => .of_guard ?_
  obtain ⟨loaded, warnings⟩ := Script.load setup.files (Path.join directory path)
  refine .of_bind (doing_preserves (Doing.outside_preserves _)) fun _ => ?_
  cases loaded with
  | ok script => exact .of_pure script
  | error e => exact .of_throw _

theorem meet_preserves (c : Command) : Preserves P (setup.meet c) := by
  intro p hp
  obtain ⟨pieces, hmeet⟩ := setup.meet_ok c p
  rw [hmeet]
  exact hp

/-! ## What calls the session -/

theorem readCommand_preserves (c : Command) {read : String → Doing σ String}
    (hread : ∀ selector, (read selector).Preserves P) :
    Preserves P (setup.readCommand c read) := by
  refine .of_bind (setup.arguments_preserves c) fun args =>
    .of_bind (ofExcept_preserves _) fun selector => ?_
  refine .of_bind (doing_preserves fun _ hw => hw) fun status => .of_guard ?_
  exact .of_bind (doing_preserves (hread selector)) fun text => .of_modify fun _ h => h

/-- What every call but stopping keeps, every single command keeps. -/
theorem runCommand_preserves (h : ∀ c : Call, c ≠ .stop → c.Preserves setup.session P)
    (c : Command) : Preserves P (setup.runCommand c) := by
  unfold runCommand
  split
  · exact setup.importCommand_preserves c
  · exact setup.readCommand_preserves c fun s => Doing.call_preserves (h (.getValue s) nofun)
  · exact setup.readCommand_preserves c fun s => Doing.call_preserves (h (.getText s) nofun)
  · cases Operation.ofName? c.name with
    | none => exact setup.unknownCommand_preserves c.name
    | some op =>
      exact .of_bind (setup.arguments_preserves c) fun args =>
        doing_preserves (Operation.perform_preserves h op args)

end Setup

/-! ## A stopped session -/

/-- The command reads a text from the page. -/
def Command.isReading (c : Command) : Bool := c.name = "value_of" || c.name = "text_of"

/-- The command uses the session: it reads from the page, or names an operation that does. -/
def Command.needsSession (c : Command) : Bool :=
  c.isReading || (Operation.ofName? c.name).any Operation.needsSession

/-- The names that a run treats on its own are no names of operations. -/
theorem Operation.ofName?_reserved : ∀ name ∈ reservedNames, ofName? name = none := by
  decide +kernel

namespace Setup

open Running

variable (setup : Setup σ) {P : σ → Prop} {c : Command} {p q : Progress σ}

/-- A command that does not use the session leaves it alone. -/
theorem runCommand_preserves_apart (h : c.needsSession = false) :
    Preserves P (setup.runCommand c) := by
  obtain ⟨hreading, hop⟩ := Bool.or_eq_false_iff.mp h
  unfold runCommand
  split
  · exact setup.importCommand_preserves c
  · rename_i hname
    rw [Command.isReading, hname] at hreading
    cases hreading
  · rename_i hname
    rw [Command.isReading, hname] at hreading
    cases hreading
  · cases hname : Operation.ofName? c.name with
    | none => exact setup.unknownCommand_preserves c.name
    | some op =>
      rw [hname] at hop
      exact .of_bind (setup.arguments_preserves c) fun args =>
        doing_preserves (Operation.perform_preserves_apart hop args)

/-- The arguments of the command can be resolved, and if it reads from the page they hold the
selector of an element. -/
def Resolves (setup : Setup σ) (c : Command) (p : Progress σ) : Prop :=
  ∃ args, (setup.arguments c p).1 = .ok args ∧
    (c.isReading = true → ∃ selector, args.text 0 "selector" = .ok selector)

theorem runCommand_reading (h : c.isReading = true) :
    ∃ read, setup.runCommand c = setup.readCommand c read := by
  unfold runCommand
  rcases Bool.or_eq_true_iff.mp h with hname | hname
  · rw [of_decide_eq_true hname]
    exact ⟨_, rfl⟩
  · rw [of_decide_eq_true hname]
    exact ⟨_, rfl⟩

theorem runCommand_operation {op : Operation} (h : Operation.ofName? c.name = some op) :
    setup.runCommand c = setup.arguments c >>= fun args =>
      Running.doing (op.perform setup.session args) := by
  have named : ∀ name ∈ reservedNames, c.name ≠ name := by
    intro name hname heq
    rw [heq, Operation.ofName?_reserved name hname] at h
    cases h
  unfold runCommand
  split
  · exact absurd ‹_› (named _ (by decide))
  · exact absurd ‹_› (named _ (by decide))
  · exact absurd ‹_› (named _ (by decide))
  · rw [h]

section

variable {args : Arguments} (hargs : setup.arguments c p = (.ok args, q))
  (hq : setup.session.status q.world.session = .stopped)

include hargs

theorem readCommand_unfit {read : String → Doing σ String} {e : Error}
    (h : args.text 0 "selector" = .error e) : setup.readCommand c read p = (.error e, q) := by
  rw [readCommand, Lockstep.bind_ok hargs, h]
  rfl

include hq

theorem readCommand_stopped {read : String → Doing σ String} {selector : String}
    (h : args.text 0 "selector" = .ok selector) :
    setup.readCommand c read p = (.error .sessionStopped, q) := by
  have looked := status_eq setup.session q
  rw [hq] at looked
  rw [readCommand, Lockstep.bind_ok hargs, h]
  exact (Lockstep.bind_ok (x := pure selector) rfl _).trans (Lockstep.bind_ok looked _)

theorem runCommand_stopped {op : Operation} (h : Operation.ofName? c.name = some op)
    (hneeds : op.needsSession = true) : setup.runCommand c p = (.error .sessionStopped, q) := by
  rw [setup.runCommand_operation h, Lockstep.bind_ok hargs, doing,
    Operation.perform_stopped hneeds args hq]

end

/-- A command that uses the session resolves its arguments first. -/
theorem runCommand_needing (hneeds : c.needsSession = true) :
    ∃ f, setup.runCommand c = setup.arguments c >>= f := by
  rcases Bool.or_eq_true_iff.mp hneeds with hreading | hop
  · obtain ⟨read, hrun⟩ := setup.runCommand_reading hreading
    exact ⟨_, hrun⟩
  · cases hname : Operation.ofName? c.name with
    | none => rw [hname] at hop; cases hop
    | some op => exact ⟨_, setup.runCommand_operation hname⟩

/-- When the session is stopped, a command that uses it fails.  It fails because of that, if it can
be resolved, and it leaves the session alone in any case. -/
theorem runCommand_refused (hneeds : c.needsSession = true)
    (hp : setup.session.status p.world.session = .stopped) :
    ∃ e q, setup.runCommand c p = (.error e, q) ∧ q.world.session = p.world.session ∧
      (setup.Resolves c p → e = .sessionStopped) := by
  obtain ⟨r, q, hargs⟩ : ∃ r q, setup.arguments c p = (r, q) := ⟨_, _, rfl⟩
  have alone : q.world.session = p.world.session := by
    have := setup.arguments_preserves (P := (· = p.world.session)) c p rfl
    rwa [hargs] at this
  have hq : setup.session.status q.world.session = .stopped := by rw [alone, hp]
  unfold Resolves
  rw [hargs]
  cases r with
  | error e =>
    obtain ⟨f, hrun⟩ := setup.runCommand_needing hneeds
    rw [hrun]
    exact ⟨e, q, Lockstep.bind_error hargs f, alone, nofun⟩
  | ok args =>
    cases hreading : c.isReading with
    | true =>
      obtain ⟨read, hrun⟩ := setup.runCommand_reading hreading
      rw [hrun]
      cases hselector : args.text 0 "selector" with
      | error e =>
        refine ⟨e, q, setup.readCommand_unfit hargs hselector, alone, ?_⟩
        rintro ⟨_, ⟨⟩, h⟩
        obtain ⟨_, h⟩ := h rfl
        rw [hselector] at h
        cases h
      | ok selector => exact ⟨_, q, setup.readCommand_stopped hargs hq hselector, alone, fun _ => rfl⟩
    | false =>
      rw [Command.needsSession, hreading, Bool.false_or] at hneeds
      cases hname : Operation.ofName? c.name with
      | none => rw [hname] at hneeds; cases hneeds
      | some op =>
        rw [hname] at hneeds
        exact ⟨_, q, setup.runCommand_stopped hargs hq hname hneeds, alone, fun _ => rfl⟩

/-- No single command calls a stopped session. -/
theorem runCommand_idle {x : σ} (hx : setup.session.status x = .stopped) (c : Command) :
    Preserves (· = x) (setup.runCommand c) := by
  intro p hp
  have stopped : setup.session.status p.world.session = .stopped := by rw [hp, hx]
  cases hneeds : c.needsSession with
  | false => exact setup.runCommand_preserves_apart (P := (· = x)) hneeds p hp
  | true =>
    obtain ⟨e, q, hrun, alone, -⟩ := setup.runCommand_refused hneeds stopped
    rw [hrun]
    exact alone.trans hp

/-! ## Failed commands -/

theorem stopSession_stopped (hp : setup.session.status p.world.session = .stopped) :
    setup.stopSession p = (.ok (), p) := by
  have looked := status_eq setup.session p
  rw [hp] at looked
  exact Lockstep.bind_ok looked _

theorem stopSession_running (hp : setup.session.status p.world.session = .running) :
    (setup.stopSession p).2.world.session = (setup.session.perform .stop p.world.session).after := by
  have looked := status_eq setup.session p
  rw [hp] at looked
  rw [stopSession, Lockstep.bind_ok looked, if_pos rfl]
  obtain ⟨r, q, hstop⟩ : ∃ r q, (Running.doing (Doing.call setup.session .stop) : Running σ Unit) p
      = (r, q) := ⟨_, _, rfl⟩
  have called : q.world.session = (setup.session.perform .stop p.world.session).after :=
    (congrArg (fun z => z.2.world.session) hstop).symm
  rw [Lockstep.bind_ok (Running.attempt_eq hstop)]
  cases r with
  | ok _ => exact called
  | error e => exact called

theorem failed_preserves
    (hstop : setup.options.stopOnFailure = true → ∀ x, P x → setup.session.status x = .running →
      P (setup.session.perform .stop x).after) {index : Nat} {e : Error}
    (hp : P p.world.session) : P (setup.failed index c e p).world.session := by
  have noted : P (noted index c e p).world.session := hp
  unfold failed
  split
  · rename_i hoption
    cases hstatus : setup.session.status (Setup.noted index c e p).world.session with
    | stopped =>
      rw [setup.stopSession_stopped hstatus]
      exact noted
    | running =>
      rw [setup.stopSession_running hstatus]
      exact hstop hoption _ noted hstatus
  · exact noted

/-- What single commands keep, and stopping a session that can be used if the options want that, a
whole run keeps. -/
theorem kept_session (hcommand : ∀ c, Preserves P (setup.runCommand c))
    (hstop : setup.options.stopOnFailure = true → ∀ x, P x → setup.session.status x = .running →
      P (setup.session.perform .stop x).after) :
    setup.Kept (fun p => P p.world.session) where
  meet := setup.meet_preserves
  command := hcommand
  load := setup.loadInclude_preserves
  count _ hp := hp
  fail index c e p hp := by
    rw [fail_eq]
    exact setup.failed_preserves hstop hp

/-- A run never calls a stopped session. -/
theorem kept_stopped {x : σ} (hx : setup.session.status x = .stopped) :
    setup.Kept (fun p => p.world.session = x) := by
  refine setup.kept_session (P := (· = x)) (setup.runCommand_idle hx) ?_
  rintro - y rfl hrunning
  rw [hx] at hrunning
  cases hrunning

end Setup

end PageScript
