import Mathlib.Data.List.Forall2
import PageScript.Proofs.Run.Turns

/-!
# Replaying a run

What a run meets on its way is the numbers that it draws and the moments that looks at the clock find.
A run for spectators rests in front of every command, for a time that it draws, so it uses up numbers
that the same run without spectators does not.  The two are compared by what is still to come
(`Future`): for every future of the one there is a future of the other in which the commands get the
same answers.

Since the future that answers alike depends on what is drawn later, it is found from the end of a run
to its beginning.  `Replays` says of two actions that for every state and every future behind the first
one there is a future in front of the second, with which it gives the same result and comes to where
that future begins.  What is put together from such actions is such an action.

The runs take the same turns (`Takes.replayed`) and end alike (`run_watched`).
-/

namespace PageScript

/-! ## Futures -/

/-- What is still to come: the numbers that draws take, and the moments that looks at the clock find. -/
structure Future where
  chance : Nat → Nat
  clock : Nat → Moment

/-- The future in which a number is drawn first. -/
def Future.drawing (n : Nat) (f : Future) : Future :=
  { f with chance := fun
    | 0 => n
    | k + 1 => f.chance k }

/-- The future in which a moment is found first. -/
def Future.showing (m : Moment) (f : Future) : Future :=
  { f with clock := fun
    | 0 => m
    | k + 1 => f.clock k }

namespace Surroundings

/-- The surroundings in which this is to come. -/
def facing (s : Surroundings) (f : Future) : Surroundings :=
  { s with entropy := ⟨f.chance, 0⟩, clock := f.clock }

/-- The second surroundings can stand in for the first with this future: they are the same apart from
what was put out, and it may be earlier in them. -/
structure StandsIn (f : Future) (s t : Surroundings) : Prop where
  chance : ∀ n, t.entropy.source (t.entropy.used + n) = f.chance n
  clock : t.clock = f.clock
  now : t.now ≤ s.now
  environment : s.environment = t.environment
  input : s.input = t.input

theorem standsIn_facing (f : Future) (s : Surroundings) : StandsIn f s (s.facing f) where
  chance n := congrArg f.chance (Nat.zero_add n)
  clock := rfl
  now := Nat.le_refl _
  environment := rfl
  input := rfl

end Surroundings

/-- The world in which this is to come. -/
def World.facing {σ : Type} (w : World σ) (f : Future) : World σ :=
  ⟨w.session, w.outside.facing f⟩

/-! ## Replays -/

/-- For every state and every future behind the first action there is a future from which the second
gives the same result and comes to a state that stands in for what the first leaves. -/
def Replays {S T α : Type} (R : Future → S → T → Prop) (a : StateM S α) (b : StateM T α) : Prop :=
  ∀ s f, ∃ g, ∀ t, R g s t → (a s).1 = (b t).1 ∧ R f (a s).2 (b t).2

namespace Replays

variable {S T α β : Type} {R : Future → S → T → Prop}

theorem of_pure (x : α) : Replays R (pure x) (pure x) := fun _ f => ⟨f, fun _ h => ⟨rfl, h⟩⟩

theorem of_bind {a : StateM S α} {b : StateM T α} {k : α → StateM S β} {l : α → StateM T β}
    (hab : Replays R a b) (hkl : ∀ x, Replays R (k x) (l x)) : Replays R (a >>= k) (b >>= l) := by
  intro s f
  -- the future between the actions comes first
  obtain ⟨between, hlater⟩ := hkl (a s).1 (a s).2 f
  obtain ⟨g, hfirst⟩ := hab s between
  refine ⟨g, fun t ht => ?_⟩
  obtain ⟨hresult, hbetween⟩ := hfirst t ht
  show (k (a s).1 (a s).2).1 = (l (b t).1 (b t).2).1 ∧ R f (k (a s).1 (a s).2).2 (l (b t).1 (b t).2).2
  rw [← hresult]
  exact hlater _ hbetween

/-- A failure of the first action is one of both. -/
theorem of_attempts {a : ExceptT Error (StateM S) α} {b : ExceptT Error (StateM T) α}
    {k : α → ExceptT Error (StateM S) β} {l : α → ExceptT Error (StateM T) β}
    (hab : Replays R a.run b.run) (hkl : ∀ x, Replays R (k x).run (l x).run) :
    Replays R (a >>= k).run (b >>= l).run := by
  have chained : Replays R (a.run >>= ExceptT.bindCont k) (b.run >>= ExceptT.bindCont l) := by
    refine of_bind hab fun r => ?_
    cases r with
    | ok x => exact hkl x
    | error e => exact of_pure _
  exact chained

end Replays

open Surroundings in
/-- What is made of single steps is replayed with the numbers that it draws and the moments that it
finds. -/
theorem Taking.Made.replays {α : Type} {action : Taking α} (h : action.Made) :
    Replays StandsIn action action := by
  induction h with
  | pure x => exact .of_pure x
  | bind haction hf ih ihf => exact .of_bind ih ihf
  | draw bound =>
    intro s f
    refine ⟨f.drawing (s.entropy.source s.entropy.used), fun t h => ?_⟩
    refine ⟨congrArg (· % bound) (h.chance 0).symm, fun n => ?_, h.clock, h.now, h.environment, h.input⟩
    show t.entropy.source (t.entropy.used + 1 + n) = f.chance n
    rw [Nat.add_right_comm]
    exact h.chance (n + 1)
  | look =>
    intro s f
    refine ⟨f.showing (max s.now (s.clock 0)), fun t h => ?_⟩
    have found : max t.now (t.clock 0) = max s.now (s.clock 0) := by
      rw [h.clock]
      exact Nat.max_eq_right (Nat.le_trans h.now (Nat.le_max_left _ _))
    refine ⟨found.symm, h.chance, ?_, Nat.le_of_eq found, h.environment, h.input⟩
    show (fun n => t.clock (n + 1)) = f.clock
    rw [h.clock]
    rfl
  | fromEnvironment name =>
    exact fun s f => ⟨f, fun t h => ⟨congrArg (·.lookup name) h.environment, h⟩⟩
  | takeLine =>
    intro s f
    refine ⟨f, fun t h => ⟨?_, h.chance, h.clock, h.now, h.environment, ?_⟩⟩
    · exact congrArg (fun input => input.takeWhile (· ≠ 10) ++ (input.dropWhile (· ≠ 10)).take 1)
        h.input
    · exact congrArg (fun input => (input.dropWhile (· ≠ 10)).drop 1) h.input
  | putOut o => exact fun s f => ⟨f, fun t h => ⟨rfl, h.chance, h.clock, h.now, h.environment, h.input⟩⟩
  | passTime ns =>
    exact fun s f => ⟨f, fun t h =>
      ⟨rfl, h.chance, h.clock, Nat.add_le_add_right h.now ns, h.environment, h.input⟩⟩

namespace Surroundings

/-- A rest may be left out. -/
theorem rest_replays_pure : Replays StandsIn rest (pure ()) :=
  fun _ f => ⟨f, fun _ h =>
    ⟨rfl, h.chance, h.clock, Nat.le_trans h.now (Nat.le_add_right _ _), h.environment, h.input⟩⟩

/-- A rest that takes no time may be put in. -/
theorem pure_replays_rest : Replays StandsIn (pure ()) rest := by
  intro s f
  refine ⟨f.drawing 0, fun t h => ⟨rfl, fun n => ?_, h.clock, ?_, h.environment, h.input⟩⟩
  · show t.entropy.source (t.entropy.used + 1 + n) = f.chance n
    rw [Nat.add_right_comm]
    exact h.chance (n + 1)
  · have drawn : t.entropy.source t.entropy.used = 0 := h.chance 0
    show t.now + t.entropy.source t.entropy.used % 1000 * Nat.pow 10 6 ≤ s.now
    rw [drawn, Nat.zero_mod, Nat.zero_mul]
    exact h.now

end Surroundings

/-! ## Parts of a run -/

variable {σ : Type}

/-- The second run stands where the first does, in surroundings that can stand in for those of the
first with this future. -/
structure Progress.StandsIn (f : Future) (p q : Progress σ) : Prop where
  session : p.world.session = q.world.session
  outside : Surroundings.StandsIn f p.world.outside q.world.outside
  names : p.names = q.names
  made : p.names.All Callable.Made
  tally : p.tally = q.tally

namespace Progress.StandsIn

variable {f : Future} {p q : Progress σ}

theorem index (h : Progress.StandsIn f p q) : p.index = q.index := congrArg Tally.index h.tally

/-- A command is counted as done in both runs. -/
theorem counting (h : Progress.StandsIn f p q) :
    Progress.StandsIn f { p with executed := p.executed + 1 }
      { q with executed := q.executed + 1 } :=
  ⟨h.session, h.outside, h.names, h.made,
    congrArg (fun t : Tally => (⟨t.index, t.executed + 1, t.failures⟩ : Tally)) h.tally⟩

end Progress.StandsIn

namespace Running

variable {α : Type}

theorem outside_replays {a b : Taking α} (h : Replays Surroundings.StandsIn a b) :
    Replays Progress.StandsIn (outside a : Running σ α).run (outside b : Running σ α).run := by
  intro p f
  obtain ⟨g, hg⟩ := h p.world.outside f
  refine ⟨g, fun q hq => ?_⟩
  obtain ⟨hresult, hafter⟩ := hg q.world.outside hq.outside
  exact ⟨congrArg Except.ok hresult, hq.session, hafter, hq.names, hq.made, hq.tally⟩

/-- What is made of calls, single steps and functions of the same kind is replayed. -/
theorem Made.replays {s : Session σ} {a : Running σ α}
    (h : Running.Made s (fun _ => Attempt.Made) a) : Replays Progress.StandsIn a.run a.run := by
  induction h with
  | pure x => exact .of_pure _
  | throw e => exact .of_pure _
  | bind ha hf ih ihf => exact .of_attempts ih ihf
  | attempt ha ih =>
    intro p f
    obtain ⟨g, hg⟩ := ih p f
    refine ⟨g, fun q hq => ?_⟩
    obtain ⟨hresult, hafter⟩ := hg q hq
    exact ⟨congrArg Except.ok hresult, hafter⟩
  | call c =>
    intro p f
    obtain ⟨g, hg⟩ := (Doing.notes_made (s.perform c p.world.session).notes).replays p.world.outside f
    refine ⟨g, fun q hq => ?_⟩
    obtain ⟨-, hafter⟩ := hg q.world.outside hq.outside
    have same := hq.session
    refine ⟨congrArg (fun x => (s.perform c x).result) same,
      congrArg (fun x => (s.perform c x).after) same, ?_, hq.names, hq.made, hq.tally⟩
    show Surroundings.StandsIn f (Doing.notes (s.perform c p.world.session).notes p.world.outside).2
      (Doing.notes (s.perform c q.world.session).notes q.world.outside).2
    rw [← same]
    exact hafter
  | status =>
    exact fun p f => ⟨f, fun q hq => ⟨congrArg (fun x => Except.ok (s.status x)) hq.session, hq⟩⟩
  | outside haction => exact outside_replays haction.replays
  | foreign haction =>
    intro p f
    obtain ⟨g, hg⟩ := haction.replays p.world.outside f
    refine ⟨g, fun q hq => ?_⟩
    obtain ⟨hresult, hafter⟩ := hg q.world.outside hq.outside
    exact ⟨hresult, hq.session, hafter, hq.names, hq.made, hq.tally⟩
  | @names α k hsame hk ih =>
    intro p f
    by_cases hp : p.names.All Callable.Made
    · obtain ⟨g, hg⟩ := ih p hp p f
      refine ⟨g, fun q hq => ?_⟩
      show (k p p).1 = (k q q).1 ∧ Progress.StandsIn f (k p p).2 (k q q).2
      rw [← hsame p q hq.names]
      exact hg q hq
    · exact ⟨f, fun q hq => absurd hq.made hp⟩
  | @change change hchange =>
    exact fun p f => ⟨f, fun q hq =>
      ⟨rfl, hq.session, hq.outside, congrArg change hq.names, hchange _ hq.made, hq.tally⟩⟩

end Running

/-- The runs end alike: with one failure or one report, in one phase, and with the session in one
state. -/
structure Ending.Agrees (x y : Ending σ) : Prop where
  result : x.result = y.result
  phase : x.phase = y.phase
  session : x.world.session = y.world.session

theorem Ending.Agrees.symm {x y : Ending σ} (h : x.Agrees y) : y.Agrees x :=
  ⟨h.result.symm, h.phase.symm, h.session.symm⟩

/-! ## With and without spectators -/

/-- The session with spectators or without. -/
def Session.watched (s : Session σ) (watched : Bool) : Session σ :=
  { s with config := { s.config with demo := watched } }

/-- The setup with spectators or without, who see a run that is the same apart from its rests. -/
def Setup.watched (setup : Setup σ) (watched : Bool) : Setup σ :=
  { setup with session := setup.session.watched watched }

theorem Doing.callAll_watched (s : Session σ) (b : Bool) (cs : List Call) :
    callAll (s.watched b) cs = callAll s cs := by
  induction cs with
  | nil => rfl
  | cons c cs ih =>
    rw [callAll, callAll, ih]
    rfl

namespace Action

theorem spreadFrom_watched (s : Session σ) (b : Bool) (selector : String) (i : Nat)
    (cs : List Char) :
    spreadFrom (s.watched b) selector i cs = spreadFrom s selector i cs := by
  induction cs generalizing i with
  | nil => rfl
  | cons c cs ih =>
    rw [spreadFrom, spreadFrom, ih]
    rfl

theorem perform_watched (s : Session σ) (b : Bool) (a : Action) :
    a.perform (s.watched b) = a.perform s := by
  cases a with
  | calls cs => exact Doing.callAll_watched s b cs
  | setControl selector text =>
    rw [perform, perform, Doing.callAll_watched]
    rfl
  | spread selector code =>
    rw [perform, perform, Doing.callAll_watched, spreadFrom_watched]
    rfl
  | assert a =>
    rw [perform, perform, check, check, Doing.callAll_watched]
    rfl
  | visit url visible presence =>
    rw [perform, perform]
    rfl
  | _ => rfl

end Action

/-- No operation asks whether there are spectators. -/
theorem Operation.perform_watched (s : Session σ) (b : Bool) (op : Operation) (args : Arguments) :
    op.perform (s.watched b) args = op.perform s args := by
  have same : Action.ofOperation (s.watched b).config op args
      = Action.ofOperation s.config op args := by
    cases op <;> rfl
  rw [perform, perform, same]
  cases Action.ofOperation s.config op args with
  | error e => rfl
  | ok action =>
    dsimp only
    rw [Action.perform_watched]
    rfl

namespace Setup

variable (setup : Setup σ) (b : Bool)

theorem importValues_watched (vs : List Value) :
    (setup.watched b).importValues vs = setup.importValues vs := by
  induction vs with
  | nil => rfl
  | cons v vs ih =>
    rw [importValues, importValues, ih]
    rfl

/-- No command asks whether there are spectators. -/
theorem runCommand_watched (c : Command) :
    (setup.watched b).runCommand c = setup.runCommand c := by
  have imports : (setup.watched b).importCommand c = setup.importCommand c := by
    unfold importCommand
    simp only [importValues_watched]
    rfl
  unfold runCommand
  rw [imports]
  split
  · rfl
  · rfl
  · rfl
  · cases Operation.ofName? c.name with
    | none => rfl
    | some op =>
      dsimp only
      simp only [watched, Operation.perform_watched]
      rfl

/-! ## Meeting and failing -/

/-- What meeting a command is, behind its count. -/
def telling (c : Command) (index : Nat) : Running σ Nat := do
  (if setup.options.verbose then
    Running.note .info ("[" ++ Nat.repr index ++ "] " ++ c.text) else pure ())
  (if setup.session.config.demo then Running.outside Surroundings.rest else pure ())
  return index

theorem meet_eq_telling (c : Command) :
    setup.meet c = (do
      modify fun p => { p with index := p.index + 1 }
      setup.telling c (← get).index) := by
  unfold meet telling
  cases setup.options.verbose <;> cases setup.session.config.demo <;> rfl

/-- Rests are put in or left out. -/
theorem rest_replays (watched watched' : Bool) :
    Replays Progress.StandsIn
      (if watched then Running.outside Surroundings.rest else pure () : Running σ Unit).run
      (if watched' then Running.outside Surroundings.rest else pure () : Running σ Unit).run := by
  cases watched <;> cases watched'
  · exact .of_pure _
  · exact Running.outside_replays Surroundings.pure_replays_rest
  · exact Running.outside_replays Surroundings.rest_replays_pure
  · exact Running.outside_replays Taking.Made.rest.replays

theorem telling_replays (c : Command) (index : Nat) :
    Replays Progress.StandsIn (setup.telling c index).run
      ((setup.watched b).telling c index).run := by
  refine .of_attempts ?_ fun _ => .of_attempts (rest_replays _ _) fun _ => .of_pure _
  show Replays _ _ (if setup.options.verbose = true then _ else _ : Running σ Unit).run
  split
  · exact Running.outside_replays (Taking.Made.putOut _).replays
  · exact .of_pure _

/-- A command that is met with spectators is met without them, and the other way round. -/
theorem meet_replays (c : Command) :
    Replays Progress.StandsIn (setup.meet c).run ((setup.watched b).meet c).run := by
  rw [meet_eq_telling, meet_eq_telling]
  refine .of_attempts (fun p f => ⟨f, fun q h => ?_⟩) fun _ p f => ?_
  · refine ⟨rfl, h.session, h.outside, h.names, h.made, ?_⟩
    exact congrArg (fun t : Tally => (⟨t.index + 1, t.executed, t.failures⟩ : Tally)) h.tally
  · obtain ⟨g, hg⟩ := setup.telling_replays b c p.index p f
    refine ⟨g, fun q hq => ?_⟩
    have same := hq.index
    show (setup.telling c p.index p).1 = ((setup.watched b).telling c q.index q).1 ∧
      Progress.StandsIn f (setup.telling c p.index p).2 ((setup.watched b).telling c q.index q).2
    rw [← same]
    exact hg q hq

/-- A failed command leaves both runs in one place. -/
theorem failed_replays (index : Nat) (c : Command) (e : Error) (p : Progress σ) (f : Future) :
    ∃ g, ∀ q, Progress.StandsIn g p q →
      Progress.StandsIn f (setup.failed index c e p) ((setup.watched b).failed index c e q) := by
  have noted (g : Future) {q : Progress σ} (h : Progress.StandsIn g p q) :
      Progress.StandsIn g (noted index c e p) (noted index c e q) := by
    refine ⟨h.session, ⟨h.outside.chance, h.outside.clock, h.outside.now, h.outside.environment,
      h.outside.input⟩, h.names, h.made, ?_⟩
    exact congrArg (fun t : Tally => (⟨t.index, t.executed,
      t.failures ++ [⟨index, Script.reportText c, e.message⟩]⟩ : Tally)) h.tally
  unfold failed
  cases hstop : setup.options.stopOnFailure with
  | true =>
    have stopping : Replays Progress.StandsIn setup.stopSession.run setup.stopSession.run :=
      Setup.stopSession_made.replays
    obtain ⟨g, hg⟩ := stopping (Setup.noted index c e p) f
    refine ⟨g, fun q hq => ?_⟩
    rw [if_pos rfl, show (setup.watched b).options.stopOnFailure = true from hstop, if_pos rfl]
    exact (hg _ (noted g hq)).2
  | false =>
    refine ⟨f, fun q hq => ?_⟩
    rw [if_neg Bool.false_ne_true, show (setup.watched b).options.stopOnFailure = false from hstop,
      if_neg Bool.false_ne_true]
    exact noted f hq

/-! ## One turn -/

/-- The turns are of the same command in the same place, and it goes in the same way. -/
structure Replayed (t u : Turn σ) : Prop where
  depth : t.depth = u.depth
  levels : t.levels = u.levels
  directory : t.directory = u.directory
  command : t.command = u.command
  fate : setup.fate t = (setup.watched b).fate u

variable {setup} {b}

/-- What holds of two turns alike if they are replayed holds of all turns of both runs alike. -/
theorem forall_replayed_iff {P Q : Turn σ → Prop}
    (hPQ : ∀ t u, setup.Replayed b t u → (P t ↔ Q u)) {ts us : List (Turn σ)}
    (h : List.Forall₂ (setup.Replayed b) ts us) : (∀ t ∈ ts, P t) ↔ ∀ u ∈ us, Q u := by
  induction h with
  | nil => exact ⟨fun _ => List.forall_mem_nil _, fun _ => List.forall_mem_nil _⟩
  | cons hfirst hrest ih => rw [List.forall_mem_cons, List.forall_mem_cons, hPQ _ _ hfirst, ih]

section

variable (hregistry : setup.registry.Made) (hfake : setup.fake.Made)
variable {depth levels : Nat} {directory : String} {c : Command} {p : Progress σ} {t : Turn σ}

include hregistry hfake

/-- For every future behind a turn there is one in front of it from which the turn is taken alike. -/
theorem turn_replays (ht : t = ⟨depth, levels, directory, c, p⟩) (f : Future) :
    ∃ g, ∀ q, Progress.StandsIn g p q →
      ∃ u : Turn σ, u = ⟨depth, levels, directory, c, q⟩ ∧ setup.Replayed b t u ∧
        Progress.StandsIn f (setup.closing t) ((setup.watched b).closing u) := by
  subst ht
  by_cases hname : c.name = "include"
  · have loading : Replays Progress.StandsIn
        (setup.loadInclude (decide (0 < levels)) directory c).run
        (setup.loadInclude (decide (0 < levels)) directory c).run :=
      (Setup.loadInclude_made (fun category => (hfake category).lift) _ directory c).replays
    obtain ⟨between, hload⟩ := loading (setup.met c p) f
    obtain ⟨g, hmeet⟩ := setup.meet_replays b c p between
    refine ⟨g, fun q hq => ⟨_, rfl, ?_, ?_⟩⟩
    · refine ⟨rfl, rfl, rfl, rfl, ?_⟩
      rw [fate, fate, if_pos hname, if_pos hname]
      exact congrArg Fate.ofLoading (hload _ (hmeet q hq).2).1
    · rw [closing, closing, if_pos hname, if_pos hname]
      exact (hload _ (hmeet q hq).2).2
  · have running : Replays Progress.StandsIn (setup.runCommand c).run (setup.runCommand c).run :=
      (Setup.runCommand_made hregistry (fun category => (hfake category).lift) c).replays
    obtain ⟨between, hrun⟩ := running (setup.met c p) f
    obtain ⟨g, hmeet⟩ := setup.meet_replays b c p between
    refine ⟨g, fun q hq => ⟨_, rfl, ?_, ?_⟩⟩
    · refine ⟨rfl, rfl, rfl, rfl, ?_⟩
      rw [fate, fate, if_neg hname, if_neg hname, Setup.running, Setup.running, runCommand_watched]
      exact congrArg Fate.ofRunning (hrun _ (hmeet q hq).2).1
    · rw [closing, closing, if_neg hname, if_neg hname, Setup.running, Setup.running,
        runCommand_watched]
      exact (hrun _ (hmeet q hq).2).2

/-- For every future behind the turns of a run there is one in front of them from which the run with
spectators or without them takes its turns alike. -/
theorem Takes.replayed {cs : List Command} {q : Progress σ} {ts : List (Turn σ)}
    {r : Except Error Unit} (h : setup.Takes levels depth directory cs p ts r q) (f : Future) :
    ∃ g, ∀ p', Progress.StandsIn g p p' →
      ∃ us q', (setup.watched b).Takes levels depth directory cs p' us r q' ∧
        Progress.StandsIn f q q' ∧ List.Forall₂ (setup.Replayed b) ts us := by
  induction h generalizing f with
  | nil => exact ⟨f, fun p' hp => ⟨[], p', .nil, hp, .nil⟩⟩
  | @done levels depth directory c cs p s ts r t ht hfate hrest ih =>
    obtain ⟨between, hlater⟩ := ih f
    obtain ⟨g, hturn⟩ := turn_replays (b := b) hregistry hfake ht between
    refine ⟨g, fun p' hp => ?_⟩
    obtain ⟨u, hu, first, closing⟩ := hturn p' hp
    obtain ⟨us, q', takes, hq, behind⟩ := hlater _ (closing.counting)
    exact ⟨u :: us, q', .done hu (first.fate.symm.trans hfate) takes, hq, .cons first behind⟩
  | @failed levels depth directory c cs p s ts r t e ht hfate herrors hrest ih =>
    obtain ⟨behind, hlater⟩ := ih f
    obtain ⟨between, hfailed⟩ :=
      setup.failed_replays b (p.index + 1) c e (setup.closing t) behind
    obtain ⟨g, hturn⟩ := turn_replays (b := b) hregistry hfake ht between
    refine ⟨g, fun p' hp => ?_⟩
    obtain ⟨u, hu, first, closing⟩ := hturn p' hp
    obtain ⟨us, q', takes, hq, later⟩ := hlater _ (hfailed _ closing)
    rw [hp.index] at takes
    exact ⟨u :: us, q', .failed hu (first.fate.symm.trans hfate) herrors takes, hq,
      .cons first later⟩
  | @ended levels depth directory c cs p t e ht hfate herrors =>
    obtain ⟨between, hfailed⟩ := setup.failed_replays b (p.index + 1) c e (setup.closing t) f
    obtain ⟨g, hturn⟩ := turn_replays (b := b) hregistry hfake ht between
    refine ⟨g, fun p' hp => ?_⟩
    obtain ⟨u, hu, first, closing⟩ := hturn p' hp
    have takes : (setup.watched b).Takes levels depth directory (c :: cs) p' [u] (.error e) _ :=
      .ended hu (first.fate.symm.trans hfate) herrors
    rw [← hp.index] at takes
    exact ⟨[u], _, takes, hfailed _ closing, .cons first .nil⟩
  | @loaded levels depth directory c cs p q s us ts r t script ht hfate hinside hrest ihinside ih =>
    obtain ⟨behind, hlater⟩ := ih f
    obtain ⟨between, hwithin⟩ := ihinside behind
    obtain ⟨g, hturn⟩ := turn_replays (b := b) hregistry hfake ht between
    refine ⟨g, fun p' hp => ?_⟩
    obtain ⟨u, hu, first, closing⟩ := hturn p' hp
    obtain ⟨us', q', inside, hq, within⟩ := hwithin _ closing
    obtain ⟨ts', s', takes, hs, later⟩ := hlater _ hq
    exact ⟨u :: us' ++ ts', s', .loaded hu (first.fate.symm.trans hfate) inside takes, hs,
      List.rel_append (.cons first within) later⟩
  | @broken levels depth directory c cs p q us t script e ht hfate hinside ihinside =>
    obtain ⟨between, hwithin⟩ := ihinside f
    obtain ⟨g, hturn⟩ := turn_replays (b := b) hregistry hfake ht between
    refine ⟨g, fun p' hp => ?_⟩
    obtain ⟨u, hu, first, closing⟩ := hturn p' hp
    obtain ⟨us', q', inside, hq, within⟩ := hwithin _ closing
    exact ⟨u :: us', q', .broken hu (first.fate.symm.trans hfate) inside, hq, .cons first within⟩

end

/-! ## Whole runs -/

/-- A run with spectators or without them is replayed by the run without or with them in which the
right numbers are drawn and the right moments found. -/
theorem run_watched (setup : Setup σ) (hregistry : setup.registry.Made) (hfake : setup.fake.Made)
    (b : Bool) (script : Script) (world : World σ) :
    ∃ g, (setup.run script world).Agrees ((setup.watched b).run script (world.facing g)) ∧
      List.Forall₂ (setup.Replayed b) (setup.scriptTurns script world)
        ((setup.watched b).scriptTurns script (world.facing g)) := by
  obtain ⟨r, q, hrun, takes⟩ := setup.run_takes script world
  obtain ⟨g, hg⟩ := takes.replayed (b := b) hregistry hfake ⟨fun _ => 0, fun _ => 0⟩
  have begins : Progress.StandsIn g (setup.start world) ((setup.watched b).start (world.facing g)) :=
    ⟨rfl, Surroundings.standsIn_facing g world.outside, rfl,
      hregistry.withUsual (Namespace.all_empty _), rfl⟩
  obtain ⟨us, q', others, hq, matched⟩ := hg _ begins
  obtain ⟨hus, hothers⟩ := others.eq_turns
  have other : (setup.watched b).run script (world.facing g) = .of (r, q') := by
    rw [run_eq]
    exact congrArg Ending.of hothers
  refine ⟨g, ?_, ?_⟩
  · rw [hrun, other]
    cases r with
    | error e => exact ⟨rfl, rfl, hq.session⟩
    | ok _ =>
      have executed : q.executed = q'.executed := congrArg Tally.executed hq.tally
      have failures : q.failures = q'.failures := congrArg Tally.failures hq.tally
      refine ⟨congrArg Except.ok ?_, rfl, hq.session⟩
      show (⟨q.executed, q.failures, q.names⟩ : Report) = ⟨q'.executed, q'.failures, q'.names⟩
      rw [executed, failures, hq.names]
  · rw [hus] at matched
    exact matched

end Setup

end PageScript
