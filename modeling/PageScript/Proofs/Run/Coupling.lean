import PageScript.Proofs.Run.Parts

/-!
# Coupled runs

Two runs of one setup may start in different worlds: with other calls behind them, or with other
notes put out.  A `Coupling` is a relation between worlds that calls to the session and all single
steps of taking from the surroundings respect.  Then all that is made of calls and such steps
respects it as well, in runs with the same namespace (`Coupling.lockstep`).  Imported functions and
the source of synthetic data have to respect it by themselves; those that are made of single steps do
(`Taking.Made.respects`).

The runs may have met, done and failed different numbers of commands: their tallies.  What is made of
calls and steps looks at no tally, and leaves both as they are.
-/

namespace PageScript

/-! ## Surroundings -/

/-- The function gives the same in related surroundings. -/
def Callable.Respects (O : Surroundings → Surroundings → Prop) (f : Callable) : Prop :=
  ∀ args, Lockstep O (f args) (f args)

/-- What is taken from related surroundings is the same, and leaves related surroundings. -/
def Taking.Respects {α : Type} (O : Surroundings → Surroundings → Prop) (action : Taking α) : Prop :=
  ∀ a b, O a b → (action a).1 = (action b).1 ∧ O (action a).2 (action b).2

/-- An action on the surroundings, as one that may fail, is in lockstep with itself. -/
theorem Taking.Respects.lift {α : Type} {O : Surroundings → Surroundings → Prop}
    {action : Taking α} (h : Taking.Respects O action) :
    Lockstep O (ExceptT.lift action : Attempt α) (ExceptT.lift action) := by
  intro a b hab
  obtain ⟨hresult, hafter⟩ := h a b hab
  exact ⟨congrArg Except.ok hresult, hafter⟩

/-- Every imported function respects the relation. -/
abbrev Namespace.Respects (O : Surroundings → Surroundings → Prop) (ns : Namespace) : Prop :=
  ns.All (Callable.Respects O)

/-- Every function of the registry respects the relation. -/
abbrev Registry.Respects (O : Surroundings → Surroundings → Prop) (r : Registry) : Prop :=
  r.All (Callable.Respects O)

/-- The source of synthetic data respects the relation. -/
def FakeSource.Respects (O : Surroundings → Surroundings → Prop) (fake : FakeSource) : Prop :=
  ∀ category, Taking.Respects O (fake category)

/-- Every single step respects the relation. -/
structure Surroundings.Steady (O : Surroundings → Surroundings → Prop) : Prop where
  draw : ∀ bound, Taking.Respects O (draw bound)
  look : Taking.Respects O look
  fromEnvironment : ∀ name, Taking.Respects O (fromEnvironment name)
  takeLine : Taking.Respects O takeLine
  putOut : ∀ o, Taking.Respects O (putOut o)
  passTime : ∀ ns, Taking.Respects O (passTime ns)

section

variable {O : Surroundings → Surroundings → Prop} (hO : Surroundings.Steady O)

include hO

/-- What is made of single steps respects what they respect. -/
theorem Taking.Made.respects {α : Type} {action : Taking α} (h : action.Made) :
    Taking.Respects O action := by
  induction h with
  | pure x => exact fun a b hab => ⟨rfl, hab⟩
  | @bind α β action f haction hf ih ihf =>
    intro a b hab
    obtain ⟨hresult, hafter⟩ := ih a b hab
    show (f (action a).1 (action a).2).1 = (f (action b).1 (action b).2).1 ∧
      O (f (action a).1 (action a).2).2 (f (action b).1 (action b).2).2
    rw [hresult]
    exact ihf _ _ _ hafter
  | draw bound => exact hO.draw bound
  | look => exact hO.look
  | fromEnvironment name => exact hO.fromEnvironment name
  | takeLine => exact hO.takeLine
  | putOut o => exact hO.putOut o
  | passTime ns => exact hO.passTime ns

theorem Registry.Made.respects {r : Registry} (h : r.Made) : r.Respects O :=
  fun m hm name f hf args => Taking.Made.respects hO (h m hm name f hf args)

theorem FakeSource.Made.respects {fake : FakeSource} (h : fake.Made) : fake.Respects O :=
  fun category => Taking.Made.respects hO (h category)

end

theorem Taking.respects_eq {α : Type} (action : Taking α) : Taking.Respects Eq action := by
  intro a b h
  subst h
  exact ⟨rfl, rfl⟩

theorem Surroundings.steady_eq : Surroundings.Steady Eq :=
  ⟨fun _ => Taking.respects_eq _, Taking.respects_eq _, fun _ => Taking.respects_eq _,
    Taking.respects_eq _, fun _ => Taking.respects_eq _, fun _ => Taking.respects_eq _⟩

/-- A relation between worlds that calls and single steps respect. -/
structure Coupling {σ : Type} (s : Session σ) where
  session : σ → σ → Prop
  outside : Surroundings → Surroundings → Prop
  status : ∀ {x y}, session x y → s.status x = s.status y
  result : ∀ {x y} (c : Call), session x y → (s.perform c x).result = (s.perform c y).result
  notes : ∀ {x y} (c : Call), session x y → (s.perform c x).notes = (s.perform c y).notes
  after : ∀ {x y} (c : Call), session x y → session (s.perform c x).after (s.perform c y).after
  steady : Surroundings.Steady outside

/-- What a run has counted and collected. -/
structure Tally where
  index : Nat
  executed : Nat
  failures : List Failure

/-- The tally of a run. -/
def Progress.tally {σ : Type} (p : Progress σ) : Tally := ⟨p.index, p.executed, p.failures⟩

namespace Coupling

/-- The sessions are in one state, and the surroundings are related. -/
def ofOutside {σ : Type} (s : Session σ) (outside : Surroundings → Surroundings → Prop)
    (steady : Surroundings.Steady outside) : Coupling s where
  session := Eq
  outside := outside
  status h := congrArg s.status h
  result c h := congrArg (fun x => (s.perform c x).result) h
  notes c h := congrArg (fun x => (s.perform c x).notes) h
  after c h := congrArg (fun x => (s.perform c x).after) h
  steady := steady

variable {σ α : Type} {s : Session σ} (k : Coupling s)

/-- The session and the surroundings are related. -/
def world (w v : World σ) : Prop := k.session w.session v.session ∧ k.outside w.outside v.outside

/-- The worlds are related, the namespaces are the same, and the tallies are these. -/
structure running (t u : Tally) (p q : Progress σ) : Prop where
  world : k.world p.world q.world
  names : p.names = q.names
  respects : Namespace.Respects k.outside p.names
  left : p.tally = t
  right : q.tally = u

/-! ## In lockstep -/

variable {t u : Tally}

theorem doing_lockstep {action : Doing σ α} (h : Lockstep k.world action action) :
    Lockstep (k.running t u) (Running.doing action) (Running.doing action) := by
  intro p q hpq
  obtain ⟨hresult, hworld⟩ := h p.world q.world hpq.world
  exact ⟨hresult, hworld, hpq.names, hpq.respects, hpq.left, hpq.right⟩

theorem call_lockstep (c : Call) : Lockstep k.world (Doing.call s c) (Doing.call s c) := by
  intro w v hw
  refine ⟨k.result c hw.1, k.after c hw.1, ?_⟩
  have same := k.notes c hw.1
  show k.outside (Doing.notes (s.perform c w.session).notes w.outside).2
    (Doing.notes (s.perform c v.session).notes v.outside).2
  rw [same]
  exact ((Doing.notes_made _).respects k.steady _ _ hw.2).2

theorem status_lockstep : Lockstep k.world (Doing.status s) (Doing.status s) := by
  intro w v hw
  exact ⟨congrArg Except.ok (k.status hw.1), hw⟩

theorem outside_lockstep {action : Taking α} (h : Taking.Respects k.outside action) :
    Lockstep k.world (Doing.outside action) (Doing.outside action) := by
  intro w v hw
  obtain ⟨hresult, hafter⟩ := h w.outside v.outside hw.2
  exact ⟨congrArg Except.ok hresult, hw.1, hafter⟩

/-- The action respects what the surroundings are related by. -/
abbrev good (α : Type) (action : Attempt α) : Prop := Lockstep k.outside action action

/-- What is made of calls and steps goes alike in coupled runs, and leaves the tallies alone. -/
theorem lockstep {a : Running σ α} (h : Running.Made s k.good a) :
    Lockstep (k.running t u) a a := by
  induction h with
  | pure x => exact .of_pure x
  | throw e => exact .of_throw e
  | bind ha hf ih ihf => exact .of_bind ih ihf
  | attempt ha ih =>
    intro p q hpq
    obtain ⟨hresult, hafter⟩ := ih p q hpq
    exact ⟨congrArg Except.ok hresult, hafter⟩
  | call c => exact k.doing_lockstep (k.call_lockstep c)
  | status => exact k.doing_lockstep k.status_lockstep
  | outside haction => exact k.doing_lockstep (k.outside_lockstep (haction.respects k.steady))
  | foreign haction =>
    intro p q hpq
    obtain ⟨hresult, hafter⟩ := haction p.world.outside q.world.outside hpq.world.2
    exact ⟨hresult, ⟨hpq.world.1, hafter⟩, hpq.names, hpq.respects, hpq.left, hpq.right⟩
  | names hsame hf ih =>
    refine .of_get fun p q hpq => ?_
    rw [← hsame p q hpq.names]
    exact ih p hpq.respects
  | @change f hf =>
    refine .of_modify fun p q hpq => ?_
    exact ⟨hpq.world, congrArg f hpq.names, hf _ hpq.respects, hpq.left, hpq.right⟩

/-! ## Single commands -/

variable {setup : Setup σ} (k : Coupling setup.session)

/-- A single command goes alike in coupled runs, and leaves the tallies alone. -/
theorem runCommand_lockstep (hregistry : Registry.Respects k.outside setup.registry)
    (hfake : FakeSource.Respects k.outside setup.fake) (c : Command) :
    Lockstep (k.running t u) (setup.runCommand c) (setup.runCommand c) :=
  k.lockstep (Setup.runCommand_made (G := k.good) hregistry (fun category => (hfake category).lift) c)

/-- The script that an inclusion names is loaded alike. -/
theorem loadInclude_lockstep (hfake : FakeSource.Respects k.outside setup.fake) (deeper : Bool)
    (directory : String) (c : Command) :
    Lockstep (k.running t u) (setup.loadInclude deeper directory c)
      (setup.loadInclude deeper directory c) :=
  k.lockstep (Setup.loadInclude_made (fun category => (hfake category).lift) deeper directory c)

/-- The session is stopped alike. -/
theorem stopSession_lockstep :
    Lockstep (k.running t u) setup.stopSession setup.stopSession :=
  k.lockstep Setup.stopSession_made

end Coupling

end PageScript
