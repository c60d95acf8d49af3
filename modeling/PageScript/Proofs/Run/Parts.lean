import PageScript.Run.Commands
import PageScript.Proofs.Expression.Growth
import PageScript.Proofs.Expression.Walking
import PageScript.Proofs.Library.Made
import PageScript.Proofs.Run.Lockstep

/-!
# What a run is made of

A single command of a run makes calls, takes from the surroundings, calls imported functions, asks the
source of synthetic data, and looks at and changes the namespace.  `Running.Made` says that nothing
else is done, and that functions and synthetic data are actions that have a property `G`.  Whatever
all of this has, and is kept when parts of a run are put one after the other, all single commands
have (`Setup.runCommand_made`), and so have the loading of inclusions and the stopping of the session.

The lemmas go through the definitions in their order: actions, operations, expressions, commands.
-/

namespace PageScript

/-! ## Imported functions -/

/-- Every imported function has the property. -/
def Namespace.All (good : Callable → Prop) (ns : Namespace) : Prop :=
  ∀ name f, (name, f) ∈ ns.imported → good f

section

variable {good : Callable → Prop} {r : Registry} {ns : Namespace}

theorem Registry.All.offered (h : r.All good) {f : Callable} (hf : r.Offers f) : good f := by
  obtain ⟨m, hm, name, hmem⟩ := hf
  exact h m hm name f hmem

theorem Namespace.All.grown (h : ns.All good) {added : List (String × Callable)}
    (hadded : ∀ g ∈ added, good g.2) (entries : List (String × Value)) :
    (ns.grown added entries).All good := by
  intro name f hmem
  rcases List.mem_append.mp hmem with hmem | hmem
  · exact h name f hmem
  · exact hadded _ hmem

/-- An import brings in functions of the registry only. -/
theorem Registry.All.importSpec (h : r.All good) {spec : String} (hns : ns.All good)
    {names : List String} {after : Namespace}
    (himp : Importing.importSpec r spec ns = .ok (names, after)) : after.All good := by
  obtain ⟨added, rfl, hoffers⟩ := Importing.importSpec_offers himp
  exact hns.grown (fun g hg => h.offered (hoffers g hg)) []

/-- The usual imports are functions of the registry. -/
theorem Registry.All.withUsual (h : r.All good) (hns : ns.All good) :
    (Importing.withUsual r ns).All good := by
  obtain ⟨added, heq, hoffers⟩ := Importing.withUsual_offers r ns
  rw [heq]
  exact hns.grown (fun g hg => h.offered (hoffers g hg)) []

theorem Namespace.all_empty (good : Callable → Prop) : Namespace.empty.All good := by
  intro name f hmem
  cases hmem

end

/-! ## Parts -/

variable {σ : Type} {s : Session σ} {G : (α : Type) → Attempt α → Prop}

/-- Whatever it is given, the function has the property. -/
abbrev Callable.Always (G : (α : Type) → Attempt α → Prop) (f : Callable) : Prop :=
  ∀ args, G Value (f args)

/-- Whatever it is asked for, the source of synthetic data has the property. -/
abbrev FakeSource.Always (G : (α : Type) → Attempt α → Prop) (fake : FakeSource) : Prop :=
  ∀ category, G (Option Value) (ExceptT.lift (fake category))

/-- The part of a run is made of calls, of actions on the surroundings, and of looks at the namespace
and changes of it. -/
inductive Running.Made (s : Session σ) (G : (α : Type) → Attempt α → Prop) :
    {α : Type} → Running σ α → Prop where
  | pure {α : Type} (x : α) : Running.Made s G (Pure.pure x)
  | throw {α : Type} (e : Error) : Running.Made (α := α) s G (MonadExcept.throw e)
  | bind {α β : Type} {a : Running σ α} {f : α → Running σ β} (ha : Running.Made s G a)
      (hf : ∀ x, Running.Made s G (f x)) : Running.Made s G (a >>= f)
  | attempt {α : Type} {a : Running σ α} (ha : Running.Made s G a) :
      Running.Made s G (Running.attempt a)
  | call (c : Call) : Running.Made s G (Running.doing (Doing.call s c))
  | status : Running.Made s G (Running.status s)
  | outside {α : Type} {action : Taking α} (h : action.Made) :
      Running.Made s G (Running.outside action)
  /-- An imported function or a source of synthetic data. -/
  | foreign {α : Type} {action : Attempt α} (h : G α action) :
      Running.Made s G (Running.resolving (Resolver.outside action))
  /-- What follows a look at the state depends on the namespace only. -/
  | names {α : Type} {f : Progress σ → Running σ α}
      (hsame : ∀ p q : Progress σ, p.names = q.names → f p = f q)
      (h : ∀ p : Progress σ, p.names.All (Callable.Always G) → Running.Made s G (f p)) :
      Running.Made s G (get >>= f)
  | change {f : Namespace → Namespace}
      (h : ∀ ns : Namespace, ns.All (Callable.Always G) → (f ns).All (Callable.Always G)) :
      Running.Made s G (modify fun p => { p with names := f p.names })

/-! ## Actions and operations -/

section

variable {α β : Type}

/-- An action on the session and the surroundings, as a part of a run, is made of those. -/
abbrev Doing.Made (s : Session σ) (G : (α : Type) → Attempt α → Prop) (action : Doing σ α) : Prop :=
  Running.Made s G (Running.doing action)

theorem Running.doing_bind (a : Doing σ α) (f : α → Doing σ β) :
    doing (a >>= f) = doing a >>= fun x => doing (f x) := by
  funext p
  obtain ⟨r, w, ha⟩ : ∃ r w, a p.world = (r, w) := ⟨_, _, rfl⟩
  have first : doing a p = (r, { p with world := w }) := by rw [doing, ha]
  cases r with
  | ok x => rw [Lockstep.bind_ok first, doing, Lockstep.bind_ok ha, doing]
  | error e => rw [Lockstep.bind_error first, doing, Lockstep.bind_error ha]

namespace Doing.Made

theorem of_pure (x : α) : Doing.Made s G (pure x) := .pure x

theorem of_throw (e : Error) : Doing.Made (α := α) s G (throw e) := .throw e

theorem of_bind {a : Doing σ α} {f : α → Doing σ β} (ha : a.Made s G)
    (hf : ∀ x, (f x).Made s G) : Doing.Made s G (a >>= f) := by
  rw [Doing.Made, Running.doing_bind]
  exact .bind ha hf

/-- A check in front may stop the action. -/
theorem of_guard {p : Prop} [Decidable p] {e : Error} {a : Doing σ α} (h : a.Made s G) :
    Doing.Made s G (if p then throw e >>= fun _ : PUnit => a else a) := by
  split
  · exact of_bind (of_throw e) fun _ => h
  · exact h

theorem call (c : Call) : (Doing.call s c).Made s G := Running.Made.call c

theorem outside {action : Taking α} (h : action.Made) : Doing.Made s G (Doing.outside action) :=
  Running.Made.outside h

end Doing.Made

theorem Doing.notes_made : ∀ ns : List (Level × String), Taking.Made (notes ns)
  | [] => .pure ()
  | (level, text) :: rest => (Taking.Made.putOut (.note level text)).bind fun _ => notes_made rest

theorem Doing.callAll_made : ∀ cs : List Call, (callAll s cs).Made s G
  | [] => .of_pure ()
  | c :: cs => .of_bind (.call c) fun _ => callAll_made cs

end

namespace Action

theorem spreadFrom_made (selector : String) : ∀ (i : Nat) (cs : List Char),
    (spreadFrom s selector i cs).Made s G
  | _, [] => .of_pure ()
  | i, _ :: cs => .of_bind (.call _) fun _ => spreadFrom_made selector (i + 1) cs

theorem waitIf_made (condition : String → Condition) (way : Except Error (Option String)) :
    (waitIf s condition way).Made s G := by
  cases way with
  | error e => exact .of_throw e
  | ok selector =>
    cases selector with
    | none => exact .of_pure ()
    | some selector => exact .call _

theorem check_made (a : Assertion) : (check s a).Made s G := by
  refine .of_bind (Doing.callAll_made _) fun _ => .of_bind (.call _) fun reply => ?_
  cases a.complaint? reply with
  | none => exact .of_pure ()
  | some text => exact .of_throw _

theorem perform_made (a : Action) : (a.perform s).Made s G := by
  cases a with
  | calls cs => exact Doing.callAll_made cs
  | visit url visible presence =>
    exact .of_bind (.call _) fun _ =>
      .of_bind (waitIf_made _ visible) fun _ => waitIf_made _ presence
  | setControl selector text =>
    refine .of_bind (Doing.callAll_made _) fun _ => .of_bind (.call _) fun answer => ?_
    cases judgeControl selector text answer with
    | ok _ => exact .of_pure ()
    | error e => exact .of_throw e
  | spread selector code =>
    refine .of_bind (Doing.callAll_made _) fun _ => .of_bind (.call _) fun fields => ?_
    exact .of_guard (spreadFrom_made selector 0 code.toList)
  | pause d => exact .outside (.passTime d)
  | picture template => exact .of_bind (.outside .look) fun now => .call _
  | showLog =>
    exact .of_bind (.call _) fun lines => .outside (Doing.notes_made _)
  | say text => exact .outside (.putOut _)
  | closeAlert =>
    refine .of_bind (.call _) fun text => ?_
    split
    · exact .call _
    · exact .of_pure ()
  | assert a => exact check_made a

end Action

theorem Operation.perform_made (op : Operation) (args : Arguments) :
    (op.perform s args).Made s G := by
  refine .of_bind Running.Made.status fun status => .of_guard ?_
  cases Action.ofOperation s.config op args with
  | error e => exact .of_throw e
  | ok action => exact action.perform_made

/-! ## Expressions -/

section

variable {α β : Type}

/-- A step of resolving, as a part of a run, is made of those. -/
abbrev Resolving.Made (s : Session σ) (G : (α : Type) → Attempt α → Prop) (action : Resolving α) :
    Prop :=
  Running.Made s G (Running.resolving action)

theorem Running.resolving_bind (a : Resolving α) (f : α → Resolving β) :
    (resolving (a >>= f) : Running σ β) = resolving a >>= fun x => resolving (f x) := by
  funext p
  obtain ⟨r, scope, ha⟩ : ∃ r scope, a ⟨p.names, p.world.outside⟩ = (r, scope) := ⟨_, _, rfl⟩
  have first : resolving a p
      = (r, { p with names := scope.names, world := { p.world with outside := scope.outside } }) := by
    rw [resolving, ha]
  cases r with
  | ok x => rw [Lockstep.bind_ok first, resolving, Lockstep.bind_ok ha, resolving]
  | error e => rw [Lockstep.bind_error first, resolving, Lockstep.bind_error ha]

namespace Resolving.Made

theorem of_pure (x : α) : Resolving.Made s G (pure x) := .pure x

theorem of_throw (e : Error) : Resolving.Made (α := α) s G (throw e) := .throw e

theorem of_bind {a : Resolving α} {f : α → Resolving β} (ha : a.Made s G)
    (hf : ∀ x, (f x).Made s G) : Resolving.Made s G (a >>= f) := by
  rw [Resolving.Made, Running.resolving_bind]
  exact .bind ha hf

theorem of_names {f : Scope → Resolving α} (hsame : ∀ a b : Scope, a.names = b.names → f a = f b)
    (h : ∀ a : Scope, a.names.All (Callable.Always G) → (f a).Made s G) :
    Resolving.Made s G (get >>= f) :=
  Running.Made.names (f := fun p => Running.resolving (f ⟨p.names, p.world.outside⟩))
    (fun _ _ heq => congrArg Running.resolving (hsame _ _ heq)) fun _ hp => h _ hp

end Resolving.Made

end

theorem Namespace.call_made {ns : Namespace} (h : ns.All (Callable.Always G)) (name : String)
    (args : List Value) : (Resolver.outside (ns.call name args)).Made s G := by
  unfold Namespace.call
  cases hf : ns.function? name with
  | none => exact .of_throw _
  | some f =>
    obtain ⟨front, back, heq, -⟩ := List.lookup_eq_some_iff.mp hf
    exact Running.Made.foreign (h name f (by rw [heq]; simp) args)

namespace Resolver

variable {r : Resolver} (hfake : r.fake.Always G)

include hfake

theorem evaluate_made (tag rest : String) : (r.evaluate tag rest).Made s G := by
  refine .of_names (fun a b heq => ?_) fun scope hnames => ?_
  · rw [heq]
  by_cases heval : tag = "eval"
  · rw [if_pos heval]
    cases Literal.parse rest with
    | ok v => exact .of_pure v
    | error e => exact .of_throw e
  · rw [if_neg heval]
    by_cases himp : scope.names.isImported tag = true
    · rw [if_pos himp]
      cases callArguments rest with
      | ok args => exact Namespace.call_made hnames tag args
      | error e => exact .of_throw e
    · rw [if_neg himp]
      cases category? tag with
      | some category =>
        refine .of_bind (Running.Made.foreign (hfake category)) fun v => ?_
        cases v with
        | some v => exact .of_pure v
        | none => exact .of_throw _
      | none =>
        cases r.unresolved with
        | empty => exact .of_pure _
        | error => exact .of_throw _

theorem resolve_made (body : String) : (r.resolve body).Made s G := by
  unfold resolve
  obtain ⟨tag, rest⟩ := parts body
  dsimp only
  by_cases hvars : tag = "vars"
  · rw [if_pos hvars]
    cases lookupTarget rest with
    | error e => exact .of_throw e
    | ok target =>
      refine .of_names (fun a b heq => ?_) fun scope _ => ?_
      · rw [heq]
      · cases scope.names.lookup target.1 target.2 with
        | ok v => exact .of_pure v
        | error e => exact .of_throw e
  · rw [if_neg hvars]
    refine .of_bind (evaluate_made hfake tag rest) fun v => .of_bind ?_ fun _ => .of_pure v
    exact Running.Made.change (f := (·.record tag v)) fun ns h => h

end Resolver

theorem Command.arguments_made {r : Resolver} (hfake : r.fake.Always G) (c : Command) :
    (c.arguments r).Made s G :=
  have related : r.Related r fun _ action _ => action.Made s G :=
    ⟨fun _ => .of_pure _, fun h hf => .of_bind h hf, fun body => r.resolve_made hfake body⟩
  related.arguments c

/-! ## Commands -/

namespace Running.Made

variable {α : Type}

theorem of_guard {p : Prop} [Decidable p] {e : Error} {a : Running σ α} (h : Running.Made s G a) :
    Running.Made s G (if p then MonadExcept.throw e >>= fun _ : PUnit => a else a) := by
  split
  · exact .bind (.throw e) fun _ => h
  · exact h

theorem ofExcept (r : Except Error α) : Running.Made s G (Running.ofExcept r) := by
  cases r with
  | ok x => exact .pure x
  | error e => exact .throw e

theorem note (level : Level) (text : String) : Running.Made s G (Running.note level text) :=
  .outside (.putOut _)

end Running.Made

namespace Setup

variable {setup : Setup σ}

section

variable (hfake : setup.fake.Always G)

include hfake

theorem arguments_made (c : Command) : Running.Made setup.session G (setup.arguments c) :=
  Command.arguments_made (r := setup.resolver) hfake c

theorem readCommand_made (c : Command) {read : String → Doing σ String}
    (hread : ∀ selector, (read selector).Made setup.session G) :
    Running.Made setup.session G (setup.readCommand c read) := by
  refine .bind (arguments_made hfake c) fun args => .bind (.ofExcept _) fun selector => ?_
  refine .bind .status fun status => .of_guard (.bind (hread selector) fun text => ?_)
  exact .change (f := (·.record c.name (.text text))) fun ns h => h

theorem loadInclude_made (deeper : Bool) (directory : String) (c : Command) :
    Running.Made setup.session G (setup.loadInclude deeper directory c) := by
  refine .bind (arguments_made hfake c) fun args => .bind (.ofExcept _) fun path => ?_
  refine .bind (.note _ _) fun _ => .of_guard ?_
  obtain ⟨loaded, warnings⟩ := Script.load setup.files (Path.join directory path)
  refine .bind (.outside (Doing.notes_made _)) fun _ => ?_
  cases loaded with
  | ok script => exact .pure script
  | error e => exact .throw _

end

theorem unknownCommand_made (name : String) :
    Running.Made setup.session G (setup.unknownCommand name) := by
  unfold unknownCommand
  cases setup.options.unknown with
  | ignore => exact .pure ()
  | warn => exact .note _ _
  | error => exact .throw _

section

variable (hregistry : setup.registry.All (Callable.Always G))

include hregistry

theorem importValue_made (v : Value) : Running.Made setup.session G (setup.importValue v) := by
  unfold importValue
  cases v.scalarText with
  | none => exact .throw _
  | some spec =>
    refine .names (fun p q heq => by rw [heq]) fun p hp => ?_
    cases himp : Importing.importSpec setup.registry spec p.names with
    | error e => exact .throw e
    | ok found =>
      obtain ⟨names, after⟩ := found
      exact .change (f := fun _ => after) fun _ _ => hregistry.importSpec hp himp

theorem importValues_made : ∀ vs : List Value, Running.Made setup.session G (setup.importValues vs)
  | [] => .pure ()
  | v :: vs => .bind (importValue_made hregistry v) fun _ => importValues_made vs

end

section

variable (hregistry : setup.registry.All (Callable.Always G)) (hfake : setup.fake.Always G)

include hregistry hfake

theorem importCommand_made (c : Command) :
    Running.Made setup.session G (setup.importCommand c) :=
  .bind (arguments_made hfake c) fun _ => .of_guard (importValues_made hregistry _)

/-- A single command is made of calls, of actions on the surroundings, of imported functions and of
synthetic data. -/
theorem runCommand_made (c : Command) : Running.Made setup.session G (setup.runCommand c) := by
  unfold runCommand
  split
  · exact importCommand_made hregistry hfake c
  · exact readCommand_made hfake c fun selector => .call (.getValue selector)
  · exact readCommand_made hfake c fun selector => .call (.getText selector)
  · cases Operation.ofName? c.name with
    | none => exact unknownCommand_made c.name
    | some op => exact .bind (arguments_made hfake c) fun args => op.perform_made args

end

/-- So is the stopping of the session. -/
theorem stopSession_made : Running.Made setup.session G setup.stopSession := by
  refine .bind .status fun status => ?_
  split
  · refine .bind (.attempt (.call .stop)) fun r => ?_
    cases r with
    | ok _ => exact .pure ()
    | error e => exact .note _ _
  · exact .pure ()

end Setup

end PageScript
