import PageScript.Proofs.Library.Errors
import PageScript.Proofs.Run.History

/-!
# Known commands

A command that is known may fail in many ways, but never because a command is unknown
(`fate_known`), if neither a call to the session nor an imported function fails in this way.  The
functions that are imported come from the registry, so this is asked of the registry only, and the
standard modules meet it (`Library.standard_familiar`).  A command that is not known always fails in
this way if the options say so (`fate_unknown`).
-/

namespace PageScript

variable {σ α β : Type}

/-! ## Expressions -/

/-- No imported function fails because a command is unknown. -/
def Namespace.Familiar (ns : Namespace) : Prop := ∀ g ∈ ns.imported, Callable.Familiar g.2

/-- The imported functions do not fail because a command is unknown. -/
abbrev Scope.Familiar (scope : Scope) : Prop := scope.names.Familiar

theorem Literal.parse_familiar (source : String) : Familiar (parse source) := by
  unfold parse
  split
  · exact .of_ok _
  · next f _ => cases f <;> exact .of_error rfl

theorem Namespace.lookup_familiar (ns : Namespace) (tag : String) (index : Nat) :
    PageScript.Familiar (ns.lookup tag index) := by
  unfold lookup
  dsimp only
  split
  · exact .of_ok _
  · split
    · exact .of_error rfl
    · exact .of_error rfl

theorem Namespace.Familiar.call {ns : Namespace} (h : ns.Familiar) (name : String)
    (args : List Value) : StaysFamiliar (fun _ => True) (ns.call name args) := by
  unfold Namespace.call
  cases hf : ns.function? name with
  | none => exact .of_throw rfl
  | some f =>
    obtain ⟨front, back, heq, -⟩ := List.lookup_eq_some_iff.mp hf
    exact h (name, f) (by rw [heq]; simp) args

namespace Resolver

variable {r : Resolver}

theorem callArguments_familiar (rest : String) : Familiar (callArguments rest) := by
  unfold callArguments
  split
  · exact .of_ok _
  · split
    · next e hparse => exact .of_error (Literal.parse_familiar _ e hparse)
    · exact .of_ok _
    · exact .of_error rfl
  · exact .of_ok _

theorem named_familiar (name : List Char) (index : Nat) : Familiar (match Text.trim name with
    | [] => .error (.expression "vars requires a tag name")
    | cs => .ok (String.ofList cs, index) : Except Error (String × Nat)) := by
  split
  · exact .of_error rfl
  · exact .of_ok _

theorem lookupTarget_familiar (rest : String) : Familiar (lookupTarget rest) := by
  unfold lookupTarget
  dsimp only
  split
  · exact named_familiar _ _
  · split
    · exact named_familiar _ _
    · exact .of_error rfl

theorem outside_familiar {action : Attempt α} (h : StaysFamiliar (fun _ => True) action) :
    StaysFamiliar Scope.Familiar (outside action) :=
  fun scope hscope => ⟨(h scope.outside trivial).1, hscope⟩

theorem evaluate_familiar (tag rest : String) :
    StaysFamiliar Scope.Familiar (r.evaluate tag rest) := by
  refine .of_get fun scope hscope => ?_
  dsimp only
  by_cases heval : tag = "eval"
  · rw [if_pos heval]
    cases hparse : Literal.parse rest with
    | ok v => exact .of_pure v
    | error e => exact .of_throw (Literal.parse_familiar rest e hparse)
  · rw [if_neg heval]
    by_cases himported : scope.names.isImported tag = true
    · rw [if_pos himported]
      cases hargs : callArguments rest with
      | ok args => exact outside_familiar (hscope.call tag args)
      | error e => exact .of_throw (callArguments_familiar rest e hargs)
    · rw [if_neg himported]
      cases category? tag with
      | some category =>
        refine .of_bind (outside_familiar fun s hs => ⟨.of_ok _, hs⟩) fun found => ?_
        cases found with
        | some v => exact .of_pure v
        | none => exact .of_throw rfl
      | none =>
        cases r.unresolved with
        | empty => exact .of_pure _
        | error => exact .of_throw rfl

theorem resolve_familiar (body : String) : StaysFamiliar Scope.Familiar (r.resolve body) := by
  by_cases hvars : (parts body).1 = "vars"
  · unfold resolve
    dsimp only
    rw [if_pos hvars]
    cases htarget : lookupTarget (parts body).2 with
    | error e => exact .of_throw (lookupTarget_familiar _ e htarget)
    | ok target =>
      refine .of_get fun scope _ => ?_
      cases hfound : scope.names.lookup target.1 target.2 with
      | ok v => exact .of_pure v
      | error e => exact .of_throw (scope.names.lookup_familiar _ _ e hfound)
  · rw [resolve_other hvars]
    exact .of_bind (evaluate_familiar _ _) fun v =>
      .of_bind (.of_modify fun _ hscope => hscope) fun _ => .of_pure v

theorem evaluateAll_familiar : ∀ bodies : List String,
    StaysFamiliar Scope.Familiar (r.evaluateAll bodies)
  | [] => .of_pure ()
  | body :: rest => .of_bind (resolve_familiar body) fun _ => evaluateAll_familiar rest

end Resolver

theorem Familiar.of_result_map {S : Type} {a : ExceptT Error (StateM S) α} {f : α → β} {s : S}
    (h : Familiar ((a >>= fun x => pure (f x)) s).1) : Familiar (a s).1 := by
  obtain ⟨result, t, ha⟩ : ∃ result t, a s = (result, t) := ⟨_, _, rfl⟩
  rw [ha]
  cases result with
  | ok x => exact .of_ok x
  | error e =>
    rw [Lockstep.bind_error ha] at h
    exact .of_error (h e rfl)

/-- Arguments are resolved by evaluating their tokens, so they fail as tokens do. -/
theorem Command.arguments_familiar (c : Command) {r : Resolver} {scope : Scope}
    (h : scope.Familiar) : Familiar (c.arguments r scope).1 := by
  unfold Command.arguments
  cases c.argument with
  | none => exact .of_ok _
  | some v =>
    have tokens := (r.evaluateAll_familiar v.bodies scope h).1
    rw [← Resolver.resolveValue_bodies] at tokens
    have value := Familiar.of_result_map tokens
    obtain ⟨result, after, hvalue⟩ : ∃ result after, r.resolveValue v scope = (result, after) :=
      ⟨_, _, rfl⟩
    rw [hvalue] at value
    dsimp only
    cases result with
    | ok w =>
      rw [Lockstep.bind_ok hvalue]
      exact .of_ok _
    | error e =>
      rw [Lockstep.bind_error hvalue]
      exact .of_error (value e rfl)

/-! ## Imports -/

namespace Importing

theorem find_familiar (r : Registry) (spec : String) : Familiar (find r spec) := by
  unfold find
  dsimp only
  split
  · exact .of_ok _
  · split
    · exact .of_error rfl
    · split
      · exact .of_error rfl
      · split
        · exact .of_ok _
        · exact .of_error rfl

theorem importSpec_familiar (r : Registry) (spec : String) (ns : Namespace) :
    Familiar (importSpec r spec ns) := by
  unfold importSpec
  dsimp only
  split
  · exact .of_error rfl
  · split
    · next e hfind => exact .of_error (find_familiar r _ e hfind)
    · exact .of_ok _

end Importing

/-! ## Single commands -/

namespace Setup

variable {setup : Setup σ} {c : Command} {p : Progress σ}

/-- The part of a run does not fail because a command is unknown. -/
abbrev NeverUnknown (a : Running σ α) : Prop := StaysFamiliar (fun _ => True) a

theorem ofExcept_familiar {r : Except Error α} (h : Familiar r) :
    NeverUnknown (Running.ofExcept r : Running σ α) := by
  cases r with
  | ok x => exact .of_pure x
  | error e => exact .of_throw (h e rfl)

theorem doing_familiar {a : Doing σ α} (h : Doing.Familiar a) : NeverUnknown (Running.doing a) :=
  fun p _ => ⟨(h p.world trivial).1, trivial⟩

theorem behind_arguments_familiar {f : Arguments → Running σ α} (hf : ∀ args, NeverUnknown (f args))
    (c : Command) (hp : p.names.Familiar) : Familiar ((setup.arguments c >>= f) p).1 := by
  have arguments : Familiar (c.arguments setup.resolver p.scope).1 := c.arguments_familiar hp
  obtain ⟨r, q, hargs⟩ : ∃ r q, setup.arguments c p = (r, q) := ⟨_, _, rfl⟩
  rw [show (c.arguments setup.resolver p.scope).1 = r from congrArg Prod.fst hargs] at arguments
  cases r with
  | error e =>
    rw [Lockstep.bind_error hargs]
    exact .of_error (arguments e rfl)
  | ok args =>
    rw [Lockstep.bind_ok hargs]
    exact (hf args q trivial).1

theorem importValue_familiar (v : Value) : NeverUnknown (setup.importValue v) := by
  unfold importValue
  cases v.scalarText with
  | none => exact .of_throw rfl
  | some spec =>
    exact .of_get fun p _ => .of_bind (ofExcept_familiar (Importing.importSpec_familiar _ _ _))
      fun _ => .of_modify fun _ h => h

theorem importValues_familiar : ∀ vs : List Value, NeverUnknown (setup.importValues vs)
  | [] => .of_pure ()
  | v :: vs => .of_bind (importValue_familiar v) fun _ => importValues_familiar vs

theorem importCommand_familiar (c : Command) (hp : p.names.Familiar) :
    Familiar (setup.importCommand c p).1 :=
  behind_arguments_familiar (fun args => .of_guard rfl (importValues_familiar args.values)) c hp

theorem readCommand_familiar {read : String → Doing σ String}
    (hread : ∀ selector, Doing.Familiar (read selector)) (c : Command) (hp : p.names.Familiar) :
    Familiar (setup.readCommand c read p).1 := by
  refine behind_arguments_familiar (fun args => ?_) c hp
  refine .of_bind (ofExcept_familiar (args.text_familiar 0 _)) fun selector => ?_
  refine .of_bind (doing_familiar fun w h => ⟨.of_ok _, h⟩) fun status => .of_guard rfl ?_
  exact .of_bind (doing_familiar (hread selector)) fun text => .of_modify fun _ h => h

section

variable (hs : setup.session.Familiar)

include hs

theorem reader?_familiar {name : String} {read : String → Doing σ String}
    (h : setup.reader? name = some read) (selector : String) : Doing.Familiar (read selector) := by
  unfold reader? at h
  split at h
  · cases h
    exact Doing.call_within (hs.within _)
  · cases h
    exact Doing.call_within (hs.within _)
  · cases h

/-- A command that is known fails for other reasons than that a command is unknown. -/
theorem runCommand_familiar (hname : c.name ≠ "include") (hknown : c.isKnown = true)
    (hp : p.names.Familiar) : Familiar (setup.runCommand c p).1 := by
  cases hread : setup.reader? c.name with
  | some read =>
    rw [runCommand_reader hread]
    exact readCommand_familiar (reader?_familiar hs hread) c hp
  | none =>
    by_cases himport : c.name = "import"
    · rw [runCommand_import himport]
      exact importCommand_familiar c hp
    · cases hop : Operation.ofName? c.name with
      | none =>
        rw [isKnown_of_other hname himport hread, hop] at hknown
        cases hknown
      | some op =>
        rw [setup.runCommand_operation hop]
        exact behind_arguments_familiar (fun args => doing_familiar (op.perform_familiar hs args)) c hp

end

/-! ## Turns -/

variable {t : Turn σ} {e : Error}

theorem running_of_failed (hname : t.command.name ≠ "include") (h : setup.fate t = .failed e) :
    (setup.running t).1 = .error e := by
  rw [fate, if_neg hname] at h
  cases hrun : (setup.running t).1 with
  | ok _ => rw [hrun] at h; cases h
  | error found => rw [hrun] at h; cases h; rfl

theorem fate_known (hs : setup.session.Familiar) (hnames : t.before.names.Familiar)
    (hname : t.command.name ≠ "include") (hknown : t.command.isKnown = true)
    (h : setup.fate t = .failed e) : e.isUnknown = false := by
  rw [← setup.opening_names t] at hnames
  exact runCommand_familiar hs hname hknown hnames e (running_of_failed hname h)

theorem fate_unknown (hoptions : setup.options.unknown = .error)
    (hknown : t.command.isKnown = false) :
    setup.fate t = .failed (.unknownCommand t.command.name) := by
  obtain ⟨hinclude, hrun⟩ := setup.runCommand_of_not_known hknown
  rw [fate, if_neg hinclude, running, hrun, unknownCommand, hoptions]
  rfl

theorem start_familiar (hr : setup.registry.Familiar) (world : World σ) :
    (setup.start world).names.Familiar := by
  obtain ⟨added, heq, hoffers⟩ := Importing.withUsual_offers setup.registry .empty
  intro g hg
  rw [start, heq] at hg
  exact hr g.2 (hoffers g (by simpa [Namespace.grown, Namespace.empty] using hg))

/-- Along a run the imported functions stay such that none fails because a command is unknown. -/
theorem Takes.names_familiar {levels depth : Nat} {directory : String} {cs : List Command}
    {q : Progress σ} {ts : List (Turn σ)} {r : Except Error Unit}
    (h : setup.Takes levels depth directory cs p ts r q) (hr : setup.registry.Familiar)
    (hp : p.names.Familiar) : ∀ t ∈ ts, t.before.names.Familiar := by
  intro t ht g hg
  rcases h.linked.imported t ht g hg with hfirst | hoffers
  · exact hp g hfirst
  · exact hr g.2 hoffers

end Setup

end PageScript
