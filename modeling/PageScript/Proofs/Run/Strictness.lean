import PageScript.Proofs.Run.Accounting

/-!
# Strict runs

A run may be strict: a command that names no operation and an expression without meaning are errors.
A lenient run passes over the one and takes an empty text for the other.  Strictness only rejects.
Where a strict action succeeds, the lenient one does just the same (`Stricter`), since it is only in
the two places where the strict one fails that they differ.

So the turns of a strict run that do not fail are turns of the lenient run (`fate_of_strict`), and a
strict run without failures is the lenient run (`strict_only_rejects`).
-/

namespace PageScript

/-- Where the first action succeeds, the second gives the same result and leaves the same state. -/
def Stricter {S α : Type} (a b : ExceptT Error (StateM S) α) : Prop :=
  ∀ s x t, a s = (.ok x, t) → b s = (.ok x, t)

namespace Stricter

variable {S α β : Type} {a b : ExceptT Error (StateM S) α}

theorem refl (a : ExceptT Error (StateM S) α) : Stricter a a := fun _ _ _ h => h

/-- What always fails is stricter than anything. -/
theorem of_throw (e : Error) : Stricter (throw e) b := by
  intro s x t h
  cases h

theorem of_bind {f g : α → ExceptT Error (StateM S) β} (hab : Stricter a b)
    (hfg : ∀ x, Stricter (f x) (g x)) : Stricter (a >>= f) (b >>= g) := by
  intro s y t h
  obtain ⟨x, s', hs, hrest⟩ := Lockstep.exists_of_bind_ok h
  rw [Lockstep.bind_ok (hab s x s' hs)]
  exact hfg x s' y t hrest

/-- What follows a look at the state may depend on it. -/
theorem of_get {f g : S → ExceptT Error (StateM S) β} (h : ∀ s, Stricter (f s) (g s)) :
    Stricter (get >>= f) (get >>= g) :=
  .of_bind (refl get) h

end Stricter

/-! ## Expressions -/

namespace Resolver

/-- The resolver for which an expression without meaning is an error. -/
def strict (r : Resolver) : Resolver := { r with unresolved := .error }

variable (r : Resolver)

theorem evaluate_stricter (tag rest : String) :
    Stricter (r.strict.evaluate tag rest) (r.evaluate tag rest) := by
  refine .of_get fun scope => ?_
  dsimp only
  split
  · exact .refl _
  · split
    · exact .refl _
    · cases category? tag with
      | some category => exact .refl _
      | none => exact .of_throw _

theorem resolve_stricter (body : String) : Stricter (r.strict.resolve body) (r.resolve body) := by
  unfold resolve
  obtain ⟨tag, rest⟩ := parts body
  dsimp only
  split
  · exact .refl _
  · exact .of_bind (r.evaluate_stricter tag rest) fun v => .refl _

end Resolver

theorem Command.arguments_stricter (c : Command) (r : Resolver) :
    Stricter (c.arguments r.strict) (c.arguments r) :=
  Resolver.Related.arguments (R := fun _ => Stricter)
    ⟨fun _ => .refl _, fun h hf => .of_bind h hf, r.resolve_stricter⟩ c

/-! ## Single commands -/

variable {σ : Type}

/-- The setup with other policies for what has no meaning. -/
def Setup.judging (setup : Setup σ) (unknown : UnknownPolicy) (unresolved : Unresolved) : Setup σ :=
  { setup with options := { setup.options with unknown, unresolved } }

/-- The setup for which what has no meaning is an error. -/
def Setup.exacting (setup : Setup σ) : Setup σ := setup.judging .error .error

namespace Setup

variable (setup : Setup σ)

theorem arguments_stricter (c : Command) :
    Stricter (setup.exacting.arguments c) (setup.arguments c) := by
  intro p args q h
  obtain ⟨result, scope, hargs⟩ : ∃ result scope,
    c.arguments setup.resolver.strict ⟨p.names, p.world.outside⟩ = (result, scope) := ⟨_, _, rfl⟩
  have resolved : setup.exacting.arguments c p = (result,
      { p with names := scope.names, world := { p.world with outside := scope.outside } }) := by
    show (match c.arguments setup.resolver.strict ⟨p.names, p.world.outside⟩ with
      | (result, scope) => (result,
        { p with names := scope.names, world := { p.world with outside := scope.outside } })) = _
    rw [hargs]
  rw [resolved] at h
  cases h
  have lenient := c.arguments_stricter setup.resolver _ _ _ hargs
  unfold arguments Running.resolving
  rw [lenient]

theorem unknownCommand_stricter (name : String) :
    Stricter (setup.exacting.unknownCommand name) (setup.unknownCommand name) :=
  .of_throw _

theorem importCommand_stricter (c : Command) :
    Stricter (setup.exacting.importCommand c) (setup.importCommand c) := by
  refine .of_bind (setup.arguments_stricter c) fun args => ?_
  rw [exacting, judging, importValues_options]
  exact .refl _

theorem readCommand_stricter (c : Command) (read : String → Doing σ String) :
    Stricter (setup.exacting.readCommand c read) (setup.readCommand c read) :=
  .of_bind (setup.arguments_stricter c) fun _ => .refl _

theorem runCommand_stricter (c : Command) :
    Stricter (setup.exacting.runCommand c) (setup.runCommand c) := by
  unfold runCommand
  split
  · exact setup.importCommand_stricter c
  · exact setup.readCommand_stricter c _
  · exact setup.readCommand_stricter c _
  · cases Operation.ofName? c.name with
    | none => exact setup.unknownCommand_stricter c.name
    | some op => exact .of_bind (setup.arguments_stricter c) fun _ => .refl _

theorem loadInclude_stricter (deeper : Bool) (directory : String) (c : Command) :
    Stricter (setup.exacting.loadInclude deeper directory c)
      (setup.loadInclude deeper directory c) :=
  .of_bind (setup.arguments_stricter c) fun _ => .refl _

/-! ## Turns -/

variable {setup}

/-- A turn that does not fail in a strict run goes in the same way in a lenient one. -/
theorem fate_of_strict {t : Turn σ} (h : (setup.exacting.fate t).error? = none) :
    setup.fate t = setup.exacting.fate t ∧ setup.closing t = setup.exacting.closing t := by
  unfold fate closing at *
  split
  · rename_i hname
    rw [if_pos hname] at h
    obtain ⟨r, q, hload⟩ : ∃ r q, setup.exacting.loading t = (r, q) := ⟨_, _, rfl⟩
    rw [hload] at h ⊢
    cases r with
    | error e => cases h
    | ok script =>
      have lenient : setup.loading t = (.ok script, q) :=
        setup.loadInclude_stricter _ _ _ _ _ _ hload
      rw [lenient]
      exact ⟨rfl, rfl⟩
  · rename_i hname
    rw [if_neg hname] at h
    obtain ⟨r, q, hrun⟩ : ∃ r q, setup.exacting.running t = (r, q) := ⟨_, _, rfl⟩
    rw [hrun] at h ⊢
    cases r with
    | error e => cases h
    | ok _ =>
      have lenient : setup.running t = (.ok (), q) := setup.runCommand_stricter _ _ _ _ hrun
      rw [lenient]
      exact ⟨rfl, rfl⟩

/-- A strict run in which no turn fails takes its turns as a lenient run. -/
theorem Takes.of_strict {levels depth : Nat} {directory : String} {cs : List Command}
    {p q : Progress σ} {ts : List (Turn σ)} {r : Except Error Unit}
    (h : setup.exacting.Takes levels depth directory cs p ts r q)
    (hts : ∀ t ∈ ts, (setup.exacting.fate t).error? = none) :
    setup.Takes levels depth directory cs p ts r q := by
  induction h with
  | nil => exact .nil
  | @done levels depth directory c cs p s ts r t ht hfate hrest ih =>
    obtain ⟨first, rest⟩ := List.forall_mem_cons.mp hts
    obtain ⟨same, closing⟩ := fate_of_strict first
    rw [← closing] at ih
    exact .done ht (same.trans hfate) (ih rest)
  | failed ht hfate herrors hrest ih =>
    have first := hts _ List.mem_cons_self
    rw [hfate] at first
    cases first
  | ended ht hfate herrors =>
    have first := hts _ List.mem_cons_self
    rw [hfate] at first
    cases first
  | loaded ht hfate hinside hrest ihinside ih =>
    obtain ⟨first, inside⟩ := List.forall_mem_cons.mp (List.forall_mem_append.mp hts).1
    obtain ⟨same, closing⟩ := fate_of_strict first
    rw [← closing] at ihinside
    exact .loaded ht (same.trans hfate) (ihinside inside) (ih (List.forall_mem_append.mp hts).2)
  | broken ht hfate hinside ihinside =>
    obtain ⟨first, inside⟩ := List.forall_mem_cons.mp hts
    obtain ⟨same, closing⟩ := fate_of_strict first
    rw [← closing] at ihinside
    exact .broken ht (same.trans hfate) (ihinside inside)

/-! ## Whole runs -/

theorem error?_of_failuresOf_nil {n : Nat} {ts : List (Turn σ)} (h : setup.failuresOf n ts = []) :
    ∀ t ∈ ts, (setup.fate t).error? = none := by
  intro t ht
  cases hfate : setup.fate t with
  | failed e =>
    obtain ⟨front, back, rfl⟩ := List.append_of_mem ht
    have reported := (setup.mem_failuresOf_iff (n := n)).mpr ⟨front, t, back, e, rfl, hfate, rfl⟩
    rw [h] at reported
    cases reported
  | _ => rfl

variable (setup)

/-- A strict run without failures is the lenient run of the script: it ends with the same report and
leaves the same world, calls to the session included. -/
theorem strict_only_rejects (script : Script) (world : World σ) (unknown : UnknownPolicy)
    (unresolved : Unresolved) {report : Report}
    (h : (setup.exacting.traced.run script world.fresh).result = .ok report)
    (hfailures : report.failures = []) :
    (setup.judging unknown unresolved).traced.run script world.fresh
      = setup.exacting.traced.run script world.fresh := by
  let lenient := (setup.judging unknown unresolved).traced
  obtain ⟨r, q, hrun, takes⟩ := lenient.exacting.run_takes script world.fresh
  have strict : setup.exacting.traced.run script world.fresh = .of (r, q) := hrun
  rw [strict] at h ⊢
  cases r with
  | error e => cases h
  | ok _ =>
    cases h
    have collected : q.failures = lenient.exacting.failuresOf 0 _ := takes.failures_eq
    have none := error?_of_failuresOf_nil (collected.symm.trans hfailures)
    rw [run_eq]
    exact congrArg Ending.of (takes.of_strict none).eq_turns.2

/-- A script whose expressions all have a meaning. -/
def errand : Script :=
  ⟨[⟨"go", some (.text "(( eval|'http://home' ))")⟩,
    ⟨"log", some (.list [.text "(( randint|1, 6 ))", .text "(( vars|eval ))"])⟩], none⟩

theorem strict_only_rejects_errand :
    (∃ report, (rehearsal.exacting.traced.run errand blankWorld.fresh).result = .ok report ∧
        report.failures = []) ∧
      (rehearsal.judging .warn .empty).traced.run errand blankWorld.fresh
        = rehearsal.exacting.traced.run errand blankWorld.fresh := by
  have went : (rehearsal.exacting.traced.run errand blankWorld.fresh).result.toOption.map
      Report.failures = some [] := by decide +kernel
  cases hresult : (rehearsal.exacting.traced.run errand blankWorld.fresh).result with
  | error e =>
    rw [hresult] at went
    cases went
  | ok report =>
    rw [hresult] at went
    have hfailures : report.failures = [] := Option.some.inj went
    exact ⟨⟨report, rfl, hfailures⟩,
      rehearsal.strict_only_rejects errand blankWorld .warn .empty hresult hfailures⟩

end Setup

end PageScript
