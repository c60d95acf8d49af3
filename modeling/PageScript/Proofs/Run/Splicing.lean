import PageScript.Proofs.Expression.Tokens
import PageScript.Proofs.Run.Single

/-!
# Splicing

An inclusion whose path is written out, without tokens, can be replaced by the commands of the
script that it names.  `splice` does so in a whole script, in order and as deep as inclusions may be
nested, and keeps a mark where each inclusion stood.  The commands between the marks are the flat
script.  An inclusion that cannot be replaced stays a command.

The marks tell how the commands of the flat script are numbered in the run of the script: the marks
in front of a command are added to its number (`inclusionsBefore`).
-/

namespace PageScript

/-! ## Static arguments -/

/-- A value at the top or in a list that is not resolved to anything else. -/
def Value.isPlain : Value → Bool
  | .text s => (Token.body? s).isNone
  | _ => true

/-- An item of an argument that is not resolved to anything else. -/
def Value.isStaticItem : Value → Bool
  | .list inner => inner.all Value.isPlain
  | v => v.isPlain

/-- An argument that is not resolved to anything else. -/
def Value.isStatic : Value → Bool
  | .list vs => vs.all Value.isStaticItem
  | v => v.isPlain

theorem Value.body?_of_isPlain {v : Value} (h : v.isPlain = true) : v.body? = none := by
  cases v with
  | text s => simpa [isPlain, body?] using h
  | _ => rfl

theorem Value.itemBodies_of_isStaticItem {v : Value} (h : v.isStaticItem = true) :
    v.itemBodies = [] := by
  cases v with
  | list inner =>
    have plain : ∀ v ∈ inner, v.isPlain = true := List.all_eq_true.mp h
    exact List.filterMap_eq_nil_iff.mpr fun v hv => body?_of_isPlain (plain v hv)
  | _ =>
    rw [isStaticItem] at h
    · simp [itemBodies, body?_of_isPlain h]
    · intro vs hvs
      cases hvs

/-- A static argument has no tokens. -/
theorem Value.bodies_of_isStatic {v : Value} (h : v.isStatic = true) : v.bodies = [] := by
  cases v with
  | list vs =>
    have static : ∀ v ∈ vs, v.isStaticItem = true := List.all_eq_true.mp h
    exact List.flatMap_eq_nil_iff.mpr fun v hv => itemBodies_of_isStaticItem (static v hv)
  | _ =>
    rw [isStatic] at h
    · simp [bodies, body?_of_isPlain h]
    · intro vs hvs
      cases hvs

/-- A static argument is resolved to itself, and nothing happens. -/
theorem Resolver.resolveValue_static (r : Resolver) {v : Value} (h : v.isStatic = true)
    (scope : Scope) : r.resolveValue v scope = (.ok v, scope) := by
  have none : v.tokens.map (·.2) = [] := by rw [v.tokens_bodies, Value.bodies_of_isStatic h]
  exact resolveValue_of_no_tokens (List.map_eq_nil_iff.mp none) scope

/-- The arguments of a command as they are written. -/
def Command.written (c : Command) : Arguments := ⟨c.name, Arguments.shape c.argument⟩

/-- The path that an inclusion writes out. -/
def Command.staticPath? (c : Command) : Option String :=
  if c.argument.all Value.isStatic then (c.written.text 0 "path").toOption else none

/-- The script that a command includes by a path that is written out. -/
def FileTree.included? (files : FileTree) (directory : String) (c : Command) : Option Script :=
  if c.name = "include" then
    c.staticPath?.bind fun path => (Script.load files (Path.join directory path)).1.toOption
  else none

theorem FileTree.name_of_included? {files : FileTree} {directory : String} {c : Command}
    {script : Script} (h : files.included? directory c = some script) : c.name = "include" := by
  unfold FileTree.included? at h
  split at h
  · assumption
  · cases h

theorem arguments_static {σ : Type} (setup : Setup σ) {c : Command}
    (h : c.argument.all Value.isStatic = true) (p : Progress σ) :
    setup.arguments c p = (.ok c.written, p) := by
  have arguments : ∀ scope, c.arguments setup.resolver scope = (.ok c.written, scope) := by
    intro scope
    unfold Command.arguments Command.written
    cases hc : c.argument with
    | none => rfl
    | some v =>
      rw [hc] at h
      show (setup.resolver.resolveValue v >>= _) scope = _
      rw [Lockstep.bind_ok (setup.resolver.resolveValue_static h scope)]
      rfl
  unfold Setup.arguments Running.resolving
  rw [arguments]

theorem notes_eq (ns : List (Level × String)) (s : Surroundings) :
    ∃ pieces, (Doing.notes ns s).2 = { s with output := s.output ++ pieces } := by
  induction ns generalizing s with
  | nil =>
    refine ⟨[], ?_⟩
    rw [List.append_nil]
    rfl
  | cons n ns ih =>
    obtain ⟨level, text⟩ := n
    obtain ⟨pieces, heq⟩ := ih (Surroundings.note level text s).2
    refine ⟨.note level text :: pieces, ?_⟩
    show (Doing.notes ns (Surroundings.note level text s).2).2 = _
    rw [heq, List.append_cons]
    rfl

theorem Progress.putting_putting {σ : Type} (p : Progress σ) (first second : List Output) :
    (p.putting first).putting second = p.putting (first ++ second) := by
  unfold Progress.putting
  dsimp only
  rw [List.append_assoc]

theorem outside_notes {σ : Type} (ns : List (Level × String)) (p : Progress σ) :
    ∃ pieces, Running.outside (Doing.notes ns) p = (.ok (), p.putting pieces) := by
  obtain ⟨pieces, heq⟩ := notes_eq ns p.world.outside
  refine ⟨pieces, ?_⟩
  show (Except.ok (), { p with world := ⟨p.world.session, (Doing.notes ns p.world.outside).2⟩ }) = _
  rw [heq]
  rfl

/-- An inclusion by a path that is written out only puts out notes. -/
theorem loadInclude_static {σ : Type} (setup : Setup σ) {directory : String} {c : Command}
    {script : Script} (h : setup.files.included? directory c = some script) (p : Progress σ) :
    ∃ pieces, setup.loadInclude true directory c p = (.ok script, p.putting pieces) := by
  unfold FileTree.included? at h
  split at h
  · obtain ⟨path, hpath, hload⟩ := Option.bind_eq_some_iff.mp h
    unfold Command.staticPath? at hpath
    split at hpath
    · next hstatic =>
      have text : Running.ofExcept (c.written.text 0 "path") p = (.ok path, p) := by
        cases ht : c.written.text 0 "path" with
        | error e => rw [ht] at hpath; cases hpath
        | ok found => rw [ht] at hpath; cases hpath; rfl
      unfold Setup.loadInclude
      rw [Lockstep.bind_ok (arguments_static setup hstatic p), Lockstep.bind_ok text]
      dsimp only
      generalize Script.load setup.files (Path.join directory path) = loaded at hload ⊢
      obtain ⟨result, warnings⟩ := loaded
      cases result with
      | error e => cases hload
      | ok found =>
        cases hload
        obtain ⟨pieces, hnotes⟩ := outside_notes (warnings.map (.warn, ·))
          (p.putting [.note .info ("include: " ++ Path.join directory path)])
        refine ⟨[.note .info ("include: " ++ Path.join directory path)] ++ pieces, ?_⟩
        rw [← p.putting_putting]
        show (Running.outside (Doing.notes (warnings.map (.warn, ·))) >>= fun _ => pure script)
          (p.putting [.note .info ("include: " ++ Path.join directory path)]) = _
        rw [Lockstep.bind_ok hnotes]
        rfl
    · cases hpath
  · cases h

/-! ## Steps -/

/-- A step of a spliced script. -/
inductive Step where
  | inclusion
  | command (c : Command)

/-- The command of a step. -/
def Step.command? : Step → Option Command
  | .inclusion => none
  | .command c => some c

/-- The commands of the steps. -/
def flatten (steps : List Step) : List Command := steps.filterMap Step.command?

/-- The inclusions in front of a command, by its number among the commands alone.  The first command
has number one. -/
def inclusionsBefore : List Step → Nat → Nat
  | _, 0 => 0
  | [], _ => 0
  | .inclusion :: steps, n + 1 => inclusionsBefore steps (n + 1) + 1
  | .command _ :: steps, n + 1 => inclusionsBefore steps n

theorem flatten_append (as bs : List Step) : flatten (as ++ bs) = flatten as ++ flatten bs :=
  List.filterMap_append

theorem flatten_command (c : Command) (steps : List Step) :
    flatten (.command c :: steps) = c :: flatten steps := rfl

theorem flatten_inclusion (steps : List Step) : flatten (.inclusion :: steps) = flatten steps := rfl

/-- A command behind some steps has the next number in both counts. -/
theorem inclusionsBefore_behind (front : List Step) (c : Command) (back : List Step) :
    (flatten front).length + 1
        + inclusionsBefore (front ++ .command c :: back) ((flatten front).length + 1)
      = front.length + 1 := by
  induction front with
  | nil =>
    show 1 + inclusionsBefore back 0 = 1
    cases back <;> rfl
  | cons step front ih =>
    cases step with
    | inclusion =>
      show (flatten front).length + 1
        + (inclusionsBefore (front ++ .command c :: back) ((flatten front).length + 1) + 1) = _
      rw [← Nat.add_assoc, ih]
      rfl
    | command d =>
      show (flatten front).length + 1 + 1
        + inclusionsBefore (front ++ .command c :: back) ((flatten front).length + 1) = _
      rw [Nat.add_right_comm, ih]
      rfl

/-! ## Splicing -/

/-- The steps of commands.  `inner` splices the commands of an included script. -/
def spliceWith (files : FileTree) (inner : Option (String → List Command → List Step))
    (directory : String) : List Command → List Step
  | [] => []
  | c :: cs =>
    match inner, files.included? directory c with
    | some splice, some script =>
      .inclusion :: splice script.directory script.commands
        ++ spliceWith files inner directory cs
    | _, _ => .command c :: spliceWith files inner directory cs

/-- The steps of commands with a number of levels left for inclusions. -/
def splice (files : FileTree) : (levels : Nat) → (directory : String) → List Command → List Step
  | 0 => spliceWith files none
  | levels + 1 => spliceWith files (some (splice files levels))

theorem splice_nil (files : FileTree) (levels : Nat) (directory : String) :
    splice files levels directory [] = [] := by
  cases levels <;> rfl

/-- What cannot be replaced stays. -/
theorem splice_command {files : FileTree} {levels : Nat} {directory : String} {c : Command}
    (hc : levels = 0 ∨ files.included? directory c = none) (cs : List Command) :
    splice files levels directory (c :: cs) = .command c :: splice files levels directory cs := by
  cases levels with
  | zero => rfl
  | succ levels =>
    rcases hc with hc | hc
    · cases hc
    · simp only [splice, spliceWith, hc]

/-- An inclusion gives way to what its script is spliced to. -/
theorem splice_inclusion {files : FileTree} {directory : String} {c : Command} {script : Script}
    (hc : files.included? directory c = some script) (levels : Nat) (cs : List Command) :
    splice files (levels + 1) directory (c :: cs)
      = .inclusion :: splice files levels script.directory script.commands
        ++ splice files (levels + 1) directory cs := by
  simp only [splice, spliceWith, hc]

/-- No inclusion is left. -/
def AllReplaced (files : FileTree) (levels : Nat) (directory : String) (cs : List Command) : Prop :=
  ∀ c ∈ flatten (splice files levels directory cs), c.name ≠ "include"

namespace AllReplaced

variable {files : FileTree} {levels : Nat} {directory : String} {c : Command} {cs : List Command}

theorem included (h : AllReplaced files levels directory (c :: cs)) (hc : c.name = "include") :
    levels ≠ 0 ∧ (files.included? directory c).isSome = true := by
  have stuck : ¬(levels = 0 ∨ files.included? directory c = none) := by
    intro hstuck
    rw [AllReplaced, splice_command hstuck] at h
    exact h c List.mem_cons_self hc
  refine ⟨fun hlevels => stuck (.inl hlevels), ?_⟩
  exact Option.isSome_iff_ne_none.mpr fun hnone => stuck (.inr hnone)

theorem inside {script : Script} (h : AllReplaced files (levels + 1) directory (c :: cs))
    (hc : files.included? directory c = some script) :
    AllReplaced files levels script.directory script.commands := by
  intro d hd
  rw [AllReplaced, splice_inclusion hc, List.cons_append, flatten_inclusion, flatten_append] at h
  exact h d (List.mem_append_left _ hd)

theorem behind (h : AllReplaced files levels directory (c :: cs)) :
    AllReplaced files levels directory cs := by
  intro d hd
  cases levels with
  | zero =>
    rw [AllReplaced, splice_command (.inl rfl)] at h
    exact h d (List.mem_cons_of_mem _ hd)
  | succ levels =>
    cases hc : files.included? directory c with
    | none =>
      rw [AllReplaced, splice_command (.inr hc)] at h
      exact h d (List.mem_cons_of_mem _ hd)
    | some script =>
      rw [AllReplaced, splice_inclusion hc, List.cons_append, flatten_inclusion,
        flatten_append] at h
      exact h d (List.mem_append_right _ hd)

end AllReplaced

/-- The steps of a script. -/
def Script.steps (script : Script) (files : FileTree) : List Step :=
  splice files maxIncludeDepth script.directory script.commands

/-- The script with its inclusions replaced. -/
def Script.flat (script : Script) (files : FileTree) : Script :=
  { script with commands := flatten (script.steps files) }

end PageScript
