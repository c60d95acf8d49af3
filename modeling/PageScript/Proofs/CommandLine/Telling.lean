import PageScript.Proofs.CommandLine.Walk

/-!
# What a check tells

A check puts out a line for every file that it comes to: how many commands the script in it has, or
why it cannot be read.  Nothing that has been put out is taken back, so every file of the walk is
told of (`told_of_walk`).
-/

namespace PageScript

namespace Checking

variable {files : FileTree} {levels depth : Nat} {directory path : String} {c : Command}
  {cs : List Command} {script : Script}

/-! ## Putting out -/

/-- What has been put out stays. -/
def PutsOut {α : Type} (action : Taking α) : Prop :=
  ∀ s o, o ∈ s.output → o ∈ (action s).2.output

/-- The piece is put out. -/
def Tells {α : Type} (action : Taking α) (o : Output) : Prop := ∀ s, o ∈ (action s).2.output

theorem PutsOut.of_bind {α β : Type} {action : Taking α} {f : α → Taking β} (h : PutsOut action)
    (hf : ∀ x, PutsOut (f x)) : PutsOut (action >>= f) :=
  fun s o ho => hf _ _ o (h s o ho)

theorem PutsOut.of_pure {α : Type} (x : α) : PutsOut (pure x) := fun _ _ h => h

theorem Tells.of_bind {α β : Type} {action : Taking α} {f : α → Taking β} {o : Output}
    (h : Tells action o) (hf : ∀ x, PutsOut (f x)) : Tells (action >>= f) o :=
  fun s => hf _ _ o (h s)

theorem Tells.behind {α β : Type} {f : α → Taking β} {o : Output} (action : Taking α)
    (h : ∀ x, Tells (f x) o) : Tells (action >>= f) o :=
  fun _ => h _ _

theorem line_putsOut (steps : Nat) (text : String) : PutsOut (line steps text) :=
  fun _ _ h => List.mem_append_left _ h

theorem notes_putsOut (ns : List (Level × String)) : PutsOut (Doing.notes ns) := by
  intro s o ho
  obtain ⟨pieces, heq⟩ := notes_eq ns s
  rw [heq]
  exact List.mem_append_left _ ho

/-- The line that a check puts out. -/
def lineOf (steps : Nat) (text : String) : Output :=
  .text (String.ofList (List.replicate (2 * steps) ' ') ++ text ++ "\n")

theorem line_tells (steps : Nat) (text : String) : Tells (line steps text) (lineOf steps text) :=
  fun _ => List.mem_append_right _ (List.mem_singleton_self _)

/-- What a check tells of the file of a path: how many commands its script has, or why it cannot be
read. -/
def fileLine (files : FileTree) (depth : Nat) (path : String) : Output :=
  match (Script.load files path).1 with
  | .error e => lineOf 0 ("✗ " ++ path ++ ": " ++ e.message)
  | .ok script => lineOf depth (path ++ ": " ++ Nat.repr script.commands.length ++ " commands")

theorem checkCommand_putsOut {strict : Bool} {inner : Option Course}
    (h : ∀ check, inner = some check → ∀ path, PutsOut (check path)) (c : Command) :
    PutsOut (checkCommand strict depth directory inner c) := by
  have told (text : String) (n : Nat) : PutsOut (line (depth + 1) text >>= fun _ => pure n) :=
    .of_bind (line_putsOut _ _) fun _ => .of_pure n
  cases htarget : c.target? directory with
  | some path =>
    rw [checkCommand_target htarget]
    cases inner with
    | none => exact told _ 1
    | some check => exact h check rfl path
  | none =>
    rw [checkCommand_other htarget]
    unfold checkCommand
    dsimp only
    split
    · split
      · exact told _ 1
      · exact told _ 0
    · split
      · exact told _ _
      · exact .of_pure 0

theorem checkCommands_putsOut {check : Command → Taking Nat} (h : ∀ c, PutsOut (check c)) :
    ∀ cs, PutsOut (checkCommands check cs)
  | [] => .of_pure 0
  | c :: cs => .of_bind (h c) fun _ => .of_bind (checkCommands_putsOut h cs) fun _ => .of_pure _

theorem checkCommands_tells {check : Command → Taking Nat} {o : Output}
    (hputs : ∀ c, PutsOut (check c)) (hc : c ∈ cs) (h : Tells (check c) o) :
    Tells (checkCommands check cs) o := by
  induction cs with
  | nil => cases hc
  | cons d cs ih =>
    rcases List.mem_cons.mp hc with rfl | hc
    · exact .of_bind h fun _ => .of_bind (checkCommands_putsOut hputs cs) fun _ => .of_pure _
    · exact .behind _ fun _ => .of_bind (ih hc) fun _ => .of_pure _

theorem checkScript_putsOut {strict : Bool} {inner : Option Course}
    (h : ∀ check, inner = some check → ∀ path, PutsOut (check path)) (path : String) :
    PutsOut (checkScript files strict depth inner path) := by
  rw [checkScript_eq]
  refine .of_bind (notes_putsOut _) fun _ => ?_
  split
  · exact .of_bind (line_putsOut _ _) fun _ => .of_pure 1
  · exact .of_bind (checkCommands_putsOut (checkCommand_putsOut h) _) fun n =>
      .of_bind (line_putsOut _ _) fun _ => .of_pure n

theorem checkScript_tells {strict : Bool} {inner : Option Course} (path : String) :
    Tells (checkScript files strict depth inner path) (fileLine files depth path) := by
  rw [checkScript_eq]
  refine .behind _ fun _ => ?_
  unfold fileLine
  cases (Script.load files path).1 with
  | error e => exact .of_bind (line_tells _ _) fun _ => .of_pure 1
  | ok script => exact .behind _ fun n => .of_bind (line_tells _ _) fun _ => .of_pure n

theorem checkScript_tells_command {strict : Bool} {inner : Option Course} {o : Output}
    (hputs : ∀ check, inner = some check → ∀ path, PutsOut (check path))
    (hload : (Script.load files path).1 = .ok script) (hc : c ∈ script.commands)
    (h : Tells (checkCommand strict depth script.directory inner c) o) :
    Tells (checkScript files strict depth inner path) o := by
  rw [checkScript_eq, hload]
  refine .behind _ fun _ => ?_
  exact .of_bind (checkCommands_tells (checkCommand_putsOut hputs) hc h) fun n =>
    .of_bind (line_putsOut _ _) fun _ => .of_pure n

theorem checkWithin_putsOut {strict : Bool} (levels depth : Nat) (path : String) :
    PutsOut (checkWithin files strict levels depth path) := by
  induction levels generalizing depth path with
  | zero =>
    refine checkScript_putsOut (fun check hcheck => ?_) path
    cases hcheck
  | succ levels ih =>
    refine checkScript_putsOut (fun check hcheck => ?_) path
    cases hcheck
    exact ih (depth + 1)

/-- A check tells of every file of its walk. -/
theorem told_of_walk {strict : Bool} {p : String} (h : p ∈ walk files levels path) :
    ∃ steps, Tells (checkWithin files strict levels depth path) (fileLine files steps p) := by
  induction levels generalizing depth path with
  | zero =>
    rw [walk_zero] at h
    rw [List.mem_singleton.mp h]
    exact ⟨depth, checkScript_tells path⟩
  | succ levels ih =>
    rcases mem_walk_succ.mp h with rfl | ⟨script, hload, c, hc, target, htarget, hp⟩
    · exact ⟨depth, checkScript_tells p⟩
    · obtain ⟨steps, htells⟩ := @ih (depth + 1) target hp
      refine ⟨steps, checkScript_tells_command (fun check hcheck => ?_) hload hc ?_⟩
      · cases hcheck
        exact checkWithin_putsOut levels (depth + 1)
      · rw [checkCommand_target htarget]
        exact htells

end Checking

end PageScript
