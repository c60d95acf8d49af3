import Mathlib.Algebra.GroupWithZero.Nat
import PageScript.CommandLine.Checking
import PageScript.Proofs.Run.History

/-!
# The walk of a check

A check goes through a script and through the scripts that it includes.  `encounters` lists the
commands that it comes to, in order, with what it finds of each: whether there is something wrong,
and which file it opens.  The list is read off the files alone.

The problems that a strict check counts are those of the list (`checkWithin_result`).  A check looks
at the file that it is given and at those that are opened, and at no other (`checkWithin_congr`).
-/

namespace PageScript

/-- The path that an inclusion writes down, from the directory of its script. -/
def Command.target? (directory : String) (c : Command) : Option String :=
  if c.name = "include" then
    match c.argument with
    | some (.text path) => some (Path.join directory path)
    | _ => none
  else none

/-- A command as a walk through files comes to it. -/
structure Encounter where
  command : Command
  /-- It is unknown, or what it includes cannot be read or is nested too deep. -/
  isProblem : Bool
  /-- The path of the file that it opens. -/
  opens : Option String

namespace Checking

variable {files other : FileTree} {levels depth : Nat} {directory path : String} {c : Command}
  {cs : List Command} {script : Script} {e : Error}

/-! ## Encounters -/

/-- One command and those that it includes.  `inner` gives those of a script, if inclusions may be
nested further. -/
def encounter (files : FileTree) (inner : Option (Script → List Encounter)) (directory : String)
    (c : Command) : List Encounter :=
  match c.target? directory, inner with
  | none, _ => [⟨c, !c.isKnown, none⟩]
  | some _, none => [⟨c, true, none⟩]
  | some path, some inside =>
    match (Script.load files path).1 with
    | .error _ => [⟨c, true, some path⟩]
    | .ok script => ⟨c, false, some path⟩ :: inside script

/-- The commands that a walk comes to, with a number of levels left for inclusions. -/
def encounters (files : FileTree) : (levels : Nat) → (directory : String) → List Command →
    List Encounter
  | 0, directory => List.flatMap (encounter files none directory)
  | levels + 1, directory => List.flatMap (encounter files
      (some fun script => encounters files levels script.directory script.commands) directory)

theorem encounters_nil : encounters files levels directory [] = [] := by
  cases levels <;> rfl

theorem encounters_single (h : c.target? directory = none) :
    encounters files levels directory (c :: cs)
      = ⟨c, !c.isKnown, none⟩ :: encounters files levels directory cs := by
  cases levels <;> simp [encounters, encounter, h]

/-- Where no levels are left, no file is opened. -/
theorem encounters_refused (h : c.target? directory = some path) :
    encounters files 0 directory (c :: cs)
      = ⟨c, true, none⟩ :: encounters files 0 directory cs := by
  simp [encounters, encounter, h]

theorem encounters_missing (h : c.target? directory = some path)
    (hload : (Script.load files path).1 = .error e) :
    encounters files (levels + 1) directory (c :: cs)
      = ⟨c, true, some path⟩ :: encounters files (levels + 1) directory cs := by
  simp [encounters, encounter, h, hload]

theorem encounters_loaded (h : c.target? directory = some path)
    (hload : (Script.load files path).1 = .ok script) :
    encounters files (levels + 1) directory (c :: cs)
      = ⟨c, false, some path⟩ :: encounters files levels script.directory script.commands
        ++ encounters files (levels + 1) directory cs := by
  simp [encounters, encounter, h, hload]

/-! ## Problems -/

/-- The problems of the script of a path.  `inside` gives what a walk comes to in it. -/
def problemsOf (files : FileTree) (inside : Script → List Encounter) (path : String) : Nat :=
  match (Script.load files path).1 with
  | .error _ => 1
  | .ok script => (inside script).countP (·.isProblem)

/-- What is checked behind inclusions is what a walk comes to. -/
inductive Counts (files : FileTree) : Option Course → Option (Script → List Encounter) → Prop where
  | refusing : Counts files none none
  | following {check : Course} {inside : Script → List Encounter}
      (h : ∀ path outside, (check path outside).1 = problemsOf files inside path) :
      Counts files (some check) (some inside)

theorem checkCommand_single {inner : Option Course} (h : c.target? directory = none)
    (outside : Surroundings) :
    (checkCommand true depth directory inner c outside).1 = if c.isKnown then 0 else 1 := by
  unfold checkCommand
  by_cases hname : c.name = "include"
  · have known : c.isKnown = true := by simp [Command.isKnown, hname, reservedNames]
    rw [if_pos hname, if_pos known]
    unfold Command.target? at h
    rw [if_pos hname] at h
    cases harg : c.argument with
    | none => rfl
    | some v =>
      rw [harg] at h
      cases v with
      | text path => cases h
      | _ => rfl
  · have unknown : ((Operation.ofName? c.name).isNone && !reservedNames.contains c.name)
        = !c.isKnown := by
      simp [Command.isKnown, Bool.and_comm]
    rw [if_neg hname, unknown]
    cases c.isKnown <;> rfl

theorem checkCommand_target {strict : Bool} {inner : Option Course}
    (h : c.target? directory = some path) :
    checkCommand strict depth directory inner c = match inner with
      | some check => check path
      | none => do
        line (depth + 1) ("✗ include too deep: " ++ path)
        return 1 := by
  unfold Command.target? at h
  split at h
  · next hname =>
    split at h
    · next harg =>
      cases h
      cases inner <;> simp [checkCommand, hname, harg]
    · cases h
  · cases h

theorem checkCommand_result {inner : Option Course} {inside : Option (Script → List Encounter)}
    (h : Counts files inner inside) (c : Command) (outside : Surroundings) :
    (checkCommand true depth directory inner c outside).1
      = (encounter files inside directory c).countP (·.isProblem) := by
  unfold encounter
  cases htarget : c.target? directory with
  | none =>
    rw [checkCommand_single htarget]
    cases c.isKnown <;> rfl
  | some path =>
    rw [checkCommand_target htarget]
    cases h with
    | refusing => rfl
    | following h =>
      dsimp only
      rw [h, problemsOf]
      split <;> simp

theorem checkCommands_result {check : Command → Taking Nat} {n : Command → Nat}
    (h : ∀ c outside, (check c outside).1 = n c) (cs : List Command) (outside : Surroundings) :
    (checkCommands check cs outside).1 = (cs.map n).sum := by
  induction cs generalizing outside with
  | nil => rfl
  | cons c cs ih =>
    show (check c outside).1 + (checkCommands check cs (check c outside).2).1 = _
    rw [h, ih]
    simp

/-- What a check does with a script, behind the warnings. -/
theorem checkScript_eq {strict : Bool} {inner : Option Course} (path : String) :
    checkScript files strict depth inner path
      = Doing.notes ((Script.load files path).2.map (.warn, ·)) >>= fun _ =>
        match (Script.load files path).1 with
        | .error e => line 0 ("✗ " ++ path ++ ": " ++ e.message) >>= fun _ => pure 1
        | .ok script =>
          checkCommands (checkCommand strict depth script.directory inner) script.commands
            >>= fun n => line depth (path ++ ": " ++ Nat.repr script.commands.length ++ " commands")
              >>= fun _ => pure n := rfl

theorem checkScript_result {inner : Option Course} {inside : Option (Script → List Encounter)}
    (h : Counts files inner inside) (path : String) (outside : Surroundings) :
    (checkScript files true depth inner path outside).1 = problemsOf files
      (fun script => script.commands.flatMap (encounter files inside script.directory)) path := by
  rw [checkScript_eq, problemsOf]
  cases (Script.load files path).1 with
  | error e => rfl
  | ok script =>
    dsimp only
    rw [List.countP_flatMap]
    exact checkCommands_result (checkCommand_result h) script.commands _

/-- A strict check counts the problems that a walk comes to. -/
theorem checkWithin_result (files : FileTree) (levels depth : Nat) (path : String)
    (outside : Surroundings) :
    (checkWithin files true levels depth path outside).1 = problemsOf files
      (fun script => encounters files levels script.directory script.commands) path := by
  induction levels generalizing depth path outside with
  | zero => exact checkScript_result .refusing path outside
  | succ levels ih => exact checkScript_result (.following (ih (depth + 1))) path outside

/-! ## Files -/

/-- The paths that a walk from a path comes to: the path itself, and those that are opened in its
script. -/
def walk (files : FileTree) (levels : Nat) (path : String) : List String :=
  path :: match (Script.load files path).1 with
    | .error _ => []
    | .ok script => (encounters files levels script.directory script.commands).filterMap (·.opens)

theorem self_mem_walk : path ∈ walk files levels path := List.mem_cons_self

theorem walk_zero : walk files 0 path = [path] := by
  have nothing (directory : String) (c : Command) :
      (encounter files none directory c).filterMap (·.opens) = [] := by
    unfold encounter
    cases c.target? directory <;> rfl
  unfold walk encounters
  cases (Script.load files path).1 <;> simp [List.filterMap_flatMap, nothing]

/-- Behind its beginning, a walk consists of the walks from the paths that commands write down. -/
theorem mem_walk_succ {p : String} : p ∈ walk files (levels + 1) path ↔
    p = path ∨ ∃ script, (Script.load files path).1 = .ok script ∧ ∃ c ∈ script.commands,
      ∃ target, c.target? script.directory = some target ∧ p ∈ walk files levels target := by
  let inside (script : Script) := encounters files levels script.directory script.commands
  have opened (directory : String) (c : Command) :
      (encounter files (some inside) directory c).filterMap (·.opens)
        = ((c.target? directory).map (walk files levels)).getD [] := by
    unfold encounter
    cases c.target? directory with
    | none => rfl
    | some target =>
      dsimp only [Option.map_some, Option.getD_some]
      unfold walk
      cases (Script.load files target).1 <;> rfl
  have behind (script : Script) :
      (encounters files (levels + 1) script.directory script.commands).filterMap (·.opens)
        = script.commands.flatMap fun c =>
          ((c.target? script.directory).map (walk files levels)).getD [] := by
    rw [← funext (opened script.directory), ← List.filterMap_flatMap]
    rfl
  rw [walk, List.mem_cons]
  cases (Script.load files path).1 with
  | error e => simp
  | ok script =>
    have one (c : Command) : p ∈ ((c.target? script.directory).map (walk files levels)).getD [] ↔
        ∃ target, c.target? script.directory = some target ∧ p ∈ walk files levels target := by
      cases c.target? script.directory <;> simp
    dsimp only
    simp [behind, one]

/-! ## What a check looks at -/

theorem checkCommand_other {strict : Bool} (h : c.target? directory = none)
    (inner : Option Course) :
    checkCommand strict depth directory inner c = checkCommand strict depth directory none c := by
  unfold checkCommand
  unfold Command.target? at h
  split at h
  · next hname =>
    rw [if_pos hname, if_pos hname]
    cases harg : c.argument with
    | none => rfl
    | some v =>
      rw [harg] at h
      cases v with
      | text path => cases h
      | _ => rfl
  · next hname => rw [if_neg hname, if_neg hname]

theorem checkCommands_congr {check check' : Command → Taking Nat}
    (h : ∀ c ∈ cs, check c = check' c) : checkCommands check cs = checkCommands check' cs := by
  induction cs with
  | nil => rfl
  | cons c cs ih =>
    rw [checkCommands, checkCommands, h c List.mem_cons_self,
      ih fun d hd => h d (List.mem_cons_of_mem _ hd)]

theorem checkScript_congr {strict : Bool} {inner inner' : Option Course}
    (hload : Script.load other path = Script.load files path)
    (h : ∀ script, (Script.load files path).1 = .ok script → ∀ c ∈ script.commands,
      ∀ target, c.target? script.directory = some target →
        inner.map (· target) = inner'.map (· target)) :
    checkScript other strict depth inner path = checkScript files strict depth inner' path := by
  rw [checkScript_eq, checkScript_eq, hload]
  cases hfound : (Script.load files path).1 with
  | error e => rfl
  | ok script =>
    have same : checkCommands (checkCommand strict depth script.directory inner) script.commands
        = checkCommands (checkCommand strict depth script.directory inner') script.commands := by
      refine checkCommands_congr fun c hc => ?_
      cases htarget : c.target? script.directory with
      | none => rw [checkCommand_other htarget, checkCommand_other htarget inner']
      | some target =>
        rw [checkCommand_target htarget, checkCommand_target htarget]
        have := h script hfound c hc target htarget
        cases inner <;> cases inner' <;> simp_all
    dsimp only
    rw [same]

/-- A check looks at the files of its walk and at no others. -/
theorem checkWithin_congr {strict : Bool}
    (h : ∀ p ∈ walk files levels path, Script.load other p = Script.load files p) :
    checkWithin other strict levels depth path = checkWithin files strict levels depth path := by
  induction levels generalizing depth path with
  | zero => exact checkScript_congr (h path self_mem_walk) fun _ _ _ _ _ _ => rfl
  | succ levels ih =>
    refine checkScript_congr (h path self_mem_walk) fun script hload c hc target htarget => ?_
    refine congrArg some (ih fun p hp => h p (mem_walk_succ.mpr (.inr ?_)))
    exact ⟨script, hload, c, hc, target, htarget, hp⟩

end Checking

end PageScript
