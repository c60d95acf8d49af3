import PageScript.Proofs.Run.Splicing
import PageScript.Proofs.Run.Turns

/-!
# Inclusions

An inclusion asks for a path, which its argument is resolved to.  Where no levels are left it is
refused (`refusal`) without a look at the files.  Otherwise the path is loaded: the turn tells the
script that is found, or why there is none (`inclusionOf`).
-/

namespace PageScript

variable {σ : Type}

/-! ## Scripts in files -/

/-- A script that is loaded is the text of a file in one of the two languages. -/
theorem Script.load_eq_ok {files : FileTree} {path : String} {script : Script}
    (h : (load files path).1 = .ok script) :
    ∃ format text found, files.read path = .ok text ∧ ofText format text = .ok found ∧
      script.commands = found.commands := by
  unfold load at h
  cases hread : files.read path with
  | error f => rw [hread] at h; cases h
  | ok text =>
    rw [hread] at h
    dsimp only at h
    split at h
    · next found htext =>
      cases h
      exact ⟨_, text, found, rfl, htext, rfl⟩
    · cases h

namespace FileTree

variable {files : FileTree} {path text : String}

/-- What is read is the text of a file. -/
theorem mem_of_read (h : files.read path = .ok text) :
    ∃ place, (place, .file (some text)) ∈ files.entries := by
  unfold read at h
  cases hplace : files.locate path with
  | error f => rw [hplace] at h; cases h
  | ok place =>
    rw [hplace] at h
    dsimp only at h
    cases hentry : files.entry? place with
    | none => rw [hentry] at h; cases h
    | some entry =>
      rw [hentry] at h
      cases entry with
      | directory => cases h
      | file found =>
        cases found with
        | none => cases h
        | some found =>
          cases h
          unfold entry? at hentry
          split at hentry
          · cases hentry
          · obtain ⟨front, back, heq, -⟩ := List.lookup_eq_some_iff.mp hentry
            exact ⟨place, by simp [heq]⟩

/-- For all scripts that can be loaded, it is enough to look at every text once in either
language. -/
theorem loaded_of_texts {P : List Command → Prop} (h : ∀ e ∈ files.entries, ∀ text,
    e.2 = .file (some text) → ∀ format script, Script.ofText format text = .ok script →
      P script.commands) :
    ∀ path script, (Script.load files path).1 = .ok script → P script.commands := by
  intro path script hload
  obtain ⟨format, text, found, hread, htext, hscript⟩ := Script.load_eq_ok hload
  obtain ⟨place, hmem⟩ := mem_of_read hread
  rw [hscript]
  exact h _ hmem text rfl format found htext

end FileTree

namespace Setup

variable (setup : Setup σ)

/-! ## Paths -/

/-- The path that a command asks for, from the directory of its script. -/
def askedPath (c : Command) : Running σ String := do
  let args ← setup.arguments c
  Running.ofExcept (args.text 0 "path")

/-- Loads the script of a path. -/
def loadPath (deeper : Bool) (path : String) : Running σ Script := do
  Running.note .info ("include: " ++ path)
  if !deeper then
    throw (.script ("maximum include depth (" ++ Nat.repr maxIncludeDepth ++ ") exceeded"))
  let (loaded, warnings) := Script.load setup.files path
  Running.outside (Doing.notes (warnings.map (.warn, ·)))
  match loaded with
  | .ok script => return script
  | .error e => throw (.script ("failed to load include '" ++ path ++ "': " ++ e.message))

theorem loadInclude_eq (deeper : Bool) (directory : String) (c : Command) :
    setup.loadInclude deeper directory c
      = setup.askedPath c >>= fun path => setup.loadPath deeper (Path.join directory path) := by
  rw [loadInclude, askedPath, bind_assoc]
  rfl

/-- The note of an inclusion. -/
def inclusionNote (path : String) : Output := .note .info ("include: " ++ path)

/-- Why an inclusion is refused that is nested too deep. -/
def refusal : Error := .script "maximum include depth (10) exceeded"

/-- What comes of the inclusion of a path, where levels are left. -/
def inclusionOf (files : FileTree) (path : String) : Except Error Script :=
  match (Script.load files path).1 with
  | .ok script => .ok script
  | .error e => .error (.script ("failed to load include '" ++ path ++ "': " ++ e.message))

theorem loadPath_shallow (path : String) (p : Progress σ) :
    setup.loadPath false path p = (.error refusal, p.putting [inclusionNote path]) := rfl

theorem loadPath_deeper (path : String) (p : Progress σ) :
    ∃ pieces, setup.loadPath true path p = (inclusionOf setup.files path, p.putting pieces) := by
  unfold loadPath inclusionOf
  generalize Script.load setup.files path = loaded
  obtain ⟨result, warnings⟩ := loaded
  obtain ⟨pieces, hnotes⟩ := outside_notes (warnings.map (.warn, ·)) (p.putting [inclusionNote path])
  refine ⟨[inclusionNote path] ++ pieces, ?_⟩
  rw [← p.putting_putting]
  refine (Lockstep.bind_ok (t := p.putting [inclusionNote path]) rfl _).trans ?_
  refine (Lockstep.bind_ok hnotes _).trans ?_
  cases result with
  | ok script => rfl
  | error e => rfl

/-! ## Turns -/

section

variable {setup} {t : Turn σ} {path : String} {q : Progress σ} {script : Script} {e : Error}

theorem loading_of_asked (h : setup.askedPath t.command (setup.opening t) = (.ok path, q)) :
    setup.loading t = setup.loadPath (decide (0 < t.levels)) (Path.join t.directory path) q := by
  rw [loading, loadInclude_eq, Lockstep.bind_ok h]

theorem loading_of_unasked (h : setup.askedPath t.command (setup.opening t) = (.error e, q)) :
    setup.loading t = (.error e, q) := by
  rw [loading, loadInclude_eq, Lockstep.bind_error h]

/-- Where no levels are left, an inclusion fails and leaves nothing but its note. -/
theorem fate_refused (hname : t.command.name = "include") (hlevels : t.levels = 0)
    (h : setup.askedPath t.command (setup.opening t) = (.ok path, q)) :
    setup.fate t = .failed refusal ∧
      setup.closing t = q.putting [inclusionNote (Path.join t.directory path)] := by
  have hload := loading_of_asked h
  rw [hlevels] at hload
  unfold fate closing
  rw [if_pos hname, if_pos hname, hload]
  exact ⟨rfl, rfl⟩

/-- Where levels are left, the file says how an inclusion goes. -/
theorem fate_included (hname : t.command.name = "include") (hlevels : 0 < t.levels)
    (h : setup.askedPath t.command (setup.opening t) = (.ok path, q)) :
    setup.fate t = .ofLoading (inclusionOf setup.files (Path.join t.directory path)) ∧
      ∃ pieces, setup.closing t = q.putting pieces := by
  have hload := loading_of_asked h
  rw [decide_eq_true hlevels] at hload
  obtain ⟨pieces, hpath⟩ := setup.loadPath_deeper (Path.join t.directory path) q
  unfold fate closing
  rw [if_pos hname, if_pos hname, hload, hpath]
  exact ⟨rfl, pieces, rfl⟩

/-- A script that is loaded is the script of a file. -/
theorem load_of_loaded (h : setup.fate t = .loaded script) :
    ∃ path, (Script.load setup.files path).1 = .ok script := by
  obtain ⟨hname, -⟩ := loading_of_loaded h
  obtain ⟨r, q, hasked⟩ : ∃ r q, setup.askedPath t.command (setup.opening t) = (r, q) := ⟨_, _, rfl⟩
  cases r with
  | error e =>
    rw [fate, if_pos hname, loading_of_unasked hasked] at h
    cases h
  | ok path =>
    rw [(fate_included hname (levels_pos_of_loaded h) hasked).1, inclusionOf] at h
    cases hload : (Script.load setup.files (Path.join t.directory path)).1 with
    | error e => rw [hload] at h; cases h
    | ok found =>
      rw [hload] at h
      cases h
      exact ⟨_, hload⟩

end

end Setup

end PageScript
