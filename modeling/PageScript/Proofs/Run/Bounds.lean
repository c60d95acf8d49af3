import Mathlib.Algebra.Ring.GeomSum
import PageScript.Fake.Data
import PageScript.Library.Standard
import PageScript.Proofs.Run.Accounting
import PageScript.Proofs.Run.Inclusion

/-!
# Cyclic inclusions end

A run is no longer than a tree whose nodes have as many branches as a script has commands, and whose
depth is the number of levels.  So a run comes to its end however files include each other.  At the
last level inclusions are refused; above it, an inclusion whose file can be loaded runs all that is
in the file.
-/

namespace PageScript

variable {σ : Type}

/-- Scripts in files have no more commands than this. -/
def FileTree.AtMost (files : FileTree) (n : Nat) : Prop :=
  ∀ path script, (Script.load files path).1 = .ok script → script.commands.length ≤ n

/-- How many turns a command may take. -/
def turnWeight (n levels : Nat) : Nat := ∑ k ∈ Finset.range (levels + 1), n ^ k

theorem turnWeight_zero (n : Nat) : turnWeight n 0 = 1 := by
  simp [turnWeight]

/-- A command takes its own turn, and those of the commands that it includes. -/
theorem turnWeight_succ (n levels : Nat) :
    turnWeight n (levels + 1) = n * turnWeight n levels + 1 := geom_sum_succ

theorem turnWeight_pos (n levels : Nat) : 1 ≤ turnWeight n levels := by
  cases levels with
  | zero => rw [turnWeight_zero]
  | succ levels =>
    rw [turnWeight_succ]
    omega

theorem mul_turnWeight (n levels : Nat) :
    n * turnWeight n levels = ∑ k ∈ Finset.range (levels + 1), n ^ (k + 1) := by
  rw [turnWeight, Finset.mul_sum]
  exact Finset.sum_congr rfl fun k _ => (pow_succ' n k).symm

namespace Setup

variable {setup : Setup σ} {n : Nat}

namespace Takes

variable {levels depth : Nat} {directory : String} {cs : List Command} {p q : Progress σ}
  {ts : List (Turn σ)} {r : Except Error Unit}

/-- A run takes no more turns than its commands have weight. -/
theorem length_le (hfiles : setup.files.AtMost n)
    (h : setup.Takes levels depth directory cs p ts r q) :
    ts.length ≤ cs.length * turnWeight n levels := by
  have first {cs : List Command} {m w : Nat} (hw : 1 ≤ w) (h : m ≤ cs.length * w) :
      m + 1 ≤ (cs.length + 1) * w := by
    rw [Nat.succ_mul]
    omega
  -- the script that is included has a level less
  have inside {m k levels : Nat} (hm : m ≤ k * turnWeight n levels) (hk : k ≤ n) :
      m + 1 ≤ turnWeight n (levels + 1) := by
    rw [turnWeight_succ]
    have := Nat.mul_le_mul_right (turnWeight n levels) hk
    omega
  induction h with
  | nil => exact Nat.zero_le _
  | done ht hfate hrest ih => exact first (turnWeight_pos n _) ih
  | failed ht hfate herrors hrest ih => exact first (turnWeight_pos n _) ih
  | ended ht hfate herrors => exact first (turnWeight_pos n _) (Nat.zero_le _)
  | @loaded levels depth directory c cs p q s us ts r t script ht hfate hinside hrest ihinside ih =>
    obtain ⟨path, hload⟩ := load_of_loaded hfate
    have := inside ihinside (hfiles path script hload)
    rw [List.length_append, List.length_cons, List.length_cons, Nat.succ_mul]
    omega
  | @broken levels depth directory c cs p q us t script e ht hfate hinside ihinside =>
    obtain ⟨path, hload⟩ := load_of_loaded hfate
    have := inside ihinside (hfiles path script hload)
    rw [List.length_cons, List.length_cons, Nat.succ_mul]
    omega

/-- The script that an inclusion loads is met from its first command to its last, if the run comes
to its end. -/
theorem inside_commands (h : setup.Takes levels depth directory cs p ts r q)
    (herrors : setup.options.errors = false) {front back : List (Turn σ)} {t : Turn σ}
    (hsplit : ts = front ++ t :: back) {script : Script} (hfate : setup.fate t = .loaded script) :
    ∃ inside behind, back = inside ++ behind ∧ (∀ u ∈ inside, t.depth < u.depth) ∧
      (∀ u ∈ behind.head?, u.depth ≤ t.depth) ∧
      (inside.filter fun u => u.depth = t.depth + 1).map Turn.command = script.commands := by
  obtain ⟨inside, behind, hback, hfollowed⟩ := h.allFollowed front t back hsplit
  refine ⟨inside, behind, hback, hfollowed.deeper, hfollowed.after, ?_⟩
  have takes := setup.takes (t.levels - 1) (t.depth + 1) script.directory script.commands
    (setup.closing t)
  rw [takes.ok_of_patient herrors, ← hfollowed.loaded script hfate] at takes
  exact takes.commands_eq

end Takes

/-! ## Whole runs -/

/-- The turns of a run are bounded in number and in depth.  At the last depth inclusions are
refused, and above it they are not. -/
structure Bounded (setup : Setup σ) (n : Nat) (ts : List (Turn σ)) : Prop where
  length_le : ts.length ≤ ∑ k ∈ Finset.range 11, n ^ (k + 1)
  depth_le : ∀ t ∈ ts, t.depth ≤ 10
  /-- Whatever files there are, the inclusion fails behind its note, and no command of its file
  comes next. -/
  refused : ∀ front t back path q, ts = front ++ t :: back → t.depth = 10 →
    t.command.name = "include" →
    setup.askedPath t.command (setup.opening t) = (.ok path, q) →
    (∀ files, let other := { setup with files }
      other.fate t = .failed (.script "maximum include depth (10) exceeded") ∧
      other.closing t = q.putting [inclusionNote (Path.join t.directory path)]) ∧
    ∀ u ∈ back.head?, u.depth ≤ t.depth
  /-- If the run goes on behind failures, the commands of the file come next, and all of them. -/
  entered : setup.options.errors = false → ∀ front t back path q included,
    ts = front ++ t :: back → t.depth < 10 → t.command.name = "include" →
    setup.askedPath t.command (setup.opening t) = (.ok path, q) →
    (Script.load setup.files (Path.join t.directory path)).1 = .ok included →
    setup.fate t = .loaded included ∧
    ∃ inside behind, back = inside ++ behind ∧ (∀ u ∈ inside, t.depth < u.depth) ∧
      (∀ u ∈ behind.head?, u.depth ≤ t.depth) ∧
      (inside.filter fun u => u.depth = t.depth + 1).map Turn.command = included.commands

theorem Takes.bounded {directory : String} {cs : List Command} {p q : Progress σ}
    {ts : List (Turn σ)} {r : Except Error Unit} (hfiles : setup.files.AtMost n)
    (hcs : cs.length ≤ n) (h : setup.Takes maxIncludeDepth 0 directory cs p ts r q) :
    setup.Bounded n ts := by
  have depths (t) (ht : t ∈ ts) : t.depth + t.levels = 10 := by
    have := (h.depth_add_levels t ht).2
    rwa [maxIncludeDepth, Nat.zero_add] at this
  refine ⟨?_, fun t ht => ?_, ?_, ?_⟩
  · have weight := Nat.mul_le_mul_right (turnWeight n 10) hcs
    rw [mul_turnWeight] at weight
    exact (h.length_le hfiles).trans weight
  · have := depths t ht
    omega
  · intro front t back path q hsplit hdepth hname hasked
    have last : t.levels = 0 := by
      have := depths t (by simp [hsplit])
      omega
    refine ⟨fun files => fate_refused hname last hasked, fun u hu => ?_⟩
    have := depths u (by simp [hsplit, List.mem_of_mem_head? hu])
    omega
  · intro herrors front t back path q included hsplit hdepth hname hasked hload
    have levels : 0 < t.levels := by
      have := depths t (by simp [hsplit])
      omega
    have loaded : setup.fate t = .loaded included := by
      rw [(fate_included hname levels hasked).1, inclusionOf, hload]
      rfl
    exact ⟨loaded, h.inside_commands herrors hsplit loaded⟩

/-- However files include each other, a run comes to its end, and it has met no more commands than
a tree of this depth and breadth has. -/
theorem inclusions_end (setup : Setup σ) (n : Nat) (hfiles : setup.files.AtMost n)
    (script : Script) (hscript : script.commands.length ≤ n) (world : World σ) :
    (∃ r p, setup.run script world = .of (r, p) ∧
      p.index = (setup.scriptTurns script world).length) ∧
    setup.Bounded n (setup.scriptTurns script world) := by
  obtain ⟨r, p, hrun, takes⟩ := setup.run_takes script world
  refine ⟨⟨r, p, hrun, ?_⟩, takes.bounded hfiles hscript⟩
  rw [takes.index_eq]
  exact Nat.zero_add _

end Setup

/-! ## A file that includes itself -/

/-- The text of a file that includes itself. -/
def loopText : String := "[\x7b\"include\": \"loop.json\"\x7d]"

/-- A setup with this file only, and a browser that fails every call. -/
def loopSetup : Setup Unit where
  session := ⟨.usual, fun _ => .running, fun _ _ => ⟨.error .sessionStopped, [], ()⟩⟩
  registry := Library.standard
  fake := Fake.generate
  options := .usual
  files := ⟨["home"], [(["home"], .directory), (["home", "loop.json"], .file (some loopText))]⟩

/-- A script that includes the file. -/
def loopScript : Script := ⟨[⟨"include", some (.text "loop.json")⟩], none⟩

/-- A world in which nothing has happened. -/
def idleWorld : World Unit := ⟨(), .still⟩

/-- Ten inclusions go deeper, and the next one is refused. -/
theorem inclusions_end_looping :
    loopSetup.files.AtMost 1 ∧ loopScript.commands.length ≤ 1 ∧
      loopSetup.Bounded 1 (loopSetup.scriptTurns loopScript idleWorld) ∧
      (loopSetup.run loopScript idleWorld).result.toOption.map
          (·.failures.map fun f => (f.index, f.error))
        = some [(11, "script error: maximum include depth (10) exceeded")] := by
  have single : loopSetup.files.AtMost 1 := by
    refine FileTree.loaded_of_texts (P := fun cs => cs.length ≤ 1)
      fun e he text htext format script hscript => ?_
    simp [loopSetup] at he
    rcases he with rfl | rfl
    · cases htext
    · cases htext
      have counts : ∀ format, (Script.ofText format loopText).toOption.map (·.commands.length)
          = some 1 := by
        rintro (_ | _) <;> decide +kernel
      have count := counts format
      rw [hscript] at count
      exact Nat.le_of_eq (Option.some.inj count)
  refine ⟨single, Nat.le_refl 1, ?_, by decide +kernel⟩
  exact (loopSetup.inclusions_end 1 single loopScript (Nat.le_refl 1) idleWorld).2

end PageScript
