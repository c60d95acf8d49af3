import Mathlib.Data.String.Basic
import PageScript.Proofs.Expression.Growth
import PageScript.Proofs.Run.Lockstep
import PageScript.Proofs.Text.Splitting
import PageScript.Run.Commands

/-!
# Imports as a whole

A specification that is the name of a module names all its functions, each under the name of the
module, a dot and its own name.  Any other specification names one function: what stands behind its
last dot is the function, and what stands in front is its module (`Importing.Names`).

An import takes everything that is named or nothing at all.  What it gives back is what the
namespace has in addition, in order, and a second import of the same adds nothing
(`Setup.importValue_all_or_nothing`).
-/

namespace PageScript

/-! ## The functions of a module -/

theorem nodup_eraseDups (names : List String) : names.eraseDups.Nodup := by
  match names with
  | [] => simp
  | name :: rest =>
    rw [List.eraseDups_cons, List.nodup_cons]
    exact ⟨by simp, nodup_eraseDups _⟩
termination_by names.length
decreasing_by exact Nat.lt_succ_of_le (List.length_filter_le _ _)

theorem lookup_eq_some_iff_mem {α : Type} {entries : List (String × α)}
    (h : (entries.map (·.1)).Nodup) {name : String} {a : α} :
    entries.lookup name = some a ↔ (name, a) ∈ entries := by
  induction entries with
  | nil => simp
  | cons entry rest ih =>
    obtain ⟨key, b⟩ := entry
    obtain ⟨hkey, hrest⟩ := List.nodup_cons.mp h
    by_cases hname : name = key
    · subst hname
      have elsewhere : (name, a) ∉ rest := fun hmem => hkey (List.mem_map.mpr ⟨_, hmem, rfl⟩)
      simp [elsewhere, eq_comm]
    · simp [List.lookup_cons, beq_eq_false_iff_ne.mpr hname, hname, ih hrest]

namespace Module

variable {m : Module} {name : String}

/-- The names of the functions are listed in order. -/
theorem functionNames_sorted (m : Module) : m.functionNames.Pairwise (· < ·) := by
  have sorted : m.functionNames.Pairwise (· ≤ ·) := by
    have := @List.pairwise_mergeSort _ (fun a b : String => decide (a ≤ b))
      (by simpa using fun a b c => le_trans) (by simpa using le_total)
      (m.functions.map (·.1)).eraseDups
    simpa [functionNames] using this
  have distinct : m.functionNames.Nodup :=
    (List.mergeSort_perm _ _).nodup_iff.mpr (nodup_eraseDups _)
  exact sorted.imp₂ (fun a b => lt_of_le_of_ne) distinct

theorem mem_functionNames {f : Callable} (h : m.function? name = some f) :
    name ∈ m.functionNames := by
  obtain ⟨front, back, heq, -⟩ := List.lookup_eq_some_iff.mp h
  rw [functionNames, List.mem_mergeSort, List.mem_eraseDups, heq]
  simp

end Module

theorem Registry.name_of_module? {r : Registry} {name : String} {m : Module}
    (h : r.module? name = some m) : m.name = name := by
  simpa using List.find?_some h

theorem append_lt_append (front : String) {a b : String} (h : a < b) : front ++ a < front ++ b := by
  rw [String.lt_iff_toList_lt] at *
  simpa using List.append_left_lt h

/-! ## What a specification names -/

namespace Importing

/-- What a specification names: functions, and the names to import them under. -/
inductive Names (r : Registry) (spec : String) : String → Callable → Prop
  | ofModule {m : Module} {name : String} {f : Callable}
      (module : r.module? spec = some m) (function : m.function? name = some f) :
      Names r spec (spec ++ "." ++ name) f
  | ofFunction {moduleName name : String} {m : Module} {f : Callable}
      (whole : r.module? spec = none) (parts : spec = moduleName ++ "." ++ name)
      (plain : '.' ∉ name.toList) (module : r.module? moduleName = some m)
      (function : m.function? name = some f) :
      Names r spec name f

/-- The specification is the name of a module, if only of an empty one, or that of a function. -/
def Known (r : Registry) (spec : String) : Prop :=
  (r.module? spec).isSome ∨ ∃ name f, Names r spec name f

/-- The functions that a specification names, by name and in order. -/
structure Lists (r : Registry) (spec : String) (functions : List (String × Callable)) : Prop where
  sorted : (functions.map (·.1)).Pairwise (· < ·)
  mem_iff : ∀ name f, (name, f) ∈ functions ↔ Names r spec name f

variable {r : Registry} {spec : String} {m : Module}

/-- Whatever a module's name could mean besides, it means the module. -/
theorem names_iff_of_module (h : r.module? spec = some m) {name : String} {f : Callable} :
    Names r spec name f ↔ ∃ own, m.function? own = some f ∧ name = spec ++ "." ++ own := by
  constructor
  · intro hnames
    cases hnames with
    | ofModule module function =>
      cases h.symm.trans module
      exact ⟨_, function, rfl⟩
    | ofFunction whole => simp [h] at whole
  · rintro ⟨own, hown, rfl⟩
    exact .ofModule h hown

/-- Any other specification is split at its last dot. -/
theorem names_iff_of_split (whole : r.module? spec = none) {name : String} {f : Callable} :
    Names r spec name f ↔ ∃ front back, Text.splitLast '.' spec.toList = some (front, back) ∧
      name = String.ofList back ∧ r.function? (String.ofList front) name = some f := by
  constructor
  · intro hnames
    cases hnames with
    | ofModule module => simp [whole] at module
    | @ofFunction moduleName _ m _ _ parts plain module function =>
      have found : r.function? moduleName name = some f := by
        simp [Registry.function?, module, function]
      refine ⟨moduleName.toList, name.toList, ?_, by simp, by simpa using found⟩
      rw [Text.splitLast_eq_some_iff, parts]
      exact ⟨by simp, plain⟩
  · rintro ⟨front, back, hsplit, rfl, hf⟩
    obtain ⟨hspec, hback⟩ := Text.splitLast_eq_some_iff.mp hsplit
    obtain ⟨m, hm, hfunction⟩ := Option.bind_eq_some_iff.mp hf
    refine .ofFunction whole (String.ext ?_) (by simpa using hback) hm hfunction
    rw [hspec]
    simp

theorem lists_qualified (h : r.module? spec = some m) : Lists r spec (qualified m) := by
  have hname := Registry.name_of_module? h
  refine ⟨?_, fun name f => ?_⟩
  · -- the names stand behind one and the same beginning, so they stay in order
    rw [qualified, List.pairwise_map, List.pairwise_filterMap]
    refine m.functionNames_sorted.imp fun hlt g hg g' hg' => ?_
    obtain ⟨f, -, rfl⟩ := Option.map_eq_some_iff.mp hg
    obtain ⟨f', -, rfl⟩ := Option.map_eq_some_iff.mp hg'
    exact append_lt_append _ hlt
  · rw [names_iff_of_module h, qualified, List.mem_filterMap, hname]
    constructor
    · rintro ⟨own, -, hown⟩
      obtain ⟨g, hg, heq⟩ := Option.map_eq_some_iff.mp hown
      cases heq
      exact ⟨own, hg, rfl⟩
    · rintro ⟨own, hown, rfl⟩
      exact ⟨own, Module.mem_functionNames hown, by rw [hown]; rfl⟩

theorem lists_single (whole : r.module? spec = none) {front back : List Char} {f : Callable}
    (hsplit : Text.splitLast '.' spec.toList = some (front, back))
    (hf : r.function? (String.ofList front) (String.ofList back) = some f) :
    Lists r spec [(String.ofList back, f)] := by
  refine ⟨by simp, fun name g => ?_⟩
  rw [names_iff_of_split whole, List.mem_singleton, Prod.mk.injEq]
  constructor
  · rintro ⟨rfl, rfl⟩
    exact ⟨front, back, hsplit, rfl, hf⟩
  · rintro ⟨_, _, same, rfl, hg⟩
    cases hsplit.symm.trans same
    exact ⟨rfl, Option.some.inj (hg.symm.trans hf)⟩

/-- What is found is what the specification names; nothing is found if it is not known. -/
theorem find_spec (r : Registry) (spec : String) :
    (¬Known r spec ∧ ∃ t, find r spec = .error (.lookup t)) ∨
      (Known r spec ∧ ∃ functions, find r spec = .ok functions ∧ Lists r spec functions) := by
  unfold find
  cases whole : r.module? spec with
  | some m => exact .inr ⟨.inl (by simp [whole]), _, rfl, lists_qualified whole⟩
  | none =>
    have known : Known r spec ↔ ∃ name f, Names r spec name f := by simp [Known, whole]
    simp only [known, names_iff_of_split whole]
    cases hsplit : Text.splitLast '.' spec.toList with
    | none => exact .inl ⟨by simp, _, rfl⟩
    | some parts =>
      obtain ⟨front, back⟩ := parts
      cases hm : r.module? (String.ofList front) with
      | none => exact .inl ⟨by simp [Registry.function?, hm], _, by simp only [hm]; rfl⟩
      | some m =>
        have own : r.function? (String.ofList front) (String.ofList back)
            = m.function? (String.ofList back) := by
          simp [Registry.function?, hm]
        cases hf : m.function? (String.ofList back) with
        | none =>
          refine .inl ⟨?_, _, by simp only [hm, hf]; rfl⟩
          simp [own, hf]
        | some f =>
          have found := own.trans hf
          refine .inr ⟨⟨_, f, front, back, rfl, rfl, found⟩, [(String.ofList back, f)], ?_, ?_⟩
          · simp only [hm, hf]
          · exact lists_single whole hsplit found

/-! ## What an import adds -/

variable {ns : Namespace} {functions : List (String × Callable)}

/-- What an import of a known specification does.  Of the names that it gives back, and of all that
were there before, the namespace tells which functions they call. -/
structure Imported (r : Registry) (spec : String) (before : Namespace) (names : List String)
    (after : Namespace) : Prop where
  /-- What is given back are the names that are there in addition. -/
  difference : after.importedNames.Perm (before.importedNames ++ names)
  mem_iff : ∀ name, name ∈ names ↔ before.isImported name = false ∧ ∃ f, Names r spec name f
  sorted : names.Pairwise (· < ·)
  named : ∀ name f, Names r spec name f → after.isImported name = true ∧
    (name ∈ names → after.call name = f)
  kept : ∀ name, before.isImported name = true →
    after.isImported name = true ∧ after.call name = before.call name
  journal : after.journal = before.journal

namespace Lists

variable (h : Lists r spec functions)
include h

theorem lookup_iff {name : String} {f : Callable} :
    functions.lookup name = some f ↔ Names r spec name f := by
  have distinct : (functions.map (·.1)).Nodup := h.sorted.imp fun hlt => ne_of_lt hlt
  rw [lookup_eq_some_iff_mem distinct, h.mem_iff]

/-- The new ones among the named functions are those that were not imported before. -/
theorem mem_fresh_iff {name : String} {f : Callable} :
    (name, f) ∈ fresh ns functions ↔ ns.isImported name = false ∧ Names r spec name f := by
  obtain ⟨distinct, new⟩ := fresh_new ns functions
  constructor
  · intro hmem
    have absent : ns.function? name = none := new _ hmem
    exact ⟨by simp [Namespace.isImported, absent], (h.mem_iff _ _).mp (mem_of_mem_fresh hmem)⟩
  · rintro ⟨hold, hnames⟩
    have absent : ns.function? name = none := by simpa [Namespace.isImported] using hold
    have found := function?_fresh ns functions name
    rw [Namespace.function?_grown, absent, h.lookup_iff.mpr hnames] at found
    exact (lookup_eq_some_iff_mem distinct).mp found

theorem imported (ns : Namespace) :
    Imported r spec ns ((fresh ns functions).map (·.1)) (ns.grown (fresh ns functions) []) where
  difference := by
    simp only [Namespace.importedNames, Namespace.grown, List.map_append]
    exact (List.mergeSort_perm _ _).trans ((List.mergeSort_perm _ _).symm.append_right _)
  mem_iff name := by
    simp [h.mem_fresh_iff]
  sorted := h.sorted.sublist ((fresh_sublist ns functions).map _)
  named name f hnames := by
    have found := function?_fresh ns functions name
    rw [h.lookup_iff.mpr hnames] at found
    refine ⟨by rw [Namespace.isImported, found]; simp, fun hmem => ?_⟩
    obtain ⟨absent, -⟩ : ns.function? name = none ∧ _ := by
      simpa [h.mem_fresh_iff, Namespace.isImported] using hmem
    funext args
    rw [Namespace.call, found, absent]
    rfl
  kept name hold := by
    obtain ⟨f, hf⟩ := Option.isSome_iff_exists.mp hold
    have stays : (ns.grown (fresh ns functions) []).function? name = some f :=
      Namespace.extends_grown.function name f hf
    refine ⟨by rw [Namespace.isImported, stays]; rfl, ?_⟩
    funext args
    rw [Namespace.call, Namespace.call, stays, hf]
  journal := by simp [Namespace.grown]

/-- Behind an import nothing is left to be imported by it. -/
theorem fresh_again (ns : Namespace) : fresh (ns.grown (fresh ns functions) []) functions = [] := by
  refine fresh_eq_nil fun g hg => ?_
  exact ((h.imported ns).named g.1 g.2 ((h.mem_iff g.1 g.2).mp hg)).1

end Lists

/-- An import of a specification that is known, and what a second import of it does. -/
theorem importSpec_known {text : String} (hspec : Text.trimmed text ≠ "")
    (hfind : find r (Text.trimmed text) = .ok functions)
    (h : Lists r (Text.trimmed text) functions) (ns : Namespace) :
    ∃ names after, importSpec r text ns = .ok (names, after) ∧
      Imported r (Text.trimmed text) ns names after ∧
      importSpec r text after = .ok ([], after) := by
  refine ⟨_, _, importSpec_found ns hspec hfind, h.imported ns, ?_⟩
  rw [importSpec_found _ hspec hfind, h.fresh_again ns, Namespace.grown_nil]
  rfl

end Importing

/-! ## The import of a value -/

namespace Setup

variable {σ : Type} {setup : Setup σ} {v : Value} {text : String} {p : Progress σ}

theorem importValue_ok (htext : v.scalarText = some text) {names : List String} {after : Namespace}
    (h : Importing.importSpec setup.registry text p.names = .ok (names, after)) :
    setup.importValue v p = (.ok (), { p with names := after }) := by
  have looked : (get : Running σ (Progress σ)) p = (.ok p, p) := rfl
  rw [importValue, htext]
  dsimp only
  rw [Lockstep.bind_ok looked, h]
  rfl

theorem importValue_error (htext : v.scalarText = some text) {e : Error}
    (h : Importing.importSpec setup.registry text p.names = .error e) :
    setup.importValue v p = (.error e, p) := by
  have looked : (get : Running σ (Progress σ)) p = (.ok p, p) := rfl
  rw [importValue, htext]
  dsimp only
  rw [Lockstep.bind_ok looked, h]
  rfl

/-- An import takes all that its specification names, or it fails and changes nothing.  What it
gives back are the names that can be called from then on, in order.  A second import of the same
finds nothing to add. -/
theorem importValue_all_or_nothing (setup : Setup σ) (text : String) (p : Progress σ) :
    let spec := Text.trimmed text
    let imported := Importing.importSpec setup.registry text p.names
    let done := setup.importValue (.text text) p
    (spec = "" ∧ ∃ t, imported = .error (.argument t) ∧ done = (.error (.argument t), p)) ∨
    (spec ≠ "" ∧ ¬Importing.Known setup.registry spec ∧
      ∃ t, imported = .error (.lookup t) ∧ done = (.error (.lookup t), p)) ∨
    (spec ≠ "" ∧ Importing.Known setup.registry spec ∧
      ∃ names after, imported = .ok (names, after) ∧ done = (.ok (), { p with names := after }) ∧
        Importing.Imported setup.registry spec p.names names after ∧
        Importing.importSpec setup.registry text after = .ok ([], after)) := by
  intro spec imported done
  by_cases hspec : spec = ""
  · have refused := Importing.importSpec_blank setup.registry p.names hspec
    exact .inl ⟨hspec, _, refused, importValue_error rfl refused⟩
  · rcases Importing.find_spec setup.registry spec with ⟨unknown, t, hfind⟩ | ⟨known, fs, hfind, h⟩
    · have refused := Importing.importSpec_unknown p.names hspec hfind
      exact .inr (.inl ⟨hspec, unknown, t, refused, importValue_error rfl refused⟩)
    · obtain ⟨names, after, hok, himported, again⟩ :=
        Importing.importSpec_known hspec hfind h p.names
      exact .inr (.inr ⟨hspec, known, names, after, hok, importValue_ok rfl hok, himported, again⟩)

end Setup

end PageScript
