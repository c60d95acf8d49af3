import PageScript.Expression.Importing
import PageScript.Value.Text

/-!
# Namespaces grow

A namespace only ever grows: functions are imported behind those that are there, under names that
are new, and entries are recorded behind those that are there.  Whatever could be called or read
before is called or read as before (`Namespace.Extends`).

`Importing.fresh` and `Importing.additions` say which functions an import adds.  Of two functions
with one name the first counts.
-/

namespace PageScript

namespace Namespace

variable {ns : Namespace} {added more : List (String × Callable)}
  {entries others : List (String × Value)}

/-! ## More imports, more entries -/

/-- The namespace with more imports and more entries. -/
def grown (ns : Namespace) (added : List (String × Callable)) (entries : List (String × Value)) :
    Namespace :=
  ⟨ns.imported ++ added, ns.journal ++ entries⟩

@[simp] theorem grown_nil : ns.grown [] [] = ns := by
  simp [grown]

@[simp] theorem grown_grown :
    (ns.grown added entries).grown more others = ns.grown (added ++ more) (entries ++ others) := by
  simp [grown]

theorem record_eq_grown (tag : String) (v : Value) : ns.record tag v = ns.grown [] [(tag, v)] := by
  simp [record, grown]

theorem history_grown (tag : String) :
    (ns.grown added entries).history tag
      = ns.history tag ++ entries.filterMap fun (t, v) => if t = tag then some v else none := by
  simp [grown, history]

theorem function?_grown (name : String) :
    (ns.grown added entries).function? name = (ns.function? name).or (added.lookup name) := by
  simp [grown, function?, List.lookup_append]

/-- Functions under names that are new, each once. -/
structure New (ns : Namespace) (added : List (String × Callable)) : Prop where
  distinct : (added.map (·.1)).Nodup
  new : ∀ g ∈ added, ns.function? g.1 = none

theorem New.append (h : ns.New added) (h' : (ns.grown added entries).New more) :
    ns.New (added ++ more) := by
  have apart (g) (hg : g ∈ more) : ns.function? g.1 = none ∧ added.lookup g.1 = none := by
    have := h'.new g hg
    rwa [function?_grown, Option.or_eq_none_iff] at this
  refine ⟨?_, fun g hg => ?_⟩
  · rw [List.map_append, List.nodup_append]
    refine ⟨h.distinct, h'.distinct, fun x hx y hy hxy => ?_⟩
    obtain ⟨g, hg, rfl⟩ := List.mem_map.mp hx
    obtain ⟨g', hg', rfl⟩ := List.mem_map.mp hy
    have := List.lookup_eq_none_iff.mp (apart g' hg').2 g hg
    simp [hxy] at this
  · rcases List.mem_append.mp hg with hg | hg
    · exact h.new g hg
    · exact (apart g hg).1

/-! ## What stays -/

/-- Later than `before`, every history goes on from where it was, and what was imported calls the
same function. -/
structure Extends (before after : Namespace) : Prop where
  history : ∀ tag, before.history tag <+: after.history tag
  function : ∀ name f, before.function? name = some f → after.function? name = some f

theorem extends_grown : ns.Extends (ns.grown added entries) where
  history tag := by simp [history_grown]
  function name f h := by simp [function?_grown, h]

namespace Extends

variable {before between after : Namespace}

theorem refl (ns : Namespace) : ns.Extends ns := ⟨fun _ => List.prefix_refl _, fun _ _ h => h⟩

theorem trans (h : before.Extends between) (h' : between.Extends after) : before.Extends after :=
  ⟨fun tag => (h.history tag).trans (h'.history tag),
    fun name f hf => h'.function name f (h.function name f hf)⟩

/-- An entry that can be read keeps its value. -/
theorem lookup (h : before.Extends after) {tag : String} {index : Nat} {v : Value}
    (hv : before.lookup tag index = .ok v) : after.lookup tag index = .ok v := by
  have found : (before.history tag)[index]? = some v := by
    unfold Namespace.lookup at hv
    cases hfound : (before.history tag)[index]? with
    | some w => simpa [hfound] using hv
    | none =>
      simp only [hfound] at hv
      split at hv <;> cases hv
  obtain ⟨more, hmore⟩ := h.history tag
  have stays : (after.history tag)[index]? = some v := by
    rw [← hmore, List.getElem?_append_left (List.getElem?_eq_some_iff.mp found).1, found]
  simp [Namespace.lookup, stays]

end Extends

end Namespace

/-! ## Imports -/

/-- The function stands in a module of the registry. -/
def Registry.Offers (r : Registry) (f : Callable) : Prop :=
  ∃ m ∈ r.modules, ∃ name, (name, f) ∈ m.functions

theorem Registry.offers_of_function? {r : Registry} {name other : String} {m : Module}
    {f : Callable} (hm : r.module? name = some m) (hf : m.function? other = some f) :
    r.Offers f := by
  obtain ⟨front, back, heq, -⟩ := List.lookup_eq_some_iff.mp hf
  exact ⟨m, List.mem_of_find?_eq_some hm, other, by rw [heq]; simp⟩

namespace Importing

variable {ns : Namespace} {functions : List (String × Callable)}

/-- Those of functions in order that are new under their names. -/
def fresh (ns : Namespace) : List (String × Callable) → List (String × Callable)
  | [] => []
  | (name, f) :: rest =>
    if ns.isImported name then fresh ns rest else (name, f) :: fresh (ns.addImport name f) rest

theorem addImport_of_imported {name : String} (f : Callable) (h : ns.isImported name = true) :
    ns.addImport name f = ns := if_pos h

theorem addImport_of_new {name : String} (f : Callable) (h : ns.isImported name = false) :
    ns.addImport name f = ns.grown [(name, f)] [] := by
  simp [Namespace.addImport, Namespace.grown, h]

theorem addAll_eq (ns : Namespace) (functions : List (String × Callable)) :
    addAll ns functions
      = ((fresh ns functions).map (·.1), ns.grown (fresh ns functions) []) := by
  induction functions generalizing ns with
  | nil => simp [addAll, fresh]
  | cons g rest ih =>
    obtain ⟨name, f⟩ := g
    cases h : ns.isImported name with
    | true => simp [addAll, fresh, h, addImport_of_imported f h, ih]
    | false => simp [addAll, fresh, h, addImport_of_new f h, ih]

/-- The first function of a name counts, and before it the one that is imported. -/
theorem function?_fresh (ns : Namespace) (functions : List (String × Callable)) (name : String) :
    (ns.grown (fresh ns functions) []).function? name
      = (ns.function? name).or (functions.lookup name) := by
  induction functions generalizing ns with
  | nil => simp [fresh]
  | cons g rest ih =>
    obtain ⟨first, f⟩ := g
    cases h : ns.isImported first with
    | true =>
      rw [fresh, if_pos h, ih]
      by_cases hname : name = first
      · obtain ⟨g, hg⟩ := Option.isSome_iff_exists.mp h
        simp [hname, hg]
      · simp [List.lookup_cons, beq_eq_false_iff_ne.mpr hname]
    | false =>
      have step : ns.grown (fresh ns ((first, f) :: rest)) []
          = (ns.grown [(first, f)] []).grown (fresh (ns.grown [(first, f)] []) rest) [] := by
        simp [fresh, h, addImport_of_new f h]
      have cons : ((first, f) :: rest).lookup name
          = ([(first, f)].lookup name).or (rest.lookup name) := by
        rw [← List.lookup_append]
        rfl
      rw [step, ih, Namespace.function?_grown, cons, Option.or_assoc]

theorem fresh_new (ns : Namespace) (functions : List (String × Callable)) :
    ns.New (fresh ns functions) := by
  induction functions generalizing ns with
  | nil => exact ⟨.nil, nofun⟩
  | cons g rest ih =>
    obtain ⟨name, f⟩ := g
    cases h : ns.isImported name with
    | true =>
      rw [fresh, if_pos h]
      exact ih ns
    | false =>
      have first : ns.New [(name, f)] := ⟨by simp, by simpa [Namespace.isImported] using h⟩
      simpa [fresh, h, addImport_of_new f h] using first.append (ih _)

theorem fresh_sublist (ns : Namespace) (functions : List (String × Callable)) :
    (fresh ns functions).Sublist functions := by
  induction functions generalizing ns with
  | nil => exact .slnil
  | cons first rest ih =>
    rw [fresh]
    split
    · exact (ih _).cons _
    · exact (ih _).cons_cons _

/-- Of functions that are imported under their names there is nothing to add. -/
theorem fresh_eq_nil (h : ∀ g ∈ functions, ns.isImported g.1 = true) : fresh ns functions = [] := by
  induction functions with
  | nil => rfl
  | cons g rest ih =>
    rw [fresh, if_pos (h g List.mem_cons_self)]
    exact ih fun g' hg' => h g' (List.mem_cons_of_mem _ hg')

theorem mem_of_mem_fresh {g : String × Callable} (h : g ∈ fresh ns functions) :
    g ∈ functions :=
  (fresh_sublist ns functions).subset h

/-- What is found stands in the registry. -/
theorem offers_of_find {r : Registry} {spec : String} (h : find r spec = .ok functions) :
    ∀ g ∈ functions, r.Offers g.2 := by
  unfold find at h
  dsimp only at h
  split at h
  · next m hm =>
    cases h
    intro g hg
    obtain ⟨name, -, hname⟩ := List.mem_filterMap.mp hg
    obtain ⟨f, hf, rfl⟩ := Option.map_eq_some_iff.mp hname
    exact Registry.offers_of_function? hm hf
  · split at h
    · cases h
    · split at h
      · cases h
      · next m hm =>
        split at h
        · next f hf =>
          cases h
          intro g hg
          rw [List.mem_singleton.mp hg]
          exact Registry.offers_of_function? hm hf
        · cases h

/-! ## Values to import -/

/-- The functions that a value names. -/
def named? (r : Registry) (v : Value) : Option (List (String × Callable)) := do
  let spec := Text.trimmed (← v.scalarText)
  if spec.isEmpty then none else (find r spec).toOption

theorem offers_of_named? {r : Registry} {v : Value} (h : named? r v = some functions) :
    ∀ g ∈ functions, r.Offers g.2 := by
  simp only [named?, Option.bind_eq_bind, Option.bind_eq_some_iff] at h
  obtain ⟨spec, -, hspec⟩ := h
  split at hspec
  · cases hspec
  · cases hfind : find r (Text.trimmed spec) with
    | error e =>
      rw [hfind] at hspec
      cases hspec
    | ok found =>
      rw [hfind] at hspec
      cases hspec
      exact offers_of_find hfind

/-- What values import in order, up to the first that names no function. -/
def additions (r : Registry) : List Value → Namespace → List (String × Callable)
  | [], _ => []
  | v :: vs, ns =>
    match named? r v with
    | none => []
    | some functions =>
      fresh ns functions ++ additions r vs (ns.grown (fresh ns functions) [])

theorem additions_new (r : Registry) (vs : List Value) (ns : Namespace) :
    ns.New (additions r vs ns) := by
  induction vs generalizing ns with
  | nil => exact ⟨.nil, nofun⟩
  | cons v vs ih =>
    rw [additions]
    cases named? r v with
    | none => exact ⟨.nil, nofun⟩
    | some functions => exact (fresh_new ns functions).append (ih _)

theorem offers_of_additions {r : Registry} {vs : List Value} {g : String × Callable}
    (h : g ∈ additions r vs ns) : r.Offers g.2 := by
  induction vs generalizing ns with
  | nil => cases h
  | cons v vs ih =>
    rw [additions] at h
    cases hnamed : named? r v with
    | none =>
      rw [hnamed] at h
      cases h
    | some functions =>
      rw [hnamed] at h
      rcases List.mem_append.mp h with h | h
      · exact offers_of_named? hnamed g (mem_of_mem_fresh h)
      · exact ih h

theorem importSpec_blank (r : Registry) (ns : Namespace) {text : String}
    (hspec : Text.trimmed text = "") :
    importSpec r text ns = .error (.argument "import requires a module name") := by
  simp [importSpec, hspec]

theorem importSpec_unknown (ns : Namespace) {r : Registry} {text : String}
    (hspec : Text.trimmed text ≠ "") {e : Error} (hfind : find r (Text.trimmed text) = .error e) :
    importSpec r text ns = .error e := by
  simp [importSpec, hspec, hfind]

theorem importSpec_found (ns : Namespace) {r : Registry} {text : String}
    (hspec : Text.trimmed text ≠ "") (hfind : find r (Text.trimmed text) = .ok functions) :
    importSpec r text ns
      = .ok ((fresh ns functions).map (·.1), ns.grown (fresh ns functions) []) := by
  simp [importSpec, hspec, hfind, addAll_eq]

/-- An import adds functions of the registry and nothing else. -/
theorem importSpec_offers {r : Registry} {spec : String} {names : List String} {after : Namespace}
    (h : importSpec r spec ns = .ok (names, after)) :
    ∃ added, after = ns.grown added [] ∧ ∀ g ∈ added, r.Offers g.2 := by
  by_cases hspec : Text.trimmed spec = ""
  · rw [importSpec_blank r ns hspec] at h
    cases h
  · cases hfind : find r (Text.trimmed spec) with
    | error e =>
      rw [importSpec_unknown ns hspec hfind] at h
      cases h
    | ok functions =>
      rw [importSpec_found ns hspec hfind] at h
      cases h
      exact ⟨_, rfl, fun g hg => offers_of_find hfind g (mem_of_mem_fresh hg)⟩

/-- An import adds the functions that are new. -/
theorem importSpec_named (ns : Namespace) {r : Registry} {v : Value} {spec : String}
    {functions : List (String × Callable)} (hspec : v.scalarText = some spec)
    (h : named? r v = some functions) :
    importSpec r spec ns = .ok ((fresh ns functions).map (·.1), ns.grown (fresh ns functions) []) := by
  by_cases hempty : Text.trimmed spec = ""
  · simp [named?, hspec, hempty] at h
  · cases hfind : find r (Text.trimmed spec) with
    | error e => simp [named?, hspec, hfind, Except.toOption] at h
    | ok found =>
      have same : found = functions := by
        simpa [named?, hspec, hempty, hfind, Except.toOption] using h
      rw [importSpec_found ns hempty hfind, same]

theorem importSpec_unnamed (ns : Namespace) {r : Registry} {v : Value} {spec : String}
    (hspec : v.scalarText = some spec) (h : named? r v = none) :
    ∃ e, importSpec r spec ns = .error e := by
  by_cases hempty : Text.trimmed spec = ""
  · exact ⟨_, importSpec_blank r ns hempty⟩
  · cases hfind : find r (Text.trimmed spec) with
    | error e => exact ⟨e, importSpec_unknown ns hempty hfind⟩
    | ok found => simp [named?, hspec, hempty, hfind, Except.toOption] at h

/-! ## The beginning of a run -/

theorem lookup_filterMap {α β : Type} (f : α → Option β) {xs : List (String × α)}
    (h : (xs.map (·.1)).Nodup) (name : String) :
    (xs.filterMap fun (key, x) => (f x).map (key, ·)).lookup name = (xs.lookup name).bind f := by
  induction xs with
  | nil => rfl
  | cons x xs ih =>
    obtain ⟨key, x⟩ := x
    obtain ⟨hkey, hxs⟩ := List.nodup_cons.mp h
    have absent (hname : name = key) : xs.lookup name = none := by
      refine List.lookup_eq_none_iff.mpr fun y hy => ?_
      have : y.1 ≠ key := fun heq => hkey (List.mem_map.mpr ⟨y, hy, heq⟩)
      simpa [hname] using this.symm
    cases hf : f x with
    | none =>
      by_cases hname : name = key
      · simp [hf, ih hxs, absent hname]
        simp [hname, hf]
      · simp [hf, ih hxs, List.lookup_cons, beq_eq_false_iff_ne.mpr hname]
    | some y =>
      by_cases hname : name = key
      · simp [hf, hname]
      · simp [hf, ih hxs, List.lookup_cons, beq_eq_false_iff_ne.mpr hname]

/-- The usual imports are functions of the registry. -/
theorem withUsual_offers (r : Registry) (ns : Namespace) :
    ∃ added, withUsual r ns = ns.grown added [] ∧ ∀ g ∈ added, r.Offers g.2 := by
  refine ⟨_, by rw [withUsual, addAll_eq], fun g hg => ?_⟩
  obtain ⟨⟨name, module, function⟩, -, hmap⟩ := List.mem_filterMap.mp (mem_of_mem_fresh hg)
  obtain ⟨f, hf, rfl⟩ := Option.map_eq_some_iff.mp hmap
  obtain ⟨m, hm, hfunction⟩ := Option.bind_eq_some_iff.mp hf
  exact Registry.offers_of_function? hm hfunction

/-- A run begins with those usual imports that the registry has. -/
theorem function?_withUsual (r : Registry) (name : String) :
    (withUsual r .empty).function? name
      = (usual.lookup name).bind fun (module, function) => r.function? module function := by
  rw [withUsual, addAll_eq, function?_fresh]
  have distinct : (usual.map (·.1)).Nodup := by decide
  exact lookup_filterMap (fun (module, function) => r.function? module function) distinct name

end Importing

end PageScript
