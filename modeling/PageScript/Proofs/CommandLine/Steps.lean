import Mathlib.Logic.Relation
import PageScript.CommandLine.Arguments

/-!
# Reading a command line step by step

What the reading of a command line does is one of six steps: an option is met, with its value or
without, a script is met, or an argument is taken for the value of the option in front of it
(`Meets`).  A step that changes what the line says has looked at what was pending before.

So whatever holds of a line that says nothing, and is kept by what single options and scripts say,
holds of every command line that is read.
-/

namespace PageScript

namespace CommandLine

/-! ## Steps -/

/-- An option is met. -/
inductive MeetsOption : Reading → Reading → Prop where
  /-- An option that needs a value. -/
  | choice {r : Reading} {l : CommandLine} (h : settle r = .ok l) (c : Choice) :
      MeetsOption r ⟨l, .value c none⟩
  | value {r : Reading} {l m : CommandLine} {c : Choice} {text : String} (h : settle r = .ok l)
      (hvalue : l.takeValue c text = .ok m) : MeetsOption r ⟨m, .nothing⟩
  | switch {r : Reading} {l : CommandLine} (h : settle r = .ok l) (s : Switch) :
      MeetsOption r ⟨{ l with switches := l.switches ++ [s] }, .nothing⟩
  | verbose {r : Reading} {l : CommandLine} (h : settle r = .ok l) :
      MeetsOption r ⟨{ l with verbosity := min 255 (l.verbosity + 1) }, .nothing⟩

/-- Anything is met. -/
inductive Meets : Reading → Reading → Prop where
  | option {r r' : Reading} (h : MeetsOption r r') : Meets r r'
  /-- An argument is the value of the option in front of it. -/
  | given (l : CommandLine) (c : Choice) (text : String) :
      Meets ⟨l, .value c none⟩ ⟨l, .value c (some text)⟩
  | file {r r' : Reading} {path : String} (h : meetFile r path = .ok r') : Meets r r'

variable {r r' : Reading} {l : CommandLine}

theorem meets_of_meetOption {k : Key} (h : meetOption r k = .ok r') : MeetsOption r r' := by
  obtain ⟨l, hsettle, h⟩ := bind_eq_ok h
  cases k with
  | choice c =>
    cases h
    exact .choice hsettle c
  | switch s =>
    dsimp only at h
    split at h
    · cases h
    · cases h
      exact .switch hsettle s
  | verbose =>
    cases h
    exact .verbose hsettle
  | help => cases h
  | version => cases h

theorem meets_of_meetWithValue {k : Key} {text : String} (h : meetWithValue r k text = .ok r') :
    MeetsOption r r' := by
  cases k with
  | choice c =>
    obtain ⟨l, hsettle, h⟩ := bind_eq_ok h
    obtain ⟨m, hvalue, h⟩ := bind_eq_ok h
    cases h
    exact .value hsettle hvalue
  | _ => cases h

theorem meets_of_meetLong {cs : List Char} (h : meetLong r cs = .ok r') : MeetsOption r r' := by
  unfold meetLong at h
  dsimp only at h
  split at h
  · cases h
  · exact meets_of_meetOption h
  · exact meets_of_meetWithValue h

/-- Letters are options one after another. -/
theorem meets_of_meetLetters {c : Char} {cs : List Char} (h : meetLetters r (c :: cs) = .ok r') :
    Relation.TransGen MeetsOption r r' := by
  induction cs generalizing r c with
  | nil =>
    rw [meetLetters] at h
    split at h
    · cases h
    · exact .single (meets_of_meetOption h)
    · obtain ⟨mid, hmid, h⟩ := bind_eq_ok h
      cases h
      exact .single (meets_of_meetOption hmid)
  | cons d cs ih =>
    rw [meetLetters] at h
    split at h
    · cases h
    · split at h
      · cases ‹d :: cs = []›
      · exact .single (meets_of_meetWithValue h)
      · exact .single (meets_of_meetWithValue h)
    · obtain ⟨mid, hmid, h⟩ := bind_eq_ok h
      exact .head (meets_of_meetOption hmid) (ih h)

theorem MeetsOption.settles (h : MeetsOption r r') : ∃ l, settle r = .ok l := by
  cases h with
  | choice h _ => exact ⟨_, h⟩
  | value h _ => exact ⟨_, h⟩
  | switch h _ => exact ⟨_, h⟩
  | verbose h => exact ⟨_, h⟩

theorem takeValue_files {m : CommandLine} {c : Choice} {text : String}
    (h : l.takeValue c text = .ok m) : m.files = l.files := by
  unfold takeValue at h
  cases c with
  | baseUrl =>
    dsimp only at h
    split at h <;> cases h
    rfl
  | _ =>
    dsimp only at h
    split at h
    · cases h
    · split at h <;> cases h
      rfl

/-- An option says no script. -/
theorem MeetsOption.files (h : MeetsOption r r') (hr : ∀ l, settle r = .ok l → l.files = []) :
    ∀ l, settle r' = .ok l → l.files = [] := by
  intro m hm
  cases h with
  | choice h c => cases hm
  | value h hvalue =>
    cases hm
    rw [takeValue_files hvalue, hr _ h]
  | switch h s =>
    cases hm
    have none := hr _ h
    exact none
  | verbose h =>
    cases hm
    have none := hr _ h
    exact none

theorem meets_of_meetFiles {paths : List String} (h : meetFiles r paths = .ok r') :
    Relation.ReflTransGen Meets r r' := by
  induction paths generalizing r with
  | nil =>
    cases h
    exact .refl
  | cons path paths ih =>
    obtain ⟨mid, hmid, h⟩ := bind_eq_ok h
    exact .head (.file hmid) (ih h)

/-- Arguments are read in steps. -/
theorem meets_of_meetArguments {args : List String} (h : meetArguments r args = .ok r') :
    Relation.ReflTransGen Meets r r' := by
  induction args generalizing r with
  | nil =>
    cases h
    exact .refl
  | cons arg args ih =>
    rw [meetArguments] at h
    obtain ⟨line, pending⟩ := r
    split at h
    · next hpending =>
      cases hpending
      exact .head (.given _ _ _) (ih h)
    · split at h
      · exact meets_of_meetFiles h
      · obtain ⟨mid, hmid, h⟩ := bind_eq_ok h
        exact .head (.option (meets_of_meetLong hmid)) (ih h)
      · obtain ⟨mid, hmid, h⟩ := bind_eq_ok h
        exact .trans ((meets_of_meetLetters hmid).to_reflTransGen.lift id fun _ _ => .option) (ih h)
      · split at h
        · next hpending =>
          cases hpending
          exact .head (.given _ _ _) (ih h)
        · obtain ⟨mid, hmid, h⟩ := bind_eq_ok h
          exact .head (.file hmid) (ih h)

/-! ## What holds of every line -/

/-- The numbers are in range, and no script has an empty name. -/
structure Fits (l : CommandLine) : Prop where
  timeout : ∀ n ∈ l.timeout, (n : Int) ≤ Reading.nat64Max
  defaultOffset : ∀ i ∈ l.defaultOffset, Reading.int64Min ≤ i ∧ i ≤ Reading.int64Max
  verbosity : l.verbosity ≤ 255
  files : "" ∉ l.files

/-- Behind its sign an integer is read within the range. -/
theorem range_of_digits {base : Nat} {lo hi v : Int} (negative : Bool) (digits : List Char)
    (h : (if (negative && 0 ≤ lo) = true then none else match Reading.natInBase? base digits with
      | none => none
      | some n =>
        let v : Int := if negative then -(n : Int) else n
        if lo ≤ v ∧ v ≤ hi then some v else none) = some v) : lo ≤ v ∧ v ≤ hi := by
  split at h
  · cases h
  · cases hdigits : Reading.natInBase? base digits with
    | none => rw [hdigits] at h; cases h
    | some n =>
      rw [hdigits] at h
      dsimp only at h
      generalize (if negative then -(n : Int) else n) = w at h
      split at h
      · next hrange =>
        cases h
        exact hrange
      · cases h

theorem intInBase?_range {base : Nat} {lo hi v : Int} {cs : List Char}
    (h : Reading.intInBase? base lo hi cs = some v) : lo ≤ v ∧ v ≤ hi := by
  unfold Reading.intInBase? at h
  split at h
  all_goals exact range_of_digits _ _ h

theorem nat64?_range {n : Nat} {cs : List Char} (h : Reading.nat64? cs = some n) :
    (n : Int) ≤ Reading.nat64Max := by
  obtain ⟨v, hv, rfl⟩ := Option.map_eq_some_iff.mp h
  obtain ⟨hlo, hhi⟩ := intInBase?_range hv
  omega

namespace Fits

theorem empty : CommandLine.empty.Fits := ⟨nofun, nofun, by decide, by simp [CommandLine.empty]⟩

theorem takeValue {m : CommandLine} {c : Choice} {text : String} (h : l.Fits)
    (hvalue : l.takeValue c text = .ok m) : m.Fits := by
  unfold CommandLine.takeValue at hvalue
  cases c with
  | baseUrl =>
    dsimp only at hvalue
    split at hvalue
    · cases hvalue
    · cases hvalue
      exact ⟨h.timeout, h.defaultOffset, h.verbosity, h.files⟩
  | timeout =>
    dsimp only at hvalue
    split at hvalue
    · cases hvalue
    · split at hvalue
      · cases hvalue
      · cases hvalue
        exact ⟨fun n hn => nat64?_range hn, h.defaultOffset, h.verbosity, h.files⟩
  | defaultOffset =>
    dsimp only at hvalue
    split at hvalue
    · cases hvalue
    · split at hvalue
      · cases hvalue
      · cases hvalue
        exact ⟨h.timeout, fun i hi => intInBase?_range hi, h.verbosity, h.files⟩
  | workers =>
    dsimp only at hvalue
    split at hvalue
    · cases hvalue
    · split at hvalue
      · cases hvalue
      · cases hvalue
        exact ⟨h.timeout, h.defaultOffset, h.verbosity, h.files⟩

theorem settle (h : r.line.Fits) (hsettle : CommandLine.settle r = .ok l) : l.Fits := by
  obtain ⟨line, pending⟩ := r
  cases pending with
  | nothing =>
    cases hsettle
    exact h
  | value c text =>
    cases text with
    | none => cases hsettle
    | some text => exact h.takeValue hsettle
  | files paths =>
    unfold CommandLine.settle at hsettle
    dsimp only at hsettle
    split at hsettle
    · cases hsettle
    · next hpaths =>
      cases hsettle
      refine ⟨h.timeout, h.defaultOffset, h.verbosity, fun hmem => ?_⟩
      rcases List.mem_append.mp hmem with hmem | hmem
      · exact h.files hmem
      · exact hpaths (by simpa using hmem)

theorem meetsOption (h : r.line.Fits) (hmeets : MeetsOption r r') : r'.line.Fits := by
  cases hmeets with
  | choice hsettle c => exact h.settle hsettle
  | value hsettle hvalue => exact (h.settle hsettle).takeValue hvalue
  | switch hsettle s =>
    have said := h.settle hsettle
    exact ⟨said.timeout, said.defaultOffset, said.verbosity, said.files⟩
  | verbose hsettle =>
    have said := h.settle hsettle
    exact ⟨said.timeout, said.defaultOffset, Nat.min_le_left _ _, said.files⟩

theorem meets (h : r.line.Fits) (hmeets : Meets r r') : r'.line.Fits := by
  cases hmeets with
  | option hmeets => exact h.meetsOption hmeets
  | given l c text => exact h
  | file hfile =>
    unfold meetFile at hfile
    split at hfile
    · cases hfile
      exact h
    · obtain ⟨l, hsettle, hfile⟩ := bind_eq_ok hfile
      cases hfile
      exact h.settle hsettle

theorem steps (h : r.line.Fits) (hsteps : Relation.ReflTransGen Meets r r') : r'.line.Fits := by
  induction hsteps with
  | refl => exact h
  | tail _ hstep ih => exact ih.meets hstep

end Fits

/-- Whatever the arguments are, the line that they make fits. -/
theorem fits_of_ofArguments {args : List String} (h : ofArguments args = .ok l) : l.Fits := by
  obtain ⟨r, hread, h⟩ := bind_eq_ok h
  obtain ⟨m, hsettle, h⟩ := bind_eq_ok h
  have read : r.line.Fits := Fits.empty.steps (meets_of_meetArguments hread)
  split at h
  · cases h
  · cases h
    exact read.settle hsettle

end CommandLine

end PageScript
