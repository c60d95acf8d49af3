import PageScript.Proofs.Run.Turns

/-!
# How turns are nested

The turns of an included script are one deeper than the turn of the inclusion, and they follow it
before anything else does (`Followed`).  The commands that a run meets at the depth where it began
are those that it was given, all of them if it comes to its end (`commands_eq`).
-/

namespace PageScript

variable {σ : Type}

namespace Setup

variable {setup : Setup σ} {t : Turn σ} {script : Script}

namespace Takes

variable {levels depth : Nat} {directory : String} {cs : List Command} {p q : Progress σ}
  {ts : List (Turn σ)} {r : Except Error Unit}

/-! ## Depths -/

theorem head_depth (h : setup.Takes levels depth directory cs p ts r q) :
    ∀ u ∈ ts.head?, u.depth = depth := by
  cases h with
  | nil => simp
  | done ht => simp [ht]
  | failed ht => simp [ht]
  | ended ht => simp [ht]
  | loaded ht => simp [ht]
  | broken ht => simp [ht]

/-- A run goes down as its levels are used up, and never above where it began. -/
theorem depth_add_levels (h : setup.Takes levels depth directory cs p ts r q) :
    ∀ u ∈ ts, depth ≤ u.depth ∧ u.depth + u.levels = depth + levels := by
  induction h with
  | nil => simp
  | done ht hfate hrest ih => simpa [ht] using ih
  | failed ht hfate herrors hrest ih => simpa [ht] using ih
  | ended ht => simp [ht]
  | loaded ht hfate hinside hrest ihinside ih =>
    intro u hu
    rcases List.mem_append.mp hu with hu | hu
    · rcases List.mem_cons.mp hu with rfl | hu
      · simp [ht]
      · have := ihinside u hu
        omega
    · exact ih u hu
  | broken ht hfate hinside ihinside =>
    intro u hu
    rcases List.mem_cons.mp hu with rfl | hu
    · simp [ht]
    · have := ihinside u hu
      omega

/-- The commands of the script itself, apart from what they include, are met in order if the run
comes to its end. -/
theorem commands_eq (h : setup.Takes levels depth directory cs p ts (.ok ()) q) :
    (ts.filter fun u => u.depth = depth).map Turn.command = cs := by
  obtain ⟨ok, hok⟩ : ∃ ok : Except Error Unit, ok = .ok () := ⟨_, rfl⟩
  rw [← hok] at h
  induction h with
  | nil => rfl
  | done ht hfate hrest ih => simp [ht, ih hok]
  | failed ht hfate herrors hrest ih => simp [ht, ih hok]
  | ended => cases hok
  | @loaded levels depth directory c cs p q s us ts r t script ht hfate hinside hrest ihinside ih =>
    have deeper : us.filter (fun u => u.depth = depth) = [] := by
      refine List.filter_eq_nil_iff.mpr fun u hu => ?_
      have := hinside.depth_add_levels u hu
      simp
      omega
    simp [ht, deeper, ih hok]
  | broken => cases hok

end Takes

/-! ## What follows a turn -/

/-- Behind a turn come the turns of the script that it loads, and then turns that are no deeper than
itself. -/
structure Followed (setup : Setup σ) (t : Turn σ) (inside behind : List (Turn σ)) : Prop where
  deeper : ∀ u ∈ inside, t.depth < u.depth
  after : ∀ u ∈ behind.head?, u.depth ≤ t.depth
  loaded : ∀ script, setup.fate t = .loaded script → inside =
    setup.turns (t.levels - 1) (t.depth + 1) script.directory script.commands (setup.closing t)
  other : (setup.fate t).isLoaded = false → inside = []

/-- Every turn is followed in this way. -/
def AllFollowed (setup : Setup σ) (ts : List (Turn σ)) : Prop :=
  ∀ front t back, ts = front ++ t :: back →
    ∃ inside behind, back = inside ++ behind ∧ setup.Followed t inside behind

namespace AllFollowed

variable {us ts : List (Turn σ)}

theorem nil : setup.AllFollowed [] := by
  intro front t back h
  simp at h

theorem cons (ht : setup.Followed t us ts) (h : setup.AllFollowed (us ++ ts)) :
    setup.AllFollowed (t :: us ++ ts) := by
  intro front u back hsplit
  cases front with
  | nil =>
    cases hsplit
    exact ⟨us, ts, rfl, ht⟩
  | cons first front => exact h front u back (List.cons.inj hsplit).2

theorem single (ht : setup.Followed t [] ts) (h : setup.AllFollowed ts) :
    setup.AllFollowed (t :: ts) := cons ht h

/-- What is no deeper than `depth` may come behind what is deeper. -/
theorem append {depth : Nat} (hus : setup.AllFollowed us) (hts : setup.AllFollowed ts)
    (hdeeper : ∀ u ∈ us, depth < u.depth) (hhead : ∀ u ∈ ts.head?, u.depth = depth) :
    setup.AllFollowed (us ++ ts) := by
  intro front t back hsplit
  rcases List.append_eq_append_iff.mp hsplit with ⟨more, hfront, hback⟩ | ⟨rest, hfront, hback⟩
  · exact hts more t back hback
  · cases rest with
    | nil => exact hts [] t back hback.symm
    | cons first rest =>
      cases hback
      obtain ⟨inside, behind, rfl, hfollowed⟩ := hus front t rest hfront
      refine ⟨inside, behind ++ ts, List.append_assoc .., hfollowed.deeper, ?_, hfollowed.loaded,
        hfollowed.other⟩
      cases behind with
      | nil =>
        intro u hu
        rw [hhead u hu]
        exact Nat.le_of_lt (hdeeper t (by simp [hfront]))
      | cons u behind => exact hfollowed.after

end AllFollowed

namespace Takes

variable {levels depth : Nat} {directory : String} {cs : List Command} {p q : Progress σ}
  {us ts : List (Turn σ)} {r : Except Error Unit} {c : Command}

/-- The turns of a script follow the turn of the inclusion that loads it. -/
theorem followed_loaded (ht : t = ⟨depth, levels + 1, directory, c, p⟩)
    (hfate : setup.fate t = .loaded script)
    (hinside : setup.Takes levels (depth + 1) script.directory script.commands (setup.closing t)
      us r q)
    (hhead : ∀ u ∈ ts.head?, u.depth = depth) : setup.Followed t us ts := by
  subst ht
  refine ⟨fun u hu => (hinside.depth_add_levels u hu).1, fun u hu => Nat.le_of_eq (hhead u hu),
    fun found hfound => ?_, fun h => ?_⟩
  · cases hfate.symm.trans hfound
    exact hinside.eq_turns.1
  · rw [hfate] at h
    cases h

theorem followed_other (hfate : (setup.fate t).isLoaded = false)
    (hhead : ∀ u ∈ ts.head?, u.depth = t.depth) : setup.Followed t [] ts := by
  refine ⟨nofun, fun u hu => Nat.le_of_eq (hhead u hu), fun script hloaded => ?_, fun _ => rfl⟩
  rw [hloaded] at hfate
  cases hfate

theorem allFollowed (h : setup.Takes levels depth directory cs p ts r q) :
    setup.AllFollowed ts := by
  induction h with
  | nil => exact .nil
  | done ht hfate hrest ih =>
    refine .single (followed_other (by rw [hfate]; rfl) ?_) ih
    rw [ht]
    exact hrest.head_depth
  | failed ht hfate herrors hrest ih =>
    refine .single (followed_other (by rw [hfate]; rfl) ?_) ih
    rw [ht]
    exact hrest.head_depth
  | ended ht hfate herrors =>
    exact .single (followed_other (by rw [hfate]; rfl) nofun) .nil
  | loaded ht hfate hinside hrest ihinside ih =>
    refine .cons (followed_loaded ht hfate hinside hrest.head_depth) ?_
    exact ihinside.append ih (fun u hu => (hinside.depth_add_levels u hu).1) hrest.head_depth
  | broken ht hfate hinside ihinside =>
    rw [← List.append_nil (_ :: _)]
    exact .cons (followed_loaded ht hfate hinside nofun) (by rwa [List.append_nil])

end Takes

end Setup

end PageScript
