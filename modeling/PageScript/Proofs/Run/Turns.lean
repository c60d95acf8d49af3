import PageScript.Proofs.Run.Points

/-!
# The turns of a run

A run deals with its commands in turns.  A turn is a command that is met, where its script stands,
how deep in inclusions it is, and the state in which it is met.  Its fate is that it is done, that it
fails, or that it loads the script that it includes.  `Setup.turns` lists the turns of a run in
order: the turns of an included script follow the turn of the inclusion.

`Setup.Takes` is the run itself, one case for each way in which a first command may go, with the
turns that it takes.  Whatever is to be shown of all turns of a run is an induction over it
(`takes`).
-/

namespace PageScript

variable {σ : Type}

/-- A command that a run meets. -/
structure Turn (σ : Type) where
  /-- How many inclusions the command is inside of. -/
  depth : Nat
  /-- The levels that are left for inclusions. -/
  levels : Nat
  /-- The directory of its script. -/
  directory : String
  command : Command
  /-- The state in which it is met. -/
  before : Progress σ

/-- How a command goes. -/
inductive Fate where
  | done
  /-- It is an inclusion, and the script that it includes is loaded. -/
  | loaded (script : Script)
  | failed (e : Error)

namespace Fate

/-- How the loading of a script goes. -/
def ofLoading : Except Error Script → Fate
  | .ok script => .loaded script
  | .error e => .failed e

/-- How a command that is no inclusion goes. -/
def ofRunning : Except Error Unit → Fate
  | .ok _ => .done
  | .error e => .failed e

def isDone : Fate → Bool
  | done => true
  | _ => false

def isLoaded : Fate → Bool
  | loaded _ => true
  | _ => false

/-- Why it fails. -/
def error? : Fate → Option Error
  | failed e => some e
  | _ => none

end Fate

namespace Setup

variable (setup : Setup σ)

/-! ## One turn -/

/-- The state in which the command of a turn is dealt with. -/
def opening (t : Turn σ) : Progress σ := setup.met t.command t.before

/-- What comes of a turn whose command is taken for an inclusion. -/
def loading (t : Turn σ) : Except Error Script × Progress σ :=
  setup.loadInclude (decide (0 < t.levels)) t.directory t.command (setup.opening t)

/-- What comes of a turn whose command is taken for no inclusion. -/
def running (t : Turn σ) : Except Error Unit × Progress σ :=
  setup.runCommand t.command (setup.opening t)

/-- How the command of a turn goes. -/
def fate (t : Turn σ) : Fate :=
  if t.command.name = "include" then .ofLoading (setup.loading t).1
  else .ofRunning (setup.running t).1

/-- What the command of a turn leaves before the run takes note of how it went. -/
def closing (t : Turn σ) : Progress σ :=
  if t.command.name = "include" then (setup.loading t).2 else (setup.running t).2

variable {setup} {t : Turn σ} {script : Script} {e : Error}

theorem loading_of_loaded (h : setup.fate t = .loaded script) :
    t.command.name = "include" ∧ setup.loading t = (.ok script, setup.closing t) := by
  unfold fate at h
  unfold closing
  split at h
  · rename_i hname
    rw [if_pos hname]
    obtain ⟨r, q, hload⟩ : ∃ r q, setup.loading t = (r, q) := ⟨_, _, rfl⟩
    rw [hload] at h ⊢
    cases r with
    | ok found =>
      cases h
      exact ⟨hname, rfl⟩
    | error e => cases h
  · cases hrun : (setup.running t).1 with
    | ok _ => rw [hrun] at h; cases h
    | error e => rw [hrun] at h; cases h

/-- Nothing is loaded where no levels are left. -/
theorem loadInclude_shallow (directory : String) (c : Command) (p : Progress σ) :
    ∃ e, (setup.loadInclude false directory c p).1 = .error e := by
  unfold loadInclude
  obtain ⟨r, q, hargs⟩ : ∃ r q, setup.arguments c p = (r, q) := ⟨_, _, rfl⟩
  cases r with
  | error e => exact ⟨e, by rw [Lockstep.bind_error hargs]⟩
  | ok args =>
    rw [Lockstep.bind_ok hargs]
    cases args.text 0 "path" with
    | error e => exact ⟨e, rfl⟩
    | ok path => exact ⟨_, rfl⟩

theorem levels_pos_of_loaded (h : setup.fate t = .loaded script) : 0 < t.levels := by
  obtain ⟨-, hload⟩ := loading_of_loaded h
  refine Nat.pos_of_ne_zero fun hzero => ?_
  obtain ⟨e, herror⟩ : ∃ e,
      (setup.loadInclude false t.directory t.command (setup.opening t)).1 = .error e :=
    loadInclude_shallow ..
  rw [loading, hzero] at hload
  rw [show decide (0 < 0) = false from rfl] at hload
  rw [hload] at herror
  cases herror

/-! ## Turns and the run -/

section

variable {depth levels : Nat} {directory : String} {c : Command} {p : Progress σ}

theorem dispatch_done (ht : t = ⟨depth, levels, directory, c, p⟩) (h : setup.fate t = .done) :
    setup.dispatch (setup.inner levels) directory c p
      = (.ok (), { setup.closing t with executed := (setup.closing t).executed + 1 }) := by
  subst ht
  unfold fate at h
  unfold closing dispatch
  rw [Lockstep.bind_ok (setup.meet_eq c p)]
  split at h
  · cases hload : (setup.loading ⟨depth, levels, directory, c, p⟩).1 with
    | ok _ => rw [hload] at h; cases h
    | error e => rw [hload] at h; cases h
  · rename_i hname
    rw [if_neg hname, if_neg hname]
    obtain ⟨r, q, hrun⟩ : ∃ r q, setup.running ⟨depth, levels, directory, c, p⟩ = (r, q) :=
      ⟨_, _, rfl⟩
    rw [hrun] at h ⊢
    cases r with
    | ok _ => exact Lockstep.bind_ok (Running.attempt_eq hrun) _
    | error e => cases h

theorem dispatch_failing (ht : t = ⟨depth, levels, directory, c, p⟩)
    (h : setup.fate t = .failed e) :
    setup.dispatch (setup.inner levels) directory c p
      = (if setup.options.errors then .error e else .ok (),
        setup.failed (p.index + 1) c e (setup.closing t)) := by
  subst ht
  rw [← fail_eq]
  unfold fate at h
  unfold closing dispatch
  rw [Lockstep.bind_ok (setup.meet_eq c p)]
  split at h
  · rename_i hname
    rw [if_pos hname, if_pos hname, runInclude, inner_isSome]
    obtain ⟨r, q, hload⟩ : ∃ r q, setup.loading ⟨depth, levels, directory, c, p⟩ = (r, q) :=
      ⟨_, _, rfl⟩
    rw [hload] at h ⊢
    cases r with
    | ok _ => cases h
    | error e =>
      cases h
      exact Lockstep.bind_ok (Running.attempt_eq hload) _
  · rename_i hname
    rw [if_neg hname, if_neg hname]
    obtain ⟨r, q, hrun⟩ : ∃ r q, setup.running ⟨depth, levels, directory, c, p⟩ = (r, q) :=
      ⟨_, _, rfl⟩
    rw [hrun] at h ⊢
    cases r with
    | ok _ => cases h
    | error e =>
      cases h
      exact Lockstep.bind_ok (Running.attempt_eq hrun) _

theorem dispatch_loading (ht : t = ⟨depth, levels + 1, directory, c, p⟩)
    (h : setup.fate t = .loaded script) :
    setup.dispatch (setup.inner (levels + 1)) directory c p
      = setup.runWithin levels script.directory script.commands (setup.closing t) := by
  obtain ⟨hname, hload⟩ := loading_of_loaded h
  subst ht
  exact dispatch_loaded hname hload

end

variable (setup)

/-- The turns of commands in one script.  `inside` gives those of a script that is included. -/
def turnsOf (inside : Script → Progress σ → List (Turn σ)) (depth levels : Nat)
    (directory : String) : List Command → Progress σ → List (Turn σ)
  | [], _ => []
  | c :: cs, p =>
    let t : Turn σ := ⟨depth, levels, directory, c, p⟩
    let included := match setup.fate t with
      | .loaded script => inside script (setup.closing t)
      | _ => []
    let behind := match setup.dispatch (setup.inner levels) directory c p with
      | (.ok _, q) => turnsOf inside depth levels directory cs q
      | (.error _, _) => []
    t :: included ++ behind

/-- The turns of a run of commands, in order. -/
def turns : (levels depth : Nat) → (directory : String) → List Command → Progress σ →
    List (Turn σ)
  | 0, depth => setup.turnsOf (fun _ _ => []) depth 0
  | levels + 1, depth =>
    setup.turnsOf (fun script => turns levels (depth + 1) script.directory script.commands) depth
      (levels + 1)

/-- The turns of the run of a script. -/
def scriptTurns (script : Script) (world : World σ) : List (Turn σ) :=
  setup.turns maxIncludeDepth 0 script.directory script.commands (setup.start world)

/-- A run of commands takes turns, and it ends so and leaves this. -/
inductive Takes : (levels depth : Nat) → (directory : String) → List Command → Progress σ →
    List (Turn σ) → Except Error Unit → Progress σ → Prop where
  | nil {levels depth : Nat} {directory : String} {p : Progress σ} :
      Takes levels depth directory [] p [] (.ok ()) p
  | done {levels depth : Nat} {directory : String} {c : Command} {cs : List Command}
      {p s : Progress σ} {ts : List (Turn σ)} {r : Except Error Unit} {t : Turn σ}
      (ht : t = ⟨depth, levels, directory, c, p⟩) (hfate : setup.fate t = .done)
      (hrest : Takes levels depth directory cs
        { setup.closing t with executed := (setup.closing t).executed + 1 } ts r s) :
      Takes levels depth directory (c :: cs) p (t :: ts) r s
  /-- The first command fails, and the run goes on. -/
  | failed {levels depth : Nat} {directory : String} {c : Command} {cs : List Command}
      {p s : Progress σ} {ts : List (Turn σ)} {r : Except Error Unit} {t : Turn σ} {e : Error}
      (ht : t = ⟨depth, levels, directory, c, p⟩) (hfate : setup.fate t = .failed e)
      (herrors : setup.options.errors = false)
      (hrest : Takes levels depth directory cs
        (setup.failed (p.index + 1) c e (setup.closing t)) ts r s) :
      Takes levels depth directory (c :: cs) p (t :: ts) r s
  /-- The first command fails, and that ends the run. -/
  | ended {levels depth : Nat} {directory : String} {c : Command} {cs : List Command}
      {p : Progress σ} {t : Turn σ} {e : Error}
      (ht : t = ⟨depth, levels, directory, c, p⟩) (hfate : setup.fate t = .failed e)
      (herrors : setup.options.errors = true) :
      Takes levels depth directory (c :: cs) p [t] (.error e)
        (setup.failed (p.index + 1) c e (setup.closing t))
  /-- The first command is an inclusion, and the run comes back from it. -/
  | loaded {levels depth : Nat} {directory : String} {c : Command} {cs : List Command}
      {p q s : Progress σ} {us ts : List (Turn σ)} {r : Except Error Unit} {t : Turn σ}
      {script : Script}
      (ht : t = ⟨depth, levels + 1, directory, c, p⟩) (hfate : setup.fate t = .loaded script)
      (hinside : Takes levels (depth + 1) script.directory script.commands (setup.closing t) us
        (.ok ()) q)
      (hrest : Takes (levels + 1) depth directory cs q ts r s) :
      Takes (levels + 1) depth directory (c :: cs) p (t :: us ++ ts) r s
  /-- The first command is an inclusion, and the run ends in it. -/
  | broken {levels depth : Nat} {directory : String} {c : Command} {cs : List Command}
      {p q : Progress σ} {us : List (Turn σ)} {t : Turn σ} {script : Script} {e : Error}
      (ht : t = ⟨depth, levels + 1, directory, c, p⟩) (hfate : setup.fate t = .loaded script)
      (hinside : Takes levels (depth + 1) script.directory script.commands (setup.closing t) us
        (.error e) q) :
      Takes (levels + 1) depth directory (c :: cs) p (t :: us) (.error e) q

/-- The commands are run as `runWithin` says, in the turns that `turns` says. -/
abbrev TakesTurns (levels : Nat) : Prop :=
  ∀ (depth : Nat) (directory : String) (cs : List Command) (p : Progress σ),
    setup.Takes levels depth directory cs p (setup.turns levels depth directory cs p)
      (setup.runWithin levels directory cs p).1 (setup.runWithin levels directory cs p).2

variable {setup}

section

variable {depth levels : Nat} {directory : String} {c : Command} {cs : List Command}
  {p : Progress σ}

theorem turns_nil : setup.turns levels depth directory [] p = [] := by
  cases levels <;> rfl

/-- A command that loads nothing takes one turn. -/
theorem turns_cons (ht : t = ⟨depth, levels, directory, c, p⟩)
    (hfate : (setup.fate t).isLoaded = false) :
    setup.turns levels depth directory (c :: cs) p
      = t :: match setup.dispatch (setup.inner levels) directory c p with
        | (.ok _, q) => setup.turns levels depth directory cs q
        | (.error _, _) => [] := by
  subst ht
  cases levels with
  | zero =>
    rw [turns, turnsOf]
    cases hf : setup.fate ⟨depth, 0, directory, c, p⟩ with
    | loaded script => rw [hf] at hfate; cases hfate
    | _ => rfl
  | succ levels =>
    rw [turns, turnsOf]
    cases hf : setup.fate ⟨depth, levels + 1, directory, c, p⟩ with
    | loaded script => rw [hf] at hfate; cases hfate
    | _ => rfl

/-- An inclusion takes a turn, and then the script that it loads takes its turns. -/
theorem turns_inclusion (ht : t = ⟨depth, levels + 1, directory, c, p⟩)
    (hfate : setup.fate t = .loaded script) :
    setup.turns (levels + 1) depth directory (c :: cs) p
      = t :: setup.turns levels (depth + 1) script.directory script.commands (setup.closing t)
        ++ match setup.dispatch (setup.inner (levels + 1)) directory c p with
          | (.ok _, q) => setup.turns (levels + 1) depth directory cs q
          | (.error _, _) => [] := by
  subst ht
  rw [turns, turnsOf, hfate]

end

/-! ## The places of turns -/

section

variable {depth levels : Nat} {directory : String} {c : Command} {cs : List Command}
  {p q : Progress σ} {u : Turn σ}

/-- The first turn is that of the first command. -/
theorem turns_first : ∃ ts, setup.turns levels depth directory (c :: cs) p
    = ⟨depth, levels, directory, c, p⟩ :: ts := by
  cases levels <;> exact ⟨_, rfl⟩

theorem mem_turns_first :
    (⟨depth, levels, directory, c, p⟩ : Turn σ) ∈ setup.turns levels depth directory (c :: cs) p := by
  obtain ⟨ts, hts⟩ : ∃ ts, setup.turns levels depth directory (c :: cs) p
    = ⟨depth, levels, directory, c, p⟩ :: ts := turns_first
  rw [hts]
  exact List.mem_cons_self

/-- The turns behind the first command are among all turns. -/
theorem mem_turns_behind
    (hdispatch : setup.dispatch (setup.inner levels) directory c p = (.ok (), q))
    (hu : u ∈ setup.turns levels depth directory cs q) :
    u ∈ setup.turns levels depth directory (c :: cs) p := by
  cases levels with
  | zero =>
    rw [turns, turnsOf, hdispatch]
    exact List.mem_append_right _ hu
  | succ levels =>
    rw [turns, turnsOf, hdispatch]
    exact List.mem_append_right _ hu

/-- The turns of a script that is loaded are among all turns. -/
theorem mem_turns_inside (ht : t = ⟨depth, levels + 1, directory, c, p⟩)
    (hfate : setup.fate t = .loaded script)
    (hu : u ∈ setup.turns levels (depth + 1) script.directory script.commands (setup.closing t)) :
    u ∈ setup.turns (levels + 1) depth directory (c :: cs) p := by
  rw [turns_inclusion ht hfate]
  exact List.mem_append_left _ (List.mem_cons_of_mem _ hu)

end

/-- Commands take their turns if the scripts that they include do. -/
theorem takes_commands {levels : Nat} (hinner : ∀ n, levels = n + 1 → setup.TakesTurns n) :
    setup.TakesTurns levels := by
  intro depth directory cs
  induction cs with
  | nil =>
    intro p
    rw [turns_nil, runWithin_nil]
    exact .nil
  | cons c cs ih =>
    intro p
    obtain ⟨t, ht⟩ : ∃ t : Turn σ, t = ⟨depth, levels, directory, c, p⟩ := ⟨_, rfl⟩
    rw [runWithin_cons]
    cases hfate : setup.fate t with
    | done =>
      have hdispatch := dispatch_done ht hfate
      rw [turns_cons ht (by rw [hfate]; rfl), hdispatch, Lockstep.bind_ok hdispatch]
      exact .done ht hfate (ih _)
    | failed e =>
      have hdispatch := dispatch_failing ht hfate
      cases herrors : setup.options.errors with
      | true =>
        rw [herrors, if_pos rfl] at hdispatch
        rw [turns_cons ht (by rw [hfate]; rfl), hdispatch, Lockstep.bind_error hdispatch]
        exact .ended ht hfate herrors
      | false =>
        rw [herrors, if_neg Bool.false_ne_true] at hdispatch
        rw [turns_cons ht (by rw [hfate]; rfl), hdispatch, Lockstep.bind_ok hdispatch]
        exact .failed ht hfate herrors (ih _)
    | loaded script =>
      obtain ⟨n, rfl⟩ : ∃ n, levels = n + 1 := by
        have hlevels := levels_pos_of_loaded hfate
        rw [ht] at hlevels
        exact Nat.exists_eq_succ_of_ne_zero (Nat.ne_of_gt hlevels)
      have hinside := hinner n rfl (depth + 1) script.directory script.commands (setup.closing t)
      have hdispatch := dispatch_loading ht hfate
      obtain ⟨r, q, hrun⟩ : ∃ r q, setup.runWithin n script.directory script.commands
        (setup.closing t) = (r, q) := ⟨_, _, rfl⟩
      rw [hrun] at hdispatch hinside
      rw [turns_inclusion ht hfate, hdispatch]
      cases r with
      | ok _ =>
        rw [Lockstep.bind_ok hdispatch]
        exact .loaded ht hfate hinside (ih q)
      | error e =>
        rw [Lockstep.bind_error hdispatch]
        dsimp only
        rw [List.append_nil]
        exact .broken ht hfate hinside

/-- A run takes its turns. -/
theorem takes : ∀ levels, setup.TakesTurns levels
  | 0 => takes_commands nofun
  | levels + 1 => takes_commands (by
      rintro n ⟨⟩
      exact takes levels)

/-- The run of a script takes its turns. -/
theorem run_takes (script : Script) (world : World σ) :
    ∃ r p, setup.run script world = .of (r, p) ∧
      setup.Takes maxIncludeDepth 0 script.directory script.commands (setup.start world)
        (setup.scriptTurns script world) r p :=
  ⟨_, _, setup.run_eq script world, setup.takes maxIncludeDepth 0 _ _ _⟩

namespace Takes

variable {levels depth : Nat} {directory : String} {cs : List Command} {p q : Progress σ}
  {ts : List (Turn σ)} {r : Except Error Unit}

/-- There is only one way in which commands are run. -/
theorem eq_turns (h : setup.Takes levels depth directory cs p ts r q) :
    ts = setup.turns levels depth directory cs p ∧
      setup.runWithin levels directory cs p = (r, q) := by
  induction h with
  | nil => exact ⟨turns_nil.symm, by rw [runWithin_nil]; rfl⟩
  | done ht hfate hrest ih =>
    obtain ⟨hturns, hrun⟩ := ih
    have hdispatch := dispatch_done ht hfate
    rw [turns_cons ht (by rw [hfate]; rfl), runWithin_cons, hdispatch, Lockstep.bind_ok hdispatch]
    exact ⟨congrArg _ hturns, hrun⟩
  | failed ht hfate herrors hrest ih =>
    obtain ⟨hturns, hrun⟩ := ih
    have hdispatch := dispatch_failing ht hfate
    rw [herrors, if_neg Bool.false_ne_true] at hdispatch
    rw [turns_cons ht (by rw [hfate]; rfl), runWithin_cons, hdispatch, Lockstep.bind_ok hdispatch]
    exact ⟨congrArg _ hturns, hrun⟩
  | ended ht hfate herrors =>
    have hdispatch := dispatch_failing ht hfate
    rw [herrors, if_pos rfl] at hdispatch
    rw [turns_cons ht (by rw [hfate]; rfl), runWithin_cons, hdispatch,
      Lockstep.bind_error hdispatch]
    exact ⟨rfl, rfl⟩
  | loaded ht hfate hinside hrest ihinside ih =>
    obtain ⟨hturns, hrun⟩ := ih
    obtain ⟨hus, hscript⟩ := ihinside
    have hdispatch := (dispatch_loading ht hfate).trans hscript
    rw [turns_inclusion ht hfate, runWithin_cons, hdispatch, Lockstep.bind_ok hdispatch, hus]
    exact ⟨congrArg _ hturns, hrun⟩
  | broken ht hfate hinside ihinside =>
    obtain ⟨hus, hscript⟩ := ihinside
    have hdispatch := (dispatch_loading ht hfate).trans hscript
    rw [turns_inclusion ht hfate, runWithin_cons, hdispatch, Lockstep.bind_error hdispatch, hus]
    exact ⟨(List.append_nil _).symm, rfl⟩

/-- A run that goes on behind failures comes to its end. -/
theorem ok_of_patient (h : setup.Takes levels depth directory cs p ts r q)
    (herrors : setup.options.errors = false) : r = .ok () := by
  induction h with
  | nil => rfl
  | done ht hfate hrest ih => exact ih
  | failed ht hfate herrors' hrest ih => exact ih
  | ended ht hfate herrors' => rw [herrors] at herrors'; cases herrors'
  | loaded ht hfate hinside hrest ihinside ih => exact ih
  | broken ht hfate hinside ihinside => cases ihinside

end Takes

end Setup

end PageScript
