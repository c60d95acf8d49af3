import PageScript.Proofs.Run.Quiet
import PageScript.Proofs.Run.Splicing
import PageScript.Proofs.Run.Policy
import PageScript.Proofs.Run.Replaying

/-!
# Inclusions in place

A script and its flat script are run in the same world.  The two runs do the same, command by
command.  They differ in their notes, since an inclusion is told, and in the numbers of the
commands, since an inclusion is counted.

`Along` is what holds between the two runs wherever they are, and `At` says in addition which steps
are behind them.  `Both` is what the same steps make of two runs that are `At` one place.

The inclusions that the run of the script reaches must be such that they can be replaced
(`Turn.Static`).  Those that it does not reach, behind the failure that ends it, may be anything.
-/

namespace PageScript

variable {σ : Type}

/-! ## Reached inclusions -/

/-- If the turn is one of an inclusion, the inclusion can be replaced: levels are left, its path is
written out, and its file holds a script. -/
def Turn.Static (files : FileTree) (t : Turn σ) : Prop :=
  t.command.name = "include" →
    t.levels ≠ 0 ∧ (files.included? t.directory t.command).isSome = true

namespace Setup

variable {setup : Setup σ} {depth levels : Nat} {directory : String} {c : Command}
  {p : Progress σ} {t : Turn σ} {script : Script}

/-- An inclusion that can be replaced loads its script, and only puts out notes. -/
theorem fate_static (h : setup.files.included? directory c = some script)
    (ht : t = ⟨depth, levels + 1, directory, c, p⟩) :
    setup.fate t = .loaded script ∧ ∃ told, setup.closing t = (setup.opening t).putting told := by
  subst ht
  have hname := FileTree.name_of_included? h
  obtain ⟨told, hload⟩ := loadInclude_static setup h
    (setup.opening ⟨depth, levels + 1, directory, c, p⟩)
  have loading : setup.loading ⟨depth, levels + 1, directory, c, p⟩ = (.ok script, _) := hload
  rw [fate, closing, if_pos hname, if_pos hname, loading]
  exact ⟨rfl, told, rfl⟩

/-- If splicing leaves no inclusion, every inclusion that a run reaches can be replaced. -/
theorem Takes.static_of_allReplaced {cs : List Command} {q : Progress σ} {ts : List (Turn σ)}
    {r : Except Error Unit} (h : setup.Takes levels depth directory cs p ts r q)
    (hall : AllReplaced setup.files levels directory cs) : ∀ t ∈ ts, t.Static setup.files := by
  have first {levels depth : Nat} {directory : String} {c : Command} {cs : List Command}
      {p : Progress σ} {t : Turn σ} (ht : t = ⟨depth, levels, directory, c, p⟩)
      (hall : AllReplaced setup.files levels directory (c :: cs)) : t.Static setup.files := by
    subst ht
    exact hall.included
  have inside {levels depth : Nat} {directory : String} {c : Command} {cs : List Command}
      {p : Progress σ} {t : Turn σ} {script : Script} (ht : t = ⟨depth, levels + 1, directory, c, p⟩)
      (hfate : setup.fate t = .loaded script)
      (hall : AllReplaced setup.files (levels + 1) directory (c :: cs)) :
      AllReplaced setup.files levels script.directory script.commands := by
    have hname := (loading_of_loaded hfate).1
    rw [ht] at hname
    obtain ⟨found, hfound⟩ := Option.isSome_iff_exists.mp (hall.included hname).2
    obtain ⟨hstatic, -⟩ := fate_static hfound ht
    cases hfate.symm.trans hstatic
    exact hall.inside hfound
  induction h with
  | nil => exact List.forall_mem_nil _
  | done ht hfate hrest ih => exact List.forall_mem_cons.mpr ⟨first ht hall, ih hall.behind⟩
  | failed ht hfate herrors hrest ih =>
    exact List.forall_mem_cons.mpr ⟨first ht hall, ih hall.behind⟩
  | ended ht hfate herrors =>
    exact List.forall_mem_cons.mpr ⟨first ht hall, List.forall_mem_nil _⟩
  | loaded ht hfate hinside hrest ihinside ih =>
    refine List.forall_mem_append.mpr ⟨?_, ih hall.behind⟩
    exact List.forall_mem_cons.mpr ⟨first ht hall, ihinside (inside ht hfate hall)⟩
  | broken ht hfate hinside ihinside =>
    exact List.forall_mem_cons.mpr ⟨first ht hall, ihinside (inside ht hfate hall)⟩

end Setup

/-! ## Two runs side by side -/

/-- The failure with its number in the run of the script. -/
def Failure.renumber (steps : List Step) (f : Failure) : Failure :=
  { f with index := f.index + inclusionsBefore steps f.index }

variable (setup : Setup σ) (steps : List Step)

/-- The runs agree, apart from notes and from the numbers of failures. -/
structure Along (p q : Progress σ) : Prop where
  world : (Coupling.quiet setup.session).world p.world q.world
  names : p.names = q.names
  respects : p.names.Respects Surroundings.Alike
  executed : p.executed = q.executed
  failures : p.failures = q.failures.map (Failure.renumber steps)

/-- The runs agree, and these steps are behind them. -/
structure At (front : List Step) (p q : Progress σ) : Prop extends Along setup steps p q where
  first : p.index = front.length
  second : q.index = (flatten front).length

/-- Both runs are behind the steps, or both have ended with one error. -/
inductive Both (front : List Step) :
    Except Error Unit × Progress σ → Except Error Unit × Progress σ → Prop where
  | on {p q : Progress σ} (h : At setup steps front p q) : Both front (.ok (), p) (.ok (), q)
  | ended {e : Error} {p q : Progress σ} (h : Along setup steps p q) :
      Both front (.error e, p) (.error e, q)

variable {setup steps}

theorem Both.bind {mid front : List Step} {a b f g : Running σ Unit} {p q : Progress σ}
    (h : Both setup steps mid (a p) (b q))
    (hfg : ∀ p' q', a p = (.ok (), p') → At setup steps mid p' q' →
      Both setup steps front (f p') (g q')) :
    Both setup steps front ((a >>= fun _ => f) p) ((b >>= fun _ => g) q) := by
  obtain ⟨x, ha⟩ : ∃ x, a p = x := ⟨_, rfl⟩
  obtain ⟨y, hb⟩ : ∃ y, b q = y := ⟨_, rfl⟩
  rw [ha, hb] at h
  cases h with
  | on h =>
    rw [Lockstep.bind_ok ha, Lockstep.bind_ok hb]
    exact hfg _ _ ha h
  | ended h =>
    rw [Lockstep.bind_error ha, Lockstep.bind_error hb]
    exact .ended h

namespace Along

variable {p q : Progress σ}

theorem running (h : Along setup steps p q) :
    (Coupling.quiet setup.session).running p.tally q.tally p q :=
  ⟨h.world, h.names, h.respects, rfl, rfl⟩

/-- What leaves the tallies alone keeps the runs along each other. -/
theorem of_running {p' q' : Progress σ} (h : Along setup steps p q)
    (h' : (Coupling.quiet setup.session).running p.tally q.tally p' q') :
    Along setup steps p' q' := by
  refine ⟨h'.world, h'.names, h'.respects, ?_, ?_⟩
  · rw [show p'.executed = p.executed from congrArg Tally.executed h'.left, h.executed]
    exact (congrArg Tally.executed h'.right).symm
  · rw [show p'.failures = p.failures from congrArg Tally.failures h'.left, h.failures]
    exact congrArg (List.map _) (congrArg Tally.failures h'.right).symm

/-- What is put out, and how many commands are met, does not matter. -/
theorem putting (h : Along setup steps p q) (told said : List Output) (i j : Nat) :
    Along setup steps { p.putting told with index := i } { q.putting said with index := j } :=
  ⟨⟨h.world.1, h.world.2.output _ _⟩, h.names, h.respects, h.executed, h.failures⟩

theorem noted (h : Along setup steps p q) {i j : Nat} (hij : j + inclusionsBefore steps j = i)
    (c : Command) (e : Error) :
    Along setup steps (Setup.noted i c e p) (Setup.noted j c e q) := by
  refine ⟨⟨h.world.1, h.world.2.output _ _⟩, h.names, h.respects, h.executed, ?_⟩
  show p.failures ++ [(⟨i, Script.reportText c, e.message⟩ : Failure)]
    = (q.failures ++ [(⟨j, Script.reportText c, e.message⟩ : Failure)]).map
      (Failure.renumber steps)
  rw [List.map_append, h.failures, ← hij]
  rfl

/-- A failed command is noted and collected in both runs, and may stop the session of both. -/
theorem failed (h : Along setup steps p q) {i j : Nat} (hij : j + inclusionsBefore steps j = i)
    (c : Command) (e : Error) :
    Along setup steps (setup.failed i c e p) (setup.failed j c e q) ∧
      (setup.failed i c e p).index = p.index ∧ (setup.failed j c e q).index = q.index := by
  have noted := h.noted hij c e
  unfold Setup.failed
  split
  · obtain ⟨-, after⟩ :=
      (Coupling.quiet setup.session).stopSession_lockstep _ _ noted.running
    exact ⟨noted.of_running after, congrArg Tally.index after.left,
      congrArg Tally.index after.right⟩
  · exact ⟨noted, rfl, rfl⟩

end Along

/-! ## One command -/

namespace At

variable {front back : List Step} {c : Command} {p q : Progress σ}

/-- Both runs meet a command, under numbers that belong together. -/
theorem meet (hdemo : setup.session.config.demo = false) (h : At setup steps front p q)
    (hsteps : steps = front ++ .command c :: back) :
    ∃ i j p' q', setup.meet c p = (.ok i, p') ∧ setup.meet c q = (.ok j, q') ∧
      j + inclusionsBefore steps j = i ∧ At setup steps (front ++ [.command c]) p' q' := by
  obtain ⟨told, hp⟩ := setup.meet_unwatched hdemo c p
  obtain ⟨said, hq⟩ := setup.meet_unwatched hdemo c q
  refine ⟨_, _, _, _, hp, hq, ?_, h.toAlong.putting told said _ _, ?_, ?_⟩
  · rw [h.first, h.second, hsteps]
    exact inclusionsBefore_behind front c back
  · show p.index + 1 = _
    rw [h.first, List.length_append]
    rfl
  · show q.index + 1 = _
    rw [h.second, flatten_append, List.length_append]
    rfl

/-- The first run meets an inclusion and loads its script, and the second run waits. -/
theorem included (hdemo : setup.session.config.demo = false) (h : At setup steps front p q)
    {depth levels : Nat} {directory : String} {t : Turn σ} {told : List Output}
    (ht : t = ⟨depth, levels, directory, c, p⟩)
    (hclosing : setup.closing t = (setup.opening t).putting told) :
    At setup steps (front ++ [.inclusion]) (setup.closing t) q := by
  subst ht
  obtain ⟨met, hmeet⟩ := setup.meet_unwatched hdemo c p
  have opening : setup.opening ⟨depth, levels, directory, c, p⟩
      = { p.putting met with index := p.index + 1 } := congrArg Prod.snd hmeet
  rw [hclosing, opening]
  refine ⟨⟨⟨h.world.1, ?_⟩, h.names, h.respects, h.executed, h.failures⟩, ?_, ?_⟩
  · exact h.world.2.output _ q.world.outside.output
  · show p.index + 1 = _
    rw [h.first, List.length_append]
    rfl
  · rw [h.second, flatten_append]
    show _ = (flatten front ++ []).length
    rw [List.append_nil]

variable (hdemo : setup.session.config.demo = false)
variable (hregistry : setup.registry.Respects Surroundings.Alike)
variable (hfake : setup.fake.Respects Surroundings.Alike)

include hdemo hregistry hfake

/-- A command that is no inclusion goes alike in both runs, wherever its script stands. -/
theorem dispatch (h : At setup steps front p q) (hc : c.name ≠ "include")
    (hsteps : steps = front ++ .command c :: back) (inner inner' : Option (Setup.Course σ))
    (directory directory' : String) :
    Both setup steps (front ++ [.command c]) (setup.dispatch inner directory c p)
      (setup.dispatch inner' directory' c q) := by
  obtain ⟨i, j, p₁, q₁, hp, hq, hij, h₁⟩ := h.meet hdemo hsteps
  unfold Setup.dispatch
  rw [Lockstep.bind_ok hp, Lockstep.bind_ok hq, if_neg hc, if_neg hc]
  obtain ⟨hresult, after⟩ := (Coupling.quiet setup.session).runCommand_lockstep hregistry hfake c
    p₁ q₁ h₁.toAlong.running
  obtain ⟨r, p₂, hr⟩ : ∃ r p₂, setup.runCommand c p₁ = (r, p₂) := ⟨_, _, rfl⟩
  obtain ⟨r', q₂, hr'⟩ : ∃ r' q₂, setup.runCommand c q₁ = (r', q₂) := ⟨_, _, rfl⟩
  rw [hr, hr'] at hresult after
  have same : r = r' := hresult
  subst same
  have along : Along setup steps p₂ q₂ := h₁.toAlong.of_running after
  have first : p₂.index = (front ++ [Step.command c]).length :=
    (congrArg Tally.index after.left).trans h₁.first
  have second : q₂.index = (flatten (front ++ [.command c])).length :=
    (congrArg Tally.index after.right).trans h₁.second
  unfold Setup.runSingle
  rw [Lockstep.bind_ok (Running.attempt_eq hr), Lockstep.bind_ok (Running.attempt_eq hr')]
  cases r with
  | ok _ =>
    refine .on ⟨⟨along.world, along.names, along.respects, ?_, along.failures⟩, first, second⟩
    exact congrArg (· + 1) along.executed
  | error e =>
    obtain ⟨failed, hleft, hright⟩ := along.failed hij c e
    dsimp only
    rw [Setup.fail_eq, Setup.fail_eq]
    split
    · exact .ended failed
    · exact .on ⟨failed, hleft.trans first, hright.trans second⟩

end At

/-! ## Whole runs -/

variable (setup steps) in
/-- Where a number of levels is left, the run of commands goes along the run of what they are
spliced to.  That run reaches no inclusion, so it does not matter what would run one, nor from
where. -/
def Goes (course : Option (Setup.Course σ)) (place : String) (levels : Nat) : Prop :=
  ∀ (depth : Nat) (directory : String) (cs : List Command) (front back : List Step)
      (p q : Progress σ),
    At setup steps front p q →
    steps = front ++ (splice setup.files levels directory cs ++ back) →
    (∀ t ∈ setup.turns levels depth directory cs p, t.Static setup.files) →
    Both setup steps (front ++ splice setup.files levels directory cs)
      (setup.runWithin levels directory cs p)
      (setup.runCommands course place (flatten (splice setup.files levels directory cs)) q)

namespace Goes

variable {course : Option (Setup.Course σ)} {place : String} {levels : Nat}
variable (hdemo : setup.session.config.demo = false)
variable (hregistry : setup.registry.Respects Surroundings.Alike)
variable (hfake : setup.fake.Respects Surroundings.Alike)

include hdemo hregistry hfake

/-- Commands go along what they are spliced to if the included scripts do. -/
theorem of_inner (hinner : ∀ n, levels = n + 1 → Goes setup steps course place n) :
    Goes setup steps course place levels := by
  intro depth directory cs
  induction cs with
  | nil =>
    intro front back p q h hsteps hstatic
    rw [splice_nil, List.append_nil, Setup.runWithin_eq]
    exact .on h
  | cons c cs ih =>
    intro front back p q h hsteps hstatic
    have later : ∀ p', setup.dispatch (setup.inner levels) directory c p = (.ok (), p') →
        ∀ t ∈ setup.turns levels depth directory cs p', t.Static setup.files :=
      fun p' hp' t ht => hstatic t (Setup.mem_turns_behind hp' ht)
    rw [Setup.runWithin_cons]
    by_cases hc : c.name = "include"
    · obtain ⟨hlevels, hsome⟩ := hstatic _ Setup.mem_turns_first hc
      obtain ⟨script, hscript⟩ := Option.isSome_iff_exists.mp hsome
      cases levels with
      | zero => exact absurd rfl hlevels
      | succ levels =>
        obtain ⟨t, ht⟩ : ∃ t : Turn σ, t = ⟨depth, levels + 1, directory, c, p⟩ := ⟨_, rfl⟩
        obtain ⟨hfate, told, hclosing⟩ := Setup.fate_static hscript ht
        rw [splice_inclusion hscript, List.cons_append] at hsteps ⊢
        rw [flatten_inclusion, flatten_append, Setup.runCommands_append]
        -- the inclusion is a step of its own, behind which the included commands go along
        have inside := hinner levels rfl (depth + 1) script.directory script.commands
          (front ++ [.inclusion]) (splice setup.files (levels + 1) directory cs ++ back)
          (setup.closing t) q (h.included hdemo ht hclosing) (by rw [hsteps]; simp)
          fun u hu => hstatic u (Setup.mem_turns_inside ht hfate hu)
        rw [← Setup.dispatch_loading ht hfate] at inside
        refine cast ?_ (inside.bind fun p₂ q₂ hp₂ h₂ =>
          ih _ back p₂ q₂ h₂ (by rw [hsteps]; simp) (later p₂ hp₂))
        simp
    · have stays : setup.files.included? directory c = none := if_neg hc
      rw [splice_command (.inr stays)] at hsteps ⊢
      rw [flatten_command, Setup.runCommands_cons]
      have first := h.dispatch hdemo hregistry hfake hc hsteps (setup.inner levels) course directory
        place
      refine cast ?_ (first.bind fun p₁ q₁ hp₁ h₁ =>
        ih _ back p₁ q₁ h₁ (by rw [hsteps]; simp) (later p₁ hp₁))
      simp

theorem all : ∀ levels, Goes setup steps course place levels
  | 0 => of_inner hdemo hregistry hfake fun n hn => by cases hn
  | levels + 1 => of_inner hdemo hregistry hfake fun n hn => by
    cases hn
    exact all levels

end Goes

/-- The report with the numbers of the run of the script. -/
def Report.renumber (steps : List Step) (r : Report) : Report :=
  { r with failures := r.failures.map (Failure.renumber steps) }

/-- A run ends as another does that has fewer steps: in the same phase, with the session in the same
state, and with the same error or the same report, up to the numbers of failures. -/
structure Ending.Renumbers (steps : List Step) (nested flat : Ending σ) : Prop where
  result : nested.result = flat.result.map (Report.renumber steps)
  phase : nested.phase = flat.phase
  session : nested.world.session = flat.world.session

theorem Ending.Renumbers.of_agrees {steps : List Step} {nested nested' flat flat' : Ending σ}
    (h : nested'.Renumbers steps flat') (hnested : nested.Agrees nested')
    (hflat : flat.Agrees flat') : nested.Renumbers steps flat where
  result := by rw [hnested.result, h.result, hflat.result]
  phase := by rw [hnested.phase, h.phase, hflat.phase]
  session := by rw [hnested.session, h.session, hflat.session]

namespace Setup

/-- Without spectators a script and its flat script, run in one world, end alike. -/
theorem run_flat_unwatched (setup : Setup σ) (hdemo : setup.session.config.demo = false)
    (hregistry : setup.registry.Respects Surroundings.Alike)
    (hfake : setup.fake.Respects Surroundings.Alike) (script : Script) (world : World σ)
    (hstatic : ∀ t ∈ setup.scriptTurns script world, t.Static setup.files) :
    (setup.run script world).Renumbers (script.steps setup.files)
        (setup.run (script.flat setup.files) world) ∧
      (setup.run script world).world.outside.Alike
        (setup.run (script.flat setup.files) world).world.outside := by
  have start : At setup (script.steps setup.files) [] (setup.start world) (setup.start world) := by
    refine ⟨⟨⟨rfl, rfl, rfl, rfl, rfl, rfl⟩, rfl, ?_, rfl, rfl⟩, rfl, rfl⟩
    exact hregistry.withUsual (Namespace.all_empty _)
  have goes : Goes setup (script.steps setup.files) (setup.inner maxIncludeDepth)
      (script.flat setup.files).directory maxIncludeDepth :=
    Goes.all hdemo hregistry hfake _
  have both := goes 0 script.directory script.commands [] [] _ _ start (List.append_nil _).symm
    hstatic
  rw [← Setup.runWithin_eq] at both
  obtain ⟨x, hx⟩ : ∃ x, setup.runWithin maxIncludeDepth script.directory script.commands
    (setup.start world) = x := ⟨_, rfl⟩
  obtain ⟨y, hy⟩ : ∃ y, setup.runWithin maxIncludeDepth (script.flat setup.files).directory
    (script.flat setup.files).commands (setup.start world) = y := ⟨_, rfl⟩
  replace both : Both setup (script.steps setup.files) (script.steps setup.files) x y := by
    rw [← hx, ← hy]
    exact both
  have nested : setup.run script world = .of x := (setup.run_eq _ _).trans (congrArg _ hx)
  have flat : setup.run (script.flat setup.files) world = .of y :=
    (setup.run_eq _ _).trans (congrArg _ hy)
  rw [nested, flat]
  cases both with
  | @on p q h =>
    refine ⟨⟨congrArg Except.ok ?_, rfl, h.world.1⟩, h.world.2⟩
    show (⟨p.executed, p.failures, p.names⟩ : Report) = ⟨q.executed, _, q.names⟩
    rw [h.executed, h.failures, h.names]
  | ended h => exact ⟨⟨rfl, rfl, h.world.1⟩, h.world.2⟩

/-- The inclusions of two runs of which one replays the other can be replaced alike. -/
theorem static_iff {setup : Setup σ} {b : Bool} {files : FileTree} {ts us : List (Turn σ)}
    (h : List.Forall₂ (setup.Replayed b) ts us) :
    (∀ t ∈ ts, t.Static files) ↔ ∀ u ∈ us, u.Static files := by
  refine forall_replayed_iff (fun t u h => ?_) h
  rw [Turn.Static, Turn.Static, h.command, h.levels, h.directory]

end Setup

/-- A setup with two files, of which one includes the other from its own directory, and a browser
that fails every call. -/
def brokenSetup : Setup Unit where
  session := ⟨.usual, fun _ => .running, fun _ _ => ⟨.error .sessionStopped, [], ()⟩⟩
  registry := Library.standard
  fake := Fake.generate
  options := .usual
  files := .ofFiles ["home"]
    [("sub/outer.json", some "[\x7b\"include\": \"inner.json\"\x7d, \"back\"]"),
      ("sub/inner.json", some "[\"forward\"]")]

/-- A script that includes the outer file. -/
def outerScript : Script := ⟨[⟨"include", some (.text "sub/outer.json")⟩], none⟩

/-- A world in which nothing has happened. -/
def stillWorld : World Unit := ⟨(), .still⟩

-- both inclusions are counted in front of the two commands
example : (brokenSetup.traced.run outerScript stillWorld.fresh).result.toOption.map
    (·.failures.map (·.index)) = some [3, 4] := by decide +kernel

-- in one world with spectators the flat script leaves the numbers that the inclusions' rests take
example :
    let watched := (brokenSetup.watched true).traced
    let world := (stillWorld.facing ⟨id, id⟩).fresh
    let drawing : Script :=
      ⟨outerScript.commands ++ [⟨"back", some (.text "(( randint|0, 9 ))")⟩], none⟩
    let drawn (ending : Ending (Unit × List Call)) :=
      ending.result.toOption.map fun report => (report.names.history "randint").map Value.toText
    drawn (watched.run drawing world) = some ["5"] ∧
      drawn (watched.run (drawing.flat brokenSetup.files) world) = some ["3"] := by
  decide +kernel

end PageScript
