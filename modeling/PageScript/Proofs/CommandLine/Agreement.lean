import PageScript.Fake.Data
import PageScript.Proofs.Browser.Errors
import PageScript.Proofs.CommandLine.Telling
import PageScript.Proofs.Run.Accounting
import PageScript.Proofs.Run.Known

/-!
# Checking and running

A check reads a script and what it includes, and a run does it all.  Where inclusions write their
paths down, both come to the same commands: the turns of a run that goes on behind failures, as far
as a check could tell of them, are the encounters of the walk through the files
(`Takes.encounters_eq`).  So a strict check counts as many problems as the run has failures of
commands that are unknown and of inclusions, and both open the same files in the same order
(`check_agrees`).

What else fails in the run is up to the page, and none of it fails for the reason that a command is
unknown; that is asked of the session and of the registry.
-/

namespace PageScript

variable {σ : Type}

/-- If it is an inclusion, its argument is a text without a token. -/
def Command.IncludesPlainly (c : Command) : Prop :=
  c.name = "include" → ∃ text, c.argument = some (.text text) ∧ Token.body? text = none

instance (c : Command) : Decidable c.IncludesPlainly :=
  decidable_of_iff (c.name = "include" → (match c.argument with
    | some (.text text) => (Token.body? text).isNone
    | _ => false) = true) <| imp_congr_right fun _ => by
    split
    · next harg => simp [harg]
    · next hother =>
      simp only [Bool.false_eq_true, false_iff]
      rintro ⟨text, harg, -⟩
      exact hother text harg

/-- No inclusion in a file computes its path. -/
def FileTree.PlainInclusions (files : FileTree) : Prop :=
  ∀ path script, (Script.load files path).1 = .ok script → ∀ c ∈ script.commands, c.IncludesPlainly

theorem Command.IncludesPlainly.target {c : Command} (h : c.IncludesPlainly) {directory path : String}
    (htarget : c.target? directory = some path) :
    c.name = "include" ∧ ∃ text, c.argument = some (.text text) ∧ Token.body? text = none ∧
      path = Path.join directory text := by
  unfold Command.target? at htarget
  split at htarget
  · next hname =>
    obtain ⟨text, harg, hbody⟩ := h hname
    rw [harg] at htarget
    cases htarget
    exact ⟨hname, text, harg, hbody, rfl⟩
  · cases htarget

theorem Command.IncludesPlainly.other {c : Command} (h : c.IncludesPlainly) {directory : String}
    (htarget : c.target? directory = none) : c.name ≠ "include" := by
  intro hname
  obtain ⟨text, harg, -⟩ := h hname
  rw [Command.target?, if_pos hname, harg] at htarget
  cases htarget

namespace Setup

variable (setup : Setup σ)

/-! ## Turns as encounters -/

/-- The command of the turn is unknown, or it is an inclusion, and it fails for that. -/
def isProblem (t : Turn σ) : Bool :=
  match setup.fate t with
  | .failed e => e.isUnknown || t.command.name = "include"
  | _ => false

/-- The path of the file that a turn opens. -/
def opens (t : Turn σ) : Option String :=
  if t.command.name = "include" ∧ 0 < t.levels then
    (setup.askedPath t.command (setup.opening t)).1.toOption.map (Path.join t.directory)
  else none

/-- A turn as a walk through files comes to its command. -/
def encounter (t : Turn σ) : Encounter := ⟨t.command, setup.isProblem t, setup.opens t⟩

section

variable {t : Turn σ} {path : String} (hplain : t.command.IncludesPlainly)

include hplain

theorem encounter_single (hunknown : setup.options.unknown = .error) (hs : setup.session.Familiar)
    (hnames : t.before.names.Familiar) (h : t.command.target? t.directory = none) :
    setup.encounter t = ⟨t.command, !t.command.isKnown, none⟩ := by
  have hname := hplain.other h
  have problem : setup.isProblem t = !t.command.isKnown := by
    unfold isProblem
    cases hknown : t.command.isKnown with
    | false =>
      rw [fate_unknown hunknown hknown]
      rfl
    | true =>
      cases hfate : setup.fate t with
      | failed e => simp [hname, fate_known hs hnames hname hknown hfate]
      | _ => rfl
  rw [encounter, problem, opens, if_neg fun hinclude => hname hinclude.1]

theorem askedPath_plain (h : t.command.target? t.directory = some path) :
    t.command.name = "include" ∧ ∃ text, path = Path.join t.directory text ∧
      setup.askedPath t.command (setup.opening t) = (.ok text, setup.opening t) := by
  obtain ⟨hname, text, harg, hbody, rfl⟩ := hplain.target h
  have static : t.command.argument.all Value.isStatic = true := by
    simp [harg, Value.isStatic, Value.isPlain, hbody]
  refine ⟨hname, text, rfl, ?_⟩
  rw [askedPath, Lockstep.bind_ok (arguments_static setup static _), Command.written, harg]
  rfl

/-- Where no levels are left, an inclusion fails and opens nothing. -/
theorem encounter_refused (h : t.command.target? t.directory = some path) (hlevels : t.levels = 0) :
    setup.fate t = .failed refusal ∧ setup.encounter t = ⟨t.command, true, none⟩ := by
  obtain ⟨hname, text, rfl, hasked⟩ := setup.askedPath_plain hplain h
  have hfate := (fate_refused hname hlevels hasked).1
  refine ⟨hfate, ?_⟩
  simp [encounter, isProblem, opens, hfate, hname, hlevels]

/-- Where levels are left, an inclusion opens its file, and it fails if the file holds no script. -/
theorem encounter_included (h : t.command.target? t.directory = some path)
    (hlevels : 0 < t.levels) : setup.fate t = .ofLoading (inclusionOf setup.files path) ∧
      setup.encounter t
        = ⟨t.command, !(Script.load setup.files path).1.toOption.isSome, some path⟩ := by
  obtain ⟨hname, text, rfl, hasked⟩ := setup.askedPath_plain hplain h
  have hfate := (fate_included hname hlevels hasked).1
  refine ⟨hfate, ?_⟩
  rw [encounter, isProblem, opens, hfate, if_pos ⟨hname, hlevels⟩, hasked, inclusionOf]
  cases (Script.load setup.files (Path.join t.directory text)).1 <;>
    simp [Fate.ofLoading, Except.toOption, hname]

end

/-! ## Runs -/

variable {setup} {t : Turn σ} {script : Script}

namespace Takes

open Checking

variable {levels depth : Nat} {directory : String} {c : Command} {cs : List Command}
  {p q : Progress σ} {ts : List (Turn σ)} {r : Except Error Unit}

/-- A turn that loads nothing is one encounter. -/
theorem encounters_cons (ht : t = ⟨depth, levels, directory, c, p⟩)
    (hunknown : setup.options.unknown = .error) (hs : setup.session.Familiar)
    (hplain : c.IncludesPlainly) (hnames : t.before.names.Familiar)
    (hfate : (setup.fate t).isLoaded = false) :
    encounters setup.files levels directory (c :: cs)
      = setup.encounter t :: encounters setup.files levels directory cs := by
  subst ht
  cases htarget : c.target? directory with
  | none => rw [encounters_single htarget, setup.encounter_single hplain hunknown hs hnames htarget]
  | some path =>
    cases levels with
    | zero => rw [encounters_refused htarget, (setup.encounter_refused hplain htarget rfl).2]
    | succ levels =>
      obtain ⟨hloading, hencounter⟩ := setup.encounter_included
        (t := ⟨depth, levels + 1, directory, c, p⟩) hplain htarget (Nat.succ_pos levels)
      rw [hloading, inclusionOf] at hfate
      cases hload : (Script.load setup.files path).1 with
      | ok script =>
        rw [hload] at hfate
        cases hfate
      | error e =>
        rw [encounters_missing htarget hload, hencounter, hload]
        rfl

/-- A turn that loads a script is an encounter in front of those in the script. -/
theorem encounters_inclusion (ht : t = ⟨depth, levels + 1, directory, c, p⟩)
    (hplain : c.IncludesPlainly) (hfate : setup.fate t = .loaded script) :
    encounters setup.files (levels + 1) directory (c :: cs)
      = setup.encounter t :: encounters setup.files levels script.directory script.commands
        ++ encounters setup.files (levels + 1) directory cs := by
  have hname := (loading_of_loaded hfate).1
  subst ht
  cases htarget : c.target? directory with
  | none => exact absurd hname (hplain.other htarget)
  | some path =>
    obtain ⟨hloading, hencounter⟩ := setup.encounter_included
      (t := ⟨depth, levels + 1, directory, c, p⟩) hplain htarget (Nat.succ_pos levels)
    rw [hloading, inclusionOf] at hfate
    cases hload : (Script.load setup.files path).1 with
    | error e =>
      rw [hload] at hfate
      cases hfate
    | ok found =>
      rw [hload] at hfate
      cases hfate
      rw [encounters_loaded htarget hload, hencounter, hload]
      rfl

/-- The turns of a run are what a walk through the files comes to. -/
theorem encounters_eq (h : setup.Takes levels depth directory cs p ts r q)
    (herrors : setup.options.errors = false) (hunknown : setup.options.unknown = .error)
    (hs : setup.session.Familiar) (hfiles : setup.files.PlainInclusions)
    (hcs : ∀ c ∈ cs, c.IncludesPlainly) (hnames : ∀ t ∈ ts, t.before.names.Familiar) :
    ts.map setup.encounter = encounters setup.files levels directory cs := by
  induction h with
  | nil => exact encounters_nil.symm
  | done ht hfate hrest ih =>
    obtain ⟨hplain, hcs⟩ := List.forall_mem_cons.mp hcs
    obtain ⟨hfirst, hnames⟩ := List.forall_mem_cons.mp hnames
    rw [encounters_cons ht hunknown hs hplain hfirst (by rw [hfate]; rfl), ← ih hcs hnames]
    rfl
  | failed ht hfate _ hrest ih =>
    obtain ⟨hplain, hcs⟩ := List.forall_mem_cons.mp hcs
    obtain ⟨hfirst, hnames⟩ := List.forall_mem_cons.mp hnames
    rw [encounters_cons ht hunknown hs hplain hfirst (by rw [hfate]; rfl), ← ih hcs hnames]
    rfl
  | ended ht hfate hends =>
    rw [herrors] at hends
    cases hends
  | loaded ht hfate hinside hrest ihinside ih =>
    obtain ⟨hplain, hcs⟩ := List.forall_mem_cons.mp hcs
    obtain ⟨hfront, hnames⟩ := List.forall_mem_append.mp hnames
    obtain ⟨-, hinner⟩ := List.forall_mem_cons.mp hfront
    obtain ⟨path, hload⟩ := load_of_loaded hfate
    rw [encounters_inclusion ht hplain hfate, ← ih hcs hnames,
      ← ihinside (hfiles path _ hload) hinner, List.map_append]
    rfl
  | broken ht hfate hinside ihinside => cases hinside.ok_of_patient herrors

end Takes

/-! ## The failures of turns -/

/-- Of the failures, each known by the number of its turn, as many are of turns of a kind as there
are such turns, if they all fail. -/
theorem countP_failuresOf {P : Turn σ → Bool} (n : Nat) (ts : List (Turn σ))
    (hP : ∀ t ∈ ts, P t = true → (setup.fate t).error?.isSome = true) :
    (setup.failuresOf n ts).countP (fun f => (ts[f.index - n - 1]?).any P) = ts.countP P := by
  induction ts generalizing n with
  | nil => rfl
  | cons t ts ih =>
    obtain ⟨hfirst, hrest⟩ := List.forall_mem_cons.mp hP
    have behind : (setup.failuresOf (n + 1) ts).countP (fun f => ((t :: ts)[f.index - n - 1]?).any P)
        = ts.countP P := by
      rw [← ih (n + 1) hrest]
      refine List.countP_congr fun f hf => ?_
      have place : f.index - n - 1 = f.index - (n + 1) - 1 + 1 := by
        have := setup.lt_index_of_mem_failuresOf hf
        omega
      rw [place, List.getElem?_cons_succ]
    rw [failuresOf, List.countP_cons]
    cases herror : (setup.fate t).error? with
    | some e =>
      dsimp only
      rw [List.countP_cons, behind]
      simp
    | none =>
      have other : P t = false := by
        rw [herror] at hfirst
        simpa using hfirst
      simp [behind, other]

theorem error?_of_isProblem (h : setup.isProblem t = true) : (setup.fate t).error?.isSome = true := by
  unfold isProblem at h
  split at h
  · next e hfate => rw [hfate]; rfl
  · cases h

/-! ## Whole runs -/

variable {path : String}

/-- A strict check of a path agrees with the turns and the report of a run. -/
structure Agrees (setup : Setup σ) (path : String) (outside : Surroundings) (turns : List (Turn σ))
    (report : Report) : Prop where
  /-- A failure is of the turn of its number, and tells why its command failed. -/
  failed : ∀ f ∈ report.failures, ∃ t e, turns[f.index - 1]? = some t ∧ setup.fate t = .failed e ∧
    f.command = Script.reportText t.command ∧ f.error = e.message
  /-- The check finds as many problems as commands failed that are unknown or inclusions. -/
  problems : (Checking.check setup.files true path outside).1
    = report.failures.countP fun f => (turns[f.index - 1]?).any setup.isProblem
  /-- Behind the file that it is given, the run opens those of the walk, in the same order. -/
  opened : path :: turns.filterMap setup.opens = Checking.walk setup.files maxIncludeDepth path
  /-- The check tells of every file of the walk. -/
  told : ∀ p ∈ Checking.walk setup.files maxIncludeDepth path, ∃ steps,
    Checking.fileLine setup.files steps p ∈ (Checking.check setup.files true path outside).2.output
  /-- The check looks at no other file. -/
  looked : ∀ other : FileTree, (∀ p ∈ Checking.walk setup.files maxIncludeDepth path,
    Script.load other p = Script.load setup.files p) →
    Checking.check other true path outside = Checking.check setup.files true path outside

theorem Takes.agrees {p q : Progress σ} {ts : List (Turn σ)} {r : Except Error Unit}
    (h : setup.Takes maxIncludeDepth 0 script.directory script.commands p ts r q)
    (hload : (Script.load setup.files path).1 = .ok script) (hp : p.tally = ⟨0, 0, []⟩)
    (hencounters : ts.map setup.encounter
      = Checking.encounters setup.files maxIncludeDepth script.directory script.commands)
    (outside : Surroundings) :
    setup.Agrees path outside ts ⟨q.executed, q.failures, q.names⟩ := by
  have failures : q.failures = setup.failuresOf 0 ts := by
    rw [h.failures_eq, show p.index = 0 from congrArg Tally.index hp,
      show p.failures = [] from congrArg Tally.failures hp, List.nil_append]
  refine ⟨fun f hf => ?_, ?_, ?_, fun p hp => ?_, fun other hother => ?_⟩
  · rw [failures] at hf
    obtain ⟨front, t, back, e, rfl, hfate, rfl⟩ := setup.mem_failuresOf_iff.mp hf
    exact ⟨t, e, by simp, hfate, rfl, rfl⟩
  · have counted : (setup.failuresOf 0 ts).countP (fun f => (ts[f.index - 1]?).any setup.isProblem)
        = ts.countP setup.isProblem := countP_failuresOf 0 ts fun t _ => error?_of_isProblem
    rw [Checking.check, Checking.checkWithin_result, Checking.problemsOf, hload]
    dsimp only
    rw [failures, counted, ← hencounters, List.countP_map]
    rfl
  · rw [Checking.walk, hload]
    dsimp only
    rw [← hencounters, List.filterMap_map]
    rfl
  · obtain ⟨steps, htells⟩ := Checking.told_of_walk hp
    exact ⟨steps, htells outside⟩
  · exact congrFun (Checking.checkWithin_congr hother) outside

/-- Where inclusions write their paths down, a strict check of a script agrees with any run of it that
goes on behind failures and fails unknown commands, whatever becomes of the other commands. -/
theorem check_agrees (setup : Setup σ) (herrors : setup.options.errors = false)
    (hunknown : setup.options.unknown = .error) (hsession : setup.session.Familiar)
    (hregistry : setup.registry.Familiar) (hfiles : setup.files.PlainInclusions)
    (path : String) (script : Script) (hload : (Script.load setup.files path).1 = .ok script)
    (world : World σ) (outside : Surroundings) :
    ∃ report, (setup.run script world).result = .ok report ∧
      setup.Agrees path outside (setup.scriptTurns script world) report := by
  obtain ⟨r, q, hrun, takes⟩ := setup.run_takes script world
  have names := takes.names_familiar hregistry (start_familiar hregistry world)
  have encounters := takes.encounters_eq herrors hunknown hsession hfiles
    (hfiles path script hload) names
  cases takes.ok_of_patient herrors
  refine ⟨⟨q.executed, q.failures, q.names⟩, ?_, takes.agrees hload rfl encounters outside⟩
  rw [hrun]
  rfl

end Setup

/-! ## Files that include each other -/

/-- The text of a file that includes another one and has a command that is unknown. -/
def mainText : String := "[\x7b\"include\":\"sub/part.json\"\x7d,\"nod\"]"

/-- The text of a file that includes it again, between a command of the page and the inclusion of a
file that is missing. -/
def partText : String :=
  "[\"back\",\x7b\"include\":\"../main.json\"\x7d,\x7b\"include\":\"none\"\x7d]"

/-- A setup with these files and a browser that does not answer. -/
def circularSetup : Setup (Browsing Unit) where
  session := Browsing.session (Link.broken (.browser "no answer")) .usual
  registry := Library.standard
  fake := Fake.generate
  options := { Options.usual with unknown := .error }
  files := ⟨["home"], [(["home"], .directory), (["home", "main.json"], .file (some mainText)),
    (["home", "sub"], .directory), (["home", "sub", "part.json"], .file (some partText))]⟩

/-- A world in which a browser has been launched. -/
def launchedWorld : World (Browsing Unit) :=
  ⟨⟨(), true, ["first"], 0, circularSetup.files, []⟩, .still⟩

theorem circular_plainInclusions : circularSetup.files.PlainInclusions := by
  refine FileTree.loaded_of_texts (P := fun cs => ∀ c ∈ cs, c.IncludesPlainly)
    fun e he text htext format script hscript => ?_
  have plain (text : String) (h : ∀ format, (Script.ofText format text).toOption.all
      (·.commands.all fun c => decide c.IncludesPlainly) = true)
      (hscript : Script.ofText format text = .ok script) : ∀ c ∈ script.commands,
      c.IncludesPlainly := by
    have := h format
    rw [hscript] at this
    simpa [Except.toOption] using this
  simp [circularSetup] at he
  rcases he with rfl | rfl | rfl | rfl
  · cases htext
  · cases htext
    exact plain mainText (by rintro (_ | _) <;> decide +kernel) hscript
  · cases htext
  · cases htext
    exact plain partText (by rintro (_ | _) <;> decide +kernel) hscript

/-- The files include each other until no levels are left.  The check finds twelve problems, and
the calls to the page that fail in the run do not count. -/
theorem check_agrees_circular :
    circularSetup.options.errors = false ∧ circularSetup.options.unknown = .error ∧
      circularSetup.session.Familiar ∧ circularSetup.registry.Familiar ∧
      circularSetup.files.PlainInclusions ∧
      ∃ script report, (Script.load circularSetup.files "main.json").1 = .ok script ∧
        (circularSetup.run script launchedWorld).result = .ok report ∧
        circularSetup.Agrees "main.json" launchedWorld.outside
          (circularSetup.scriptTurns script launchedWorld) report ∧
        (Checking.check circularSetup.files true "main.json" launchedWorld.outside).1 = 12 := by
  have session : circularSetup.session.Familiar := by
    refine Browsing.session_familiar ⟨fun _ _ e he => ?_, rfl⟩ .usual
    cases he
    rfl
  have loads : (Script.load circularSetup.files "main.json").1.toOption.isSome = true := by
    decide +kernel
  obtain ⟨script, hload⟩ : ∃ script,
      (Script.load circularSetup.files "main.json").1 = .ok script := by
    cases hload : (Script.load circularSetup.files "main.json").1 with
    | ok script => exact ⟨script, rfl⟩
    | error e =>
      rw [hload] at loads
      cases loads
  obtain ⟨report, hreport, hagrees⟩ := circularSetup.check_agrees rfl rfl session
    Library.standard_familiar circular_plainInclusions "main.json" script hload launchedWorld
    launchedWorld.outside
  exact ⟨rfl, rfl, session, Library.standard_familiar, circular_plainInclusions, script, report,
    hload, hreport, hagrees, by decide +kernel⟩

end PageScript
