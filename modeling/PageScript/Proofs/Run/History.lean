import PageScript.Proofs.Expression.Tokens
import PageScript.Proofs.Run.Calling
import PageScript.Proofs.Run.Importing
import PageScript.Proofs.Run.Inclusion

/-!
# The history of a run

A run begins with those usual imports that there are, and with nothing recorded.  From then on a
command changes the namespace in three ways only: its tokens record their values, a reading of the
page records its text, and an import adds functions under new names (`closing_names`).  So the
namespaces along a run extend each other, through inclusions and behind failures alike.
-/

namespace PageScript

variable {σ : Type}

/-- What expressions are resolved in. -/
def Progress.scope (p : Progress σ) : Scope := ⟨p.names, p.world.outside⟩

/-- A command that is known: it names an operation, or a run treats it on its own. -/
def Command.isKnown (c : Command) : Bool :=
  reservedNames.contains c.name || (Operation.ofName? c.name).isSome

namespace Setup

variable (setup : Setup σ)

/-! ## What a turn adds -/

/-- How a command reads a text from an element. -/
def reader? : (name : String) → Option (String → Doing σ String)
  | "value_of" => some fun selector => Doing.call setup.session (.getValue selector)
  | "text_of" => some fun selector => Doing.call setup.session (.getText selector)
  | _ => none

/-- Reads a text from the element that arguments select. -/
def readSelected (read : String → Doing σ String) (args : Arguments) : Running σ String := do
  let selector ← Running.ofExcept (args.text 0 "selector")
  if (← Running.status setup.session) = .stopped then throw .sessionStopped
  Running.doing (read selector)

/-- Reads the text that a command asks for. -/
def readText (c : Command) (read : String → Doing σ String) : Running σ String := do
  setup.readSelected read (← setup.arguments c)

/-- What a turn records of what it reads from the page. -/
def reads (t : Turn σ) : List (String × Value) :=
  match setup.reader? t.command.name with
  | none => []
  | some read =>
    match setup.readText t.command read (setup.opening t) with
    | (.ok text, _) => [(t.command.name, .text text)]
    | (.error _, _) => []

/-- What a turn records: the values of its tokens, and then what it reads. -/
def recorded (t : Turn σ) : List (String × Value) :=
  (if t.command.isKnown then
    setup.resolver.entries t.command.bodies (setup.opening t).scope else []) ++ setup.reads t

/-- What a turn imports. -/
def imports (t : Turn σ) : List (String × Callable) :=
  if t.command.name = "import" then
    match setup.arguments t.command (setup.opening t) with
    | (.ok args, p) => Importing.additions setup.registry args.values p.names
    | (.error _, _) => []
  else []

/-! ## Single commands -/

theorem opening_names (t : Turn σ) : (setup.opening t).names = t.before.names := by
  obtain ⟨outside, hmeet⟩ := setup.meet_ok t.command t.before
  rw [opening, met, hmeet]

theorem arguments_names (c : Command) (p : Progress σ) :
    (setup.arguments c p).2.names
      = p.names.grown [] (setup.resolver.entries c.bodies p.scope) :=
  c.arguments_names setup.resolver p.scope

theorem importValue_named {v : Value} {functions : List (String × Callable)}
    (h : Importing.named? setup.registry v = some functions) (p : Progress σ) :
    setup.importValue v p
      = (.ok (), { p with names := p.names.grown (Importing.fresh p.names functions) [] }) := by
  cases hspec : v.scalarText with
  | none => simp [Importing.named?, hspec] at h
  | some spec => exact importValue_ok hspec (Importing.importSpec_named p.names hspec h)

theorem importValue_unnamed {v : Value} (h : Importing.named? setup.registry v = none)
    (p : Progress σ) : ∃ e, setup.importValue v p = (.error e, p) := by
  cases hspec : v.scalarText with
  | none =>
    unfold importValue
    rw [hspec]
    exact ⟨_, rfl⟩
  | some spec =>
    obtain ⟨e, missing⟩ := Importing.importSpec_unnamed p.names hspec h
    exact ⟨e, importValue_error hspec missing⟩

theorem importValues_names (vs : List Value) (p : Progress σ) :
    (setup.importValues vs p).2.names
      = p.names.grown (Importing.additions setup.registry vs p.names) [] := by
  induction vs generalizing p with
  | nil =>
    rw [Importing.additions, Namespace.grown_nil]
    rfl
  | cons v vs ih =>
    rw [importValues, Importing.additions]
    cases h : Importing.named? setup.registry v with
    | none =>
      obtain ⟨e, himport⟩ := setup.importValue_unnamed h p
      simp [Lockstep.bind_error himport]
    | some functions => simp [Lockstep.bind_ok (setup.importValue_named h p), ih]

theorem importCommand_names (c : Command) (p : Progress σ) :
    (setup.importCommand c p).2.names = match setup.arguments c p with
      | (.ok args, q) => q.names.grown (Importing.additions setup.registry args.values q.names) []
      | (.error _, q) => q.names := by
  obtain ⟨r, q, hargs⟩ : ∃ r q, setup.arguments c p = (r, q) := ⟨_, _, rfl⟩
  unfold importCommand
  cases r with
  | error e => simp [Lockstep.bind_error hargs, hargs]
  | ok args =>
    rw [Lockstep.bind_ok hargs, hargs]
    cases hvalues : args.values with
    | nil =>
      show q.names = q.names.grown (Importing.additions setup.registry args.values q.names) []
      rw [hvalues, Importing.additions, Namespace.grown_nil]
    | cons v vs =>
      show (setup.importValues (v :: vs) q).2.names
        = q.names.grown (Importing.additions setup.registry args.values q.names) []
      rw [hvalues, setup.importValues_names]

/-! ## What leaves the namespace alone -/

/-- The part of a run leaves the namespace alone. -/
abbrev KeepsNames {α : Type} (a : Running σ α) : Prop := ∀ ns, Keeps (fun p => p.names = ns) a

variable {setup}

theorem keepsNames_doing {α : Type} (a : Doing σ α) : KeepsNames (Running.doing a) :=
  fun _ _ h => h

theorem keepsNames_ofExcept {α : Type} (r : Except Error α) :
    KeepsNames (Running.ofExcept r : Running σ α) := by
  intro ns
  cases r with
  | ok x => exact .of_pure x
  | error e => exact .of_throw e

theorem keepsNames_unknownCommand (name : String) : KeepsNames (setup.unknownCommand name) := by
  intro ns
  unfold unknownCommand
  cases setup.options.unknown with
  | ignore => exact .of_pure ()
  | warn => exact keepsNames_doing _ ns
  | error => exact .of_throw _

theorem keepsNames_loadPath (deeper : Bool) (path : String) :
    KeepsNames (setup.loadPath deeper path) := by
  intro ns p hp
  cases deeper with
  | false =>
    rw [loadPath_shallow]
    exact hp
  | true =>
    obtain ⟨pieces, hload⟩ := setup.loadPath_deeper path p
    rw [hload]
    exact hp

theorem keepsNames_stopSession : KeepsNames setup.stopSession := by
  refine fun ns => .of_bind (keepsNames_doing _ ns) fun status => ?_
  split
  · refine .of_bind (attempt_keeps (keepsNames_doing _ ns)) fun r => ?_
    cases r with
    | ok _ => exact .of_pure ()
    | error e => exact keepsNames_doing _ ns
  · exact .of_pure ()

theorem failed_names (index : Nat) (c : Command) (e : Error) (p : Progress σ) :
    (setup.failed index c e p).names = p.names := by
  unfold failed
  split
  · exact keepsNames_stopSession p.names (noted index c e p) rfl
  · rfl

/-- Where nothing else changes the namespace, it is the tokens of the argument that do. -/
theorem names_behind_arguments {α : Type} {f : Arguments → Running σ α}
    (hf : ∀ args, KeepsNames (f args)) (c : Command) (p : Progress σ) :
    ((setup.arguments c >>= f) p).2.names
      = p.names.grown [] (setup.resolver.entries c.bodies p.scope) := by
  rw [← setup.arguments_names c p]
  obtain ⟨r, q, hargs⟩ : ∃ r q, setup.arguments c p = (r, q) := ⟨_, _, rfl⟩
  cases r with
  | error e => rw [Lockstep.bind_error hargs, hargs]
  | ok args =>
    rw [Lockstep.bind_ok hargs, hargs]
    exact hf args q.names q rfl

/-! ## Turns -/

theorem keepsNames_readSelected (read : String → Doing σ String) (args : Arguments) :
    KeepsNames (setup.readSelected read args) :=
  fun ns => .of_bind (keepsNames_ofExcept _ ns) fun _ =>
    .of_bind (keepsNames_doing _ ns) fun _ => .of_guard (keepsNames_doing _ ns)

theorem readText_names (setup : Setup σ) (c : Command) (read : String → Doing σ String)
    (p : Progress σ) :
    (setup.readText c read p).2.names
      = p.names.grown [] (setup.resolver.entries c.bodies p.scope) :=
  names_behind_arguments (keepsNames_readSelected read) c p

theorem readCommand_eq (c : Command) (read : String → Doing σ String) :
    setup.readCommand c read = setup.readText c read >>= fun text =>
      modify fun p => { p with names := p.names.record c.name (.text text) } := by
  unfold readCommand readText readSelected
  simp only [bind_assoc]
  refine congrArg _ (funext fun args => congrArg _ (funext fun selector => congrArg _ ?_))
  funext status
  split <;> rfl

theorem runCommand_reader {c : Command} {read : String → Doing σ String}
    (h : setup.reader? c.name = some read) : setup.runCommand c = setup.readCommand c read := by
  unfold reader? at h
  unfold runCommand
  split at h
  · cases h
    simp [*]
  · cases h
    simp [*]
  · cases h

theorem runCommand_import {c : Command} (h : c.name = "import") :
    setup.runCommand c = setup.importCommand c := by
  unfold runCommand
  simp [h]

theorem runCommand_unknown {c : Command} (himport : c.name ≠ "import")
    (hread : setup.reader? c.name = none) (hop : Operation.ofName? c.name = none) :
    setup.runCommand c = setup.unknownCommand c.name := by
  unfold reader? at hread
  unfold runCommand
  split
  · exact absurd ‹_› himport
  · simp [*] at hread
  · simp [*] at hread
  · rw [hop]

theorem reader?_isKnown {c : Command} {read : String → Doing σ String}
    (h : setup.reader? c.name = some read) : c.name ≠ "include" ∧ c.name ≠ "import" ∧
      c.isKnown = true := by
  unfold reader? at h
  unfold Command.isKnown
  split at h
  · simp [*, reservedNames]
  · simp [*, reservedNames]
  · cases h

/-- Any other command is known if it names an operation. -/
theorem isKnown_of_other {c : Command} (hinclude : c.name ≠ "include") (himport : c.name ≠ "import")
    (hread : setup.reader? c.name = none) :
    c.isKnown = (Operation.ofName? c.name).isSome := by
  have other (name) (h : (setup.reader? name).isSome = true) : c.name ≠ name := by
    rintro rfl
    simp [hread] at h
  simp [Command.isKnown, reservedNames, hinclude, himport, other "value_of" rfl,
    other "text_of" rfl]

variable (setup) in
/-- A command that is not known is met as such. -/
theorem runCommand_of_not_known {c : Command} (h : c.isKnown = false) :
    c.name ≠ "include" ∧ setup.runCommand c = setup.unknownCommand c.name := by
  have apart (name) (hmem : name ∈ reservedNames) : c.name ≠ name := by
    rintro heq
    simp [Command.isKnown, heq, hmem] at h
  have hinclude := apart "include" (by simp [reservedNames])
  have himport := apart "import" (by simp [reservedNames])
  have hread : setup.reader? c.name = none := by
    cases hread : setup.reader? c.name with
    | none => rfl
    | some read => simp [(reader?_isKnown hread).2.2] at h
  have hop : Operation.ofName? c.name = none := by
    rw [isKnown_of_other hinclude himport hread] at h
    simpa using h
  exact ⟨hinclude, runCommand_unknown himport hread hop⟩

theorem closing_inclusion {t : Turn σ} (hname : t.command.name = "include") :
    (setup.closing t).names = (setup.opening t).names.grown []
      (setup.resolver.entries t.command.bodies (setup.opening t).scope) := by
  rw [closing, if_pos hname, loading, loadInclude_eq, askedPath, bind_assoc]
  refine names_behind_arguments (fun args ns => ?_) _ _
  exact .of_bind (keepsNames_ofExcept _ ns) fun path => keepsNames_loadPath _ _ ns

theorem closing_reading {t : Turn σ} {read : String → Doing σ String}
    (h : setup.reader? t.command.name = some read) :
    (setup.closing t).names = (setup.opening t).names.grown []
      (setup.resolver.entries t.command.bodies (setup.opening t).scope ++ setup.reads t) := by
  rw [closing, if_neg (reader?_isKnown h).1, running, runCommand_reader h, readCommand_eq]
  obtain ⟨r, q, htext⟩ : ∃ r q, setup.readText t.command read (setup.opening t) = (r, q) :=
    ⟨_, _, rfl⟩
  have behind := setup.readText_names t.command read (setup.opening t)
  rw [htext] at behind
  dsimp only at behind
  cases r with
  | error e => simp [Lockstep.bind_error htext, reads, h, htext, behind]
  | ok text =>
    rw [Lockstep.bind_ok htext]
    show q.names.record t.command.name (.text text) = _
    simp [Namespace.record_eq_grown, reads, h, htext, behind]

theorem closing_import {t : Turn σ} (himport : t.command.name = "import") :
    (setup.closing t).names = (setup.opening t).names.grown (setup.imports t)
      (setup.resolver.entries t.command.bodies (setup.opening t).scope) := by
  have single : t.command.name ≠ "include" := by simp [himport]
  rw [closing, if_neg single, running, runCommand_import himport, importCommand_names, imports,
    if_pos himport]
  have recorded := setup.arguments_names t.command (setup.opening t)
  obtain ⟨r, q, hargs⟩ : ∃ r q, setup.arguments t.command (setup.opening t) = (r, q) := ⟨_, _, rfl⟩
  rw [hargs] at recorded ⊢
  dsimp only at recorded
  cases r with
  | error e => exact recorded
  | ok args => simp [recorded]

/-- Any other command records what its tokens record, if it is known, and nothing else. -/
theorem closing_other {t : Turn σ} (hinclude : t.command.name ≠ "include")
    (himport : t.command.name ≠ "import") (hread : setup.reader? t.command.name = none) :
    (setup.closing t).names = (setup.opening t).names.grown [] (if t.command.isKnown then
      setup.resolver.entries t.command.bodies (setup.opening t).scope else []) := by
  rw [closing, if_neg hinclude, running]
  cases hop : Operation.ofName? t.command.name with
  | none =>
    rw [isKnown_of_other hinclude himport hread, hop, runCommand_unknown himport hread hop]
    simpa using keepsNames_unknownCommand t.command.name _ (setup.opening t) rfl
  | some op =>
    have known : t.command.isKnown = true := by simp [Command.isKnown, hop]
    rw [if_pos known, setup.runCommand_operation hop]
    exact names_behind_arguments (fun args => keepsNames_doing _) _ _

/-- A turn adds what it records and imports, whatever comes of it. -/
theorem closing_names (t : Turn σ) :
    (setup.closing t).names = t.before.names.grown (setup.imports t) (setup.recorded t) := by
  rw [← setup.opening_names t]
  cases hread : setup.reader? t.command.name with
  | some read =>
    obtain ⟨-, himport, hknown⟩ := reader?_isKnown hread
    rw [closing_reading hread, imports, if_neg himport, recorded, if_pos hknown]
  | none =>
    have noReads : setup.reads t = [] := by rw [reads, hread]
    rw [recorded, noReads, List.append_nil]
    by_cases hinclude : t.command.name = "include"
    · rw [closing_inclusion hinclude]
      simp [imports, hinclude, Command.isKnown, reservedNames]
    · by_cases himport : t.command.name = "import"
      · rw [closing_import himport]
        simp [Command.isKnown, himport, reservedNames]
      · rw [closing_other hinclude himport hread, imports, if_neg himport]

theorem closing_extends (t : Turn σ) : t.before.names.Extends (setup.closing t).names := by
  rw [closing_names]
  exact Namespace.extends_grown

/-- An import adds names that are new. -/
theorem imports_new (t : Turn σ) : t.before.names.New (setup.imports t) := by
  unfold imports
  split
  · have recorded := setup.arguments_names t.command (setup.opening t)
    obtain ⟨r, q, hargs⟩ : ∃ r q, setup.arguments t.command (setup.opening t) = (r, q) := ⟨_, _, rfl⟩
    rw [hargs, setup.opening_names] at recorded
    dsimp only at recorded
    rw [hargs]
    cases r with
    | error e => exact ⟨.nil, nofun⟩
    | ok args =>
      obtain ⟨distinct, new⟩ := Importing.additions_new setup.registry args.values q.names
      refine ⟨distinct, fun g hg => ?_⟩
      have := new g hg
      simpa [recorded, Namespace.function?_grown] using this
  · exact ⟨.nil, nofun⟩

theorem imports_offered {t : Turn σ} {g : String × Callable} (h : g ∈ setup.imports t) :
    setup.registry.Offers g.2 := by
  unfold imports at h
  split at h
  · split at h
    · exact Importing.offers_of_additions h
    · cases h
  · cases h

/-! ## From turn to turn -/

/-- The namespaces in front of the turns, and the one behind the last. -/
def points (ts : List (Turn σ)) (last : Namespace) : List Namespace :=
  ts.map (fun t => t.before.names) ++ [last]

/-- Every turn begins with the namespace that the turn before has left. -/
def Linked (setup : Setup σ) : Namespace → List (Turn σ) → Namespace → Prop
  | first, [], last => first = last
  | first, t :: ts, last => t.before.names = first ∧ setup.Linked (setup.closing t).names ts last

namespace Linked

variable {first between last : Namespace} {us ts : List (Turn σ)}

theorem append (h : setup.Linked first us between) (h' : setup.Linked between ts last) :
    setup.Linked first (us ++ ts) last := by
  induction us generalizing first with
  | nil =>
    cases h
    exact h'
  | cons t us ih => exact ⟨h.1, ih h.2⟩

theorem head (h : setup.Linked first ts last) : (points ts last).head? = some first := by
  cases ts with
  | nil =>
    cases h
    rfl
  | cons t ts => exact congrArg some h.1

theorem behind (h : setup.Linked first (us ++ ts) last) :
    ∃ between, setup.Linked between ts last := by
  induction us generalizing first with
  | nil => exact ⟨first, h⟩
  | cons t us ih => exact ih h.2

theorem extends_points (h : setup.Linked first ts last) :
    ∀ ns ∈ points ts last, first.Extends ns := by
  induction ts generalizing first with
  | nil =>
    intro ns hns
    rw [List.mem_singleton.mp hns, ← show first = last from h]
    exact .refl first
  | cons t ts ih =>
    obtain ⟨rfl, hrest⟩ := h
    intro ns hns
    rcases List.mem_cons.mp hns with rfl | hns
    · exact .refl _
    · exact (closing_extends t).trans (ih hrest ns hns)

theorem pairwise (h : setup.Linked first ts last) :
    (points ts last).Pairwise Namespace.Extends := by
  induction ts generalizing first with
  | nil => exact List.pairwise_singleton _ _
  | cons t ts ih =>
    refine List.pairwise_cons.mpr ⟨fun ns hns => ?_, ih h.2⟩
    exact (closing_extends t).trans (h.2.extends_points ns hns)

/-- What is imported has been imported from the beginning, or it stands in the registry. -/
theorem imported (h : setup.Linked first ts last) : ∀ t ∈ ts, ∀ g ∈ t.before.names.imported,
    g ∈ first.imported ∨ setup.registry.Offers g.2 := by
  induction ts generalizing first with
  | nil => nofun
  | cons t ts ih =>
    obtain ⟨rfl, hrest⟩ := h
    intro u hu g hg
    rcases List.mem_cons.mp hu with rfl | hu
    · exact .inl hg
    · rcases ih hrest u hu g hg with hclosing | hoffers
      · rw [closing_names] at hclosing
        exact (List.mem_append.mp hclosing).imp_right imports_offered
      · exact .inr hoffers

end Linked

theorem Takes.linked {levels depth : Nat} {directory : String} {cs : List Command}
    {p q : Progress σ} {ts : List (Turn σ)} {r : Except Error Unit}
    (h : setup.Takes levels depth directory cs p ts r q) : setup.Linked p.names ts q.names := by
  induction h with
  | nil => exact rfl
  | done ht hfate hrest ih => exact ⟨by rw [ht], ih⟩
  | failed ht hfate herrors hrest ih =>
    rw [failed_names] at ih
    exact ⟨by rw [ht], ih⟩
  | ended ht hfate herrors =>
    rw [failed_names]
    exact ⟨by rw [ht], rfl⟩
  | loaded ht hfate hinside hrest ihinside ih => exact ⟨by rw [ht], ihinside.append ih⟩
  | broken ht hfate hinside ihinside => exact ⟨by rw [ht], ihinside⟩

/-! ## Whole runs -/

/-- The history of a run: what it began with, and what each turn has added. -/
structure History (setup : Setup σ) (first : Namespace) (ts : List (Turn σ)) (last : Namespace) :
    Prop where
  /-- Of the usual imports there are those that the registry has. -/
  imported : ∀ name, first.function? name = (Importing.usual.lookup name).bind
    fun (module, function) => setup.registry.function? module function
  unrecorded : first.journal = []
  head : (points ts last).head? = some first
  extends_later : (points ts last).Pairwise Namespace.Extends
  lookup_later : (points ts last).Pairwise fun before after =>
    ∀ tag index v, before.lookup tag index = .ok v → after.lookup tag index = .ok v
  /-- The next namespace is that of the turn with what the turn records and imports. -/
  turn : ∀ front t back, ts = front ++ t :: back →
    (points back last).head? = some (t.before.names.grown (setup.imports t) (setup.recorded t)) ∧
    t.before.names.New (setup.imports t)

/-- Along a run nothing that was imported or recorded is lost or changed, and every command adds just
what its tokens evaluate to, what it reads, and what it imports. -/
theorem run_history (setup : Setup σ) (script : Script) (world : World σ) :
    ∃ r p, setup.run script world = .of (r, p) ∧
      setup.History (setup.start world).names (setup.scriptTurns script world) p.names := by
  obtain ⟨r, p, hrun, takes⟩ := setup.run_takes script world
  refine ⟨r, p, hrun, ?_⟩
  have linked := takes.linked
  refine ⟨Importing.function?_withUsual setup.registry, ?_, linked.head, linked.pairwise,
    linked.pairwise.imp fun h tag index v => h.lookup, fun front t back hsplit => ?_⟩
  · rw [start, Importing.withUsual, Importing.addAll_eq]
    rfl
  · rw [hsplit] at linked
    obtain ⟨between, rfl, hrest⟩ := linked.behind
    rw [hrest.head, closing_names]
    exact ⟨rfl, imports_new t⟩

end Setup

end PageScript
