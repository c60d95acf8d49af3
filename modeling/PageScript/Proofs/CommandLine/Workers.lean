import PageScript.Proofs.CommandLine.Steps
import PageScript.Proofs.Number.Digits

/-!
# Command lines of workers

A worker is started with arguments that are written from what its parent's command line says
(`toArguments`), and reads them as any command line is read.  It is told the same then, unless the
base address or the script looks like an option: the address stands in an argument of its own, and
there is nothing in front of the script to say that only scripts follow (`worker_told_iff`).

What is written is read piece by piece (`Adds`).  A number is read as it was written, since every
line that is read fits.
-/

namespace PageScript

namespace CommandLine

/-! ## Pieces of a command line -/

/-- The argument is taken for an option: it begins with a dash and has more behind it. -/
def looksLikeOption (arg : String) : Bool :=
  match arg.toList with
  | '-' :: _ :: _ => true
  | _ => false

/-- Behind whatever says the first line the arguments are read, and then the second is said. -/
def Adds (args : List String) (l m : CommandLine) : Prop :=
  ∀ r, settle r = .ok l →
    ∃ r', settle r' = .ok m ∧ ∀ rest, meetArguments r (args ++ rest) = meetArguments r' rest

variable {r : Reading} {l m k : CommandLine} {arg : String}

/-- No value is awaited where something is said. -/
theorem pending_ne_awaited (h : settle r = .ok l) (c : Choice) : r.pending ≠ .value c none := by
  intro hc
  rw [settle, hc] at h
  cases h

theorem meetArguments_file (h : settle r = .ok l) (harg : looksLikeOption arg = false)
    (rest : List String) :
    meetArguments r (arg :: rest) = meetFile r arg >>= fun r' => meetArguments r' rest := by
  rw [meetArguments]
  split
  · next hpending => exact absurd hpending (pending_ne_awaited h _)
  · split
    · next heq => simp [looksLikeOption, heq] at harg
    · next heq => simp [looksLikeOption, heq] at harg
    · next heq => simp [looksLikeOption, heq] at harg
    · split
      · next hpending => exact absurd hpending (pending_ne_awaited h _)
      · rfl

theorem meetArguments_long (h : settle r = .ok l) {name : String} (hname : name ≠ "")
    (rest : List String) :
    meetArguments r (("--" ++ name) :: rest)
      = meetLong r name.toList >>= fun r' => meetArguments r' rest := by
  have text : ("--" ++ name).toList = '-' :: '-' :: name.toList := by simp
  rw [meetArguments]
  split
  · next hpending => exact absurd hpending (pending_ne_awaited h _)
  · rw [text]
    cases hcs : name.toList with
    | nil => exact absurd (String.toList_eq_nil_iff.mp hcs) hname
    | cons c cs => rfl

theorem meetArguments_letter (h : settle r = .ok l) (rest : List String) :
    meetArguments r ("-v" :: rest) = meetOption r .verbose >>= fun r' => meetArguments r' rest := by
  rw [meetArguments]
  split
  · next hpending => exact absurd hpending (pending_ne_awaited h _)
  · show ((meetOption r .verbose >>= fun r' => meetLetters r' []) >>= _) = _
    cases meetOption r .verbose <;> rfl

theorem meetArguments_given {c : Choice} (harg : looksLikeOption arg = false) (rest : List String) :
    meetArguments ⟨l, .value c none⟩ (arg :: rest)
      = meetArguments ⟨l, .value c (some arg)⟩ rest := by
  rw [meetArguments]
  split
  · next heq =>
    cases heq
    rfl
  · split
    · next heq => simp [looksLikeOption, heq] at harg
    · next heq => simp [looksLikeOption, heq] at harg
    · next heq => simp [looksLikeOption, heq] at harg
    · rfl

theorem meetLong_switch (s : Switch) : meetLong r s.name.toList = meetOption r (.switch s) := by
  cases s <;> rfl

theorem meetLong_choice (c : Choice) : meetLong r c.name.toList = meetOption r (.choice c) := by
  cases c <;> rfl

theorem meetLong_value (c : Choice) (text : String) :
    meetLong r (c.name.toList ++ '=' :: text.toList) = meetWithValue r (.choice c) text := by
  have split : Text.splitOnce '=' (c.name.toList ++ '=' :: text.toList)
      = some (c.name.toList, text.toList) := by
    cases c <;> rfl
  rw [meetLong, split]
  dsimp only
  rw [String.ofList_toList, String.ofList_toList]
  cases c <;> rfl

theorem meetOption_switch (h : settle r = .ok l) {s : Switch} (hs : l.has s = false) :
    meetOption r (.switch s) = .ok ⟨{ l with switches := l.switches ++ [s] }, .nothing⟩ := by
  rw [meetOption, h]
  exact if_neg (Bool.eq_false_iff.mp hs)

theorem meetOption_choice (h : settle r = .ok l) (c : Choice) :
    meetOption r (.choice c) = .ok ⟨l, .value c none⟩ := by
  rw [meetOption, h]
  rfl

theorem meetOption_verbose (h : settle r = .ok l) :
    meetOption r .verbose
      = .ok ⟨{ l with verbosity := min 255 (l.verbosity + 1) }, .nothing⟩ := by
  rw [meetOption, h]
  rfl

theorem meetWithValue_choice (h : settle r = .ok l) {c : Choice} {text : String}
    (hvalue : l.takeValue c text = .ok m) :
    meetWithValue r (.choice c) text = .ok ⟨m, .nothing⟩ := by
  rw [meetWithValue, h]
  show (l.takeValue c text >>= fun m => pure (⟨m, .nothing⟩ : Reading)) = _
  rw [hvalue]
  rfl

theorem settle_files {paths : List String} (h : "" ∉ paths) :
    settle ⟨l, .files paths⟩ = .ok { l with files := l.files ++ paths } :=
  if_neg (by simpa using h)

/-- A script is one of those in front of it, or the first. -/
theorem meetFile_settles (h : settle r = .ok l) (harg : arg ≠ "") :
    ∃ r', meetFile r arg = .ok r' ∧ settle r' = .ok { l with files := l.files ++ [arg] } := by
  have first (hr : meetFile r arg = settle r >>= fun l => pure ⟨l, .files [arg]⟩) :
      ∃ r', meetFile r arg = .ok r' ∧ settle r' = .ok { l with files := l.files ++ [arg] } :=
    ⟨⟨l, .files [arg]⟩, by rw [hr, h]; rfl, settle_files (by simpa using harg.symm)⟩
  obtain ⟨line, pending⟩ := r
  cases pending with
  | nothing => exact first rfl
  | value c text => exact first rfl
  | files paths =>
    by_cases hpaths : "" ∈ paths
    · have refused : settle ⟨line, .files paths⟩ = .error .missingValue :=
        if_pos (by simpa using hpaths)
      rw [refused] at h
      cases h
    · rw [settle_files hpaths] at h
      cases h
      refine ⟨⟨line, .files (paths ++ [arg])⟩, rfl, ?_⟩
      rw [settle_files (by simp [hpaths, harg.symm]), List.append_assoc]

namespace Adds

theorem nil : Adds [] l l := fun r h => ⟨r, h, fun _ => rfl⟩

theorem append {xs ys : List String} (hxs : Adds xs l m) (hys : Adds ys m k) :
    Adds (xs ++ ys) l k := by
  intro r h
  obtain ⟨mid, hmid, hread⟩ := hxs r h
  obtain ⟨after, hafter, hread'⟩ := hys mid hmid
  exact ⟨after, hafter, fun rest => by rw [List.append_assoc, hread, hread']⟩

theorem switch {s : Switch} (hs : l.has s = false) :
    Adds ["--" ++ s.name] l { l with switches := l.switches ++ [s] } := by
  intro r h
  refine ⟨⟨{ l with switches := l.switches ++ [s] }, .nothing⟩, rfl, fun rest => ?_⟩
  rw [List.singleton_append, meetArguments_long h (by cases s <;> decide), meetLong_switch,
    meetOption_switch h hs]
  rfl

theorem verbose : Adds ["-v"] l { l with verbosity := min 255 (l.verbosity + 1) } := by
  intro r h
  refine ⟨⟨{ l with verbosity := min 255 (l.verbosity + 1) }, .nothing⟩, rfl, fun rest => ?_⟩
  rw [List.singleton_append, meetArguments_letter h, meetOption_verbose h]
  rfl

/-- A value may stand in an argument of its own if it looks like no option. -/
theorem separate {c : Choice} {text : String} (htext : looksLikeOption text = false)
    (hvalue : l.takeValue c text = .ok m) : Adds ["--" ++ c.name, text] l m := by
  intro r h
  refine ⟨⟨l, .value c (some text)⟩, hvalue, fun rest => ?_⟩
  rw [List.cons_append, meetArguments_long h (by cases c <;> decide), meetLong_choice,
    meetOption_choice h]
  exact meetArguments_given htext rest

/-- A value may stand behind an equals sign, whatever it looks like. -/
theorem joined {c : Choice} {text : String} (hvalue : l.takeValue c text = .ok m) :
    Adds ["--" ++ (c.name ++ "=" ++ text)] l m := by
  intro r h
  have name : c.name ++ "=" ++ text ≠ "" := by cases c <;> simp [Choice.name]
  have text : (c.name ++ "=" ++ text).toList = c.name.toList ++ '=' :: text.toList := by simp
  refine ⟨⟨m, .nothing⟩, rfl, fun rest => ?_⟩
  rw [List.singleton_append, meetArguments_long h name, text, meetLong_value,
    meetWithValue_choice h hvalue]
  rfl

theorem file {path : String} (hpath : looksLikeOption path = false) (hname : path ≠ "") :
    Adds [path] l { l with files := l.files ++ [path] } := by
  intro r h
  obtain ⟨r', hmeet, hsettle⟩ := meetFile_settles h hname
  refine ⟨r', hsettle, fun rest => ?_⟩
  rw [List.singleton_append, meetArguments_file h hpath, hmeet]
  rfl

theorem switches {ss : List Switch} (hss : ss.Nodup) (h : ∀ s ∈ ss, l.has s = false) :
    Adds (ss.map fun s => "--" ++ s.name) l { l with switches := l.switches ++ ss } := by
  induction ss generalizing l with
  | nil =>
    rw [List.append_nil]
    exact nil
  | cons s ss ih =>
    obtain ⟨hs, hss⟩ := List.nodup_cons.mp hss
    obtain ⟨first, rest⟩ := List.forall_mem_cons.mp h
    have others (t : Switch) (ht : t ∈ ss) :
        ({ l with switches := l.switches ++ [s] } : CommandLine).has t = false := by
      have apart : t ≠ s := by
        rintro rfl
        exact hs ht
      simpa [has, apart] using rest t ht
    have both := append (switch first) (ih hss others)
    rwa [List.append_assoc] at both

theorem verbosity {n : Nat} (h : l.verbosity + n ≤ 255) :
    Adds (List.replicate n "-v") l { l with verbosity := l.verbosity + n } := by
  induction n generalizing l with
  | zero => exact nil
  | succ n ih =>
    have one : min 255 (l.verbosity + 1) = l.verbosity + 1 := by omega
    have first := verbose (l := l)
    rw [one] at first
    have rest := ih (l := { l with verbosity := l.verbosity + 1 }) (by dsimp only; omega)
    have both := append first rest
    rwa [Nat.add_assoc, Nat.add_comm 1 n] at both

/-- What is said behind all arguments is what the command line says. -/
theorem ofArguments {args : List String} (h : Adds args empty l) (hfiles : l.files ≠ []) :
    ofArguments args = .ok l := by
  obtain ⟨r, hsettle, hread⟩ := h ⟨empty, .nothing⟩ rfl
  have read := hread []
  rw [List.append_nil] at read
  rw [CommandLine.ofArguments, read]
  show (settle r >>= fun l => if l.files.isEmpty then throw .noFiles else pure l) = _
  rw [hsettle]
  exact if_neg (by simpa using hfiles)

end Adds

/-! ## The line of a worker -/

/-- What a worker is told, apart from its script. -/
def told (l : CommandLine) : CommandLine where
  files := []
  baseUrl := l.baseUrl
  timeout := some l.config.timeoutSeconds
  defaultOffset := some l.config.defaultOffset
  workers := none
  switches := workerSwitches.filter l.has
  verbosity := l.verbosity

/-- The arguments in front of the base address. -/
def numbers (l : CommandLine) : List String :=
  ["--timeout", Nat.repr l.config.timeoutSeconds,
    "--default-offset=" ++ intText l.config.defaultOffset]

/-- The base address, as an option with an argument of its own. -/
def address : (baseUrl : Option String) → List String
  | some url => ["--base-url", url]
  | none => []

/-- The arguments between the base address and the script. -/
def marks (l : CommandLine) : List String :=
  (workerSwitches.filter l.has).map (fun s => "--" ++ s.name) ++ List.replicate l.verbosity "-v"

theorem toArguments_eq (l : CommandLine) (file : String) :
    l.toArguments file = l.numbers ++ (address l.baseUrl ++ (l.marks ++ [file])) := by
  rw [toArguments, numbers, marks]
  simp only [List.append_assoc]
  cases l.baseUrl <;> rfl

variable {file : String}

theorem looksLikeOption_repr (n : Nat) : looksLikeOption (Nat.repr n) = false := by
  unfold looksLikeOption
  rw [Nat.toList_repr]
  split
  · next heq => exact absurd heq (PageScript.Reading.toDigits_unsigned n '-' (by decide) _)
  · rfl

theorem Fits.config_timeout (h : l.Fits) : (l.config.timeoutSeconds : Int) ≤ Reading.nat64Max := by
  cases htimeout : l.timeout with
  | none => simp [config, htimeout, Config.usual, Reading.nat64Max]
  | some n => simpa [config, htimeout] using h.timeout n htimeout

theorem Fits.config_defaultOffset (h : l.Fits) :
    Reading.int64Min ≤ l.config.defaultOffset ∧ l.config.defaultOffset ≤ Reading.int64Max := by
  cases hoffset : l.defaultOffset with
  | none => simp [config, hoffset, Config.usual, Reading.int64Min, Reading.int64Max]
  | some i => simpa [config, hoffset] using h.defaultOffset i hoffset

theorem adds_numbers (h : l.Fits) : Adds l.numbers empty { l.told with
    baseUrl := none, switches := [], verbosity := 0 } := by
  obtain ⟨hlo, hhi⟩ := h.config_defaultOffset
  have timeout : empty.takeValue .timeout (Nat.repr l.config.timeoutSeconds)
      = .ok { empty with timeout := some l.config.timeoutSeconds } := by
    rw [takeValue, PageScript.Reading.nat64?_repr, if_pos h.config_timeout]
    rfl
  have offset : ({ empty with timeout := some l.config.timeoutSeconds } : CommandLine).takeValue
      .defaultOffset (intText l.config.defaultOffset) = .ok { l.told with
        baseUrl := none, switches := [], verbosity := 0 } := by
    rw [takeValue, PageScript.Reading.int64?_intText hlo hhi]
    rfl
  exact Adds.append (.separate (looksLikeOption_repr _) timeout) (.joined offset)

theorem adds_address {baseUrl : Option String} (hm : m.baseUrl = none)
    (hurl : ∀ url ∈ baseUrl, looksLikeOption url = false) :
    Adds (address baseUrl) m { m with baseUrl := baseUrl } := by
  cases baseUrl with
  | none =>
    have same : ({ m with baseUrl := none } : CommandLine) = m := by rw [← hm]
    rw [same]
    exact .nil
  | some url =>
    have value : m.takeValue .baseUrl url = .ok { m with baseUrl := some url } := by
      simp [takeValue, hm]
    exact .separate (hurl url rfl) value

theorem adds_marks (h : l.Fits) (hswitches : m.switches = []) (hverbosity : m.verbosity = 0) :
    Adds l.marks m
      { m with switches := workerSwitches.filter l.has, verbosity := l.verbosity } := by
  have switches : Adds ((workerSwitches.filter l.has).map fun s => "--" ++ s.name) m
      { m with switches := m.switches ++ workerSwitches.filter l.has } :=
    .switches (List.Pairwise.filter _ (by decide)) fun s _ => by simp [has, hswitches]
  have total : m.verbosity + l.verbosity = l.verbosity := by omega
  have verbosity : Adds (List.replicate l.verbosity "-v")
      { m with switches := workerSwitches.filter l.has }
      { m with
        switches := workerSwitches.filter l.has
        verbosity := m.verbosity + l.verbosity } :=
    .verbosity (by rw [total]; exact h.verbosity)
  rw [hswitches, List.nil_append] at switches
  rw [total] at verbosity
  exact switches.append verbosity

/-- Up to the script the arguments say what a worker is told. -/
theorem adds_told (h : l.Fits) (hurl : ∀ url ∈ l.baseUrl, looksLikeOption url = false) :
    Adds (l.numbers ++ (address l.baseUrl ++ l.marks)) empty l.told :=
  (adds_numbers h).append ((adds_address rfl hurl).append (adds_marks h rfl rfl))

/-! ## What looks like an option -/

/-- Unless it is the value of an offset, what looks like an option is read as one, or it is the mark
behind which there are only scripts. -/
theorem read_option {r r' : Reading} (harg : looksLikeOption arg = true)
    (hpending : r.pending ≠ .value .defaultOffset none) {rest : List String}
    (h : meetArguments r (arg :: rest) = .ok r') :
    meetFiles r rest = .ok r' ∨
      ∃ mid, Relation.TransGen MeetsOption r mid ∧ meetArguments mid rest = .ok r' := by
  rw [meetArguments] at h
  split at h
  · next heq => exact absurd heq hpending
  · split at h
    · exact .inl h
    · obtain ⟨mid, hmid, h⟩ := bind_eq_ok h
      exact .inr ⟨mid, .single (meets_of_meetLong hmid), h⟩
    · obtain ⟨mid, hmid, h⟩ := bind_eq_ok h
      exact .inr ⟨mid, meets_of_meetLetters hmid, h⟩
    · next other =>
      unfold looksLikeOption at harg
      split at harg
      · next heq => exact absurd heq (other _ _)
      · cases harg

/-- An option is not given what looks like an option. -/
theorem awaited_refuses {c : Choice} (hc : c ≠ .defaultOffset) (harg : looksLikeOption arg = true)
    (rest : List String) : ∀ r', meetArguments ⟨l, .value c none⟩ (arg :: rest) = .ok r' →
      settle r' ≠ .ok m := by
  intro r' h hsettle
  have awaited : ¬ ∃ l', settle ⟨l, .value c none⟩ = .ok l' := by
    rintro ⟨l', hl'⟩
    cases hl'
  rcases read_option harg (by simpa using hc) h with h | ⟨mid, hmid, -⟩
  · cases rest with
    | nil =>
      cases h
      exact awaited ⟨m, hsettle⟩
    | cons path rest =>
      obtain ⟨mid, hmid, -⟩ := bind_eq_ok h
      obtain ⟨l', hl', -⟩ := bind_eq_ok hmid
      exact awaited ⟨l', hl'⟩
  · obtain ⟨first, hfirst, -⟩ := Relation.TransGen.head'_iff.mp hmid
    exact awaited hfirst.settles

/-- What looks like an option is no script. -/
theorem option_says_no_script (harg : looksLikeOption arg = true) (hr : settle r = .ok l)
    (hfiles : l.files = []) : ∀ r', meetArguments r [arg] = .ok r' →
      settle r' = .ok m → m.files = [] := by
  intro r' h
  have none : ∀ l, settle r = .ok l → l.files = [] := by
    intro l' hl'
    rw [hr] at hl'
    cases hl'
    exact hfiles
  rcases read_option harg (pending_ne_awaited hr _) h with h | ⟨mid, hmid, h⟩
  · cases h
    exact none m
  · cases h
    have kept : ∀ l, settle r' = .ok l → l.files = [] := by
      clear h
      induction hmid with
      | single hstep => exact hstep.files none
      | tail _ hstep ih => exact hstep.files ih
    exact kept m

/-- A worker's line says what the line of its parent says, for one script. -/
structure Obeys (w l : CommandLine) (file : String) : Prop where
  config : w.config = l.config
  options : w.options = l.options
  quiet : w.has .quiet = l.has .quiet
  verbosity : w.verbosity = l.verbosity
  check : w.has .check = false
  workers : w.workerCount = 1
  files : w.files = [file]

theorem told_has (l : CommandLine) {s : Switch} (hs : s ∈ workerSwitches) :
    l.told.has s = l.has s := by
  unfold has told
  cases hl : l.switches.contains s <;> simp_all [has]

theorem told_obeys (l : CommandLine) (file : String) :
    Obeys { l.told with files := [file] } l file := by
  have given {s : Switch} (hs : s ∈ workerSwitches) :
      ({ l.told with files := [file] } : CommandLine).has s = l.has s := l.told_has hs
  refine ⟨?_, ?_, given (by decide), rfl, ?_, rfl, rfl⟩
  · rw [config, given (by decide), given (by decide), given (by decide), given (by decide)]
    rfl
  · rw [options, given (by decide), given (by decide)]
    rfl
  · simp [has, told, workerSwitches]

theorem address_refused {url : String} (h : settle r = .ok l) (hurl : looksLikeOption url = true)
    (rest : List String) : ∀ r', meetArguments r (address (some url) ++ rest) = .ok r' →
      settle r' ≠ .ok m := by
  intro r' hread
  have opened : meetArguments r (("--" ++ Choice.name .baseUrl) :: url :: rest)
      = meetArguments ⟨l, .value .baseUrl none⟩ (url :: rest) := by
    rw [meetArguments_long h (by decide), meetLong_choice, meetOption_choice h]
    rfl
  exact awaited_refuses (by decide) hurl rest r' (opened.symm.trans hread)

/-- A worker reads its arguments and is told what its parent is told, for its script, exactly when
neither the base address nor the script looks like an option. -/
theorem worker_told_iff {args : List String} (h : ofArguments args = .ok l)
    (hfile : file ∈ l.files) :
    (∃ w, ofArguments (l.toArguments file) = .ok w ∧ w.Obeys l file) ↔
      (∀ url ∈ l.baseUrl, looksLikeOption url = false) ∧ looksLikeOption file = false := by
  have fits := fits_of_ofArguments h
  have named : file ≠ "" := by
    rintro rfl
    exact fits.files hfile
  rw [toArguments_eq]
  constructor
  · rintro ⟨w, hw, hobeys⟩
    obtain ⟨r', hread, hw⟩ := bind_eq_ok hw
    obtain ⟨m, hsettle, hw⟩ := bind_eq_ok hw
    have some : m.files ≠ [] := by
      intro hm
      rw [hm] at hw
      cases hw
    -- the address is read first, so a fault of the script can be told only behind a fit address
    have url : ∀ url ∈ l.baseUrl, looksLikeOption url = false := by
      intro url hurl
      obtain ⟨r, hr, hnumbers⟩ := adds_numbers fits ⟨empty, .nothing⟩ rfl
      rw [hnumbers, Option.mem_def.mp hurl] at hread
      exact Bool.eq_false_iff.mpr fun hoption => address_refused hr hoption _ r' hread hsettle
    refine ⟨url, ?_⟩
    obtain ⟨r, hr, htold⟩ := adds_told fits url ⟨empty, .nothing⟩ rfl
    have last := htold [file]
    simp only [List.append_assoc] at last
    rw [last] at hread
    exact Bool.eq_false_iff.mpr fun hoption =>
      some (option_says_no_script hoption hr rfl r' hread hsettle)
  · rintro ⟨hurl, hpath⟩
    have adds := (adds_told fits hurl).append (.file hpath named)
    simp only [List.append_assoc] at adds
    exact ⟨_, adds.ofArguments (by simp), l.told_obeys file⟩

/-- What a command line says that gives every kind of option. -/
def shownLine : CommandLine :=
  ⟨["a.yaml", "b.yaml"], some "http://home", some 5, some (-3), none, [.quiet], 2⟩

theorem worker_told_shown :
    let args := ["--base-url=http://home", "-t5", "--default-offset", "-3", "-vqv", "a.yaml",
      "b.yaml"]
    ofArguments args = .ok shownLine ∧ "b.yaml" ∈ shownLine.files ∧
      ((∃ w, ofArguments (shownLine.toArguments "b.yaml") = .ok w ∧ w.Obeys shownLine "b.yaml") ↔
        (∀ url ∈ shownLine.baseUrl, looksLikeOption url = false) ∧
          looksLikeOption "b.yaml" = false) := by
  have read : ofArguments ["--base-url=http://home", "-t5", "--default-offset", "-3", "-vqv",
      "a.yaml", "b.yaml"] = .ok shownLine := rfl
  exact ⟨read, by decide, worker_told_iff read (by decide)⟩

/-- A base address that looks like an option can be given behind an equals sign.  A worker takes it
for an option. -/
theorem worker_refuses_address :
    let l : CommandLine := ⟨["a.yaml", "b.yaml"], some "-x", none, none, none, [], 0⟩
    ofArguments ["--base-url=-x", "a.yaml", "b.yaml"] = .ok l ∧ "a.yaml" ∈ l.files ∧
      ¬ ∃ w, ofArguments (l.toArguments "a.yaml") = .ok w := by
  intro l
  have refused : (ofArguments (l.toArguments "a.yaml")).toOption = none := by decide +kernel
  refine ⟨rfl, by decide, ?_⟩
  rintro ⟨w, hw⟩
  rw [hw] at refused
  cases refused

end CommandLine

end PageScript
