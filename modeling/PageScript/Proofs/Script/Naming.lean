import PageScript.Proofs.Script.Accepting

/-!
# Names of commands

A document names each of its commands by a heading: the text that is the command, or the first key
of the mapping that is (`Document.headings`).  The headings are found by the depth at which they
stand, without reading anything else.

The names of the commands of a script are the texts of its headings in order (`Script.names_clean_iff`).
A text that is a command loses the blanks around it and is refused if nothing is left, so its name is
clean.  A key is taken as it is.  So all names are clean exactly if all keys that name commands are.
-/

namespace PageScript

/-! ## Headings -/

/-- What a document names a command by. -/
inductive Heading where
  /-- The text that is the command. -/
  | bare (text : String)
  /-- The first key of the mapping that is the command. -/
  | key (text : String)
deriving DecidableEq, Repr

namespace Heading

/-- The name that a command has by its heading. -/
def name : Heading → String
  | .bare text => Text.trimmed text
  | .key text => text

/-- The heading in front of a stream of events. -/
def ofEvents? : List Event → Option Heading
  | .scalar _ (some (.text s)) :: _ => some (.bare s)
  | .mapStart _ :: .scalar name _ :: _ => some (.key name)
  | _ => none

end Heading

/-- How many containers are open behind an event, when so many are open in front of it. -/
def Event.behind (depth : Nat) : Event → Nat
  | .scalar _ _ => depth
  | .listStart _ | .mapStart _ => depth + 1
  | .listEnd | .mapEnd => depth - 1

/-- The headings among events: those that stand directly in the outermost container. -/
def Event.headings : Nat → List Event → List Heading
  | _, [] => []
  | depth, e :: rest =>
    (if depth = 1 then (Heading.ofEvents? (e :: rest)).toList else [])
      ++ headings (e.behind depth) rest

/-- The headings of a document. -/
def Document.headings (d : Document) : List Heading := Event.headings 0 d.events

/-- A text that is not empty and has no blanks around it. -/
def Clean (s : String) : Prop := s ≠ "" ∧ Text.trimmed s = s

instance (s : String) : Decidable (Clean s) := inferInstanceAs (Decidable (_ ∧ _))

/-! ## Arguments -/

namespace Document

variable {room : Nat} {frames : List Frame} {rest left : List Event} {v w : Value}

theorem length_of_put {after : List Frame} (h : put v frames = some after) :
    after.length = frames.length := by
  match frames, h with
  | .list items :: outer, h => cases h; rfl
  | .object fields (some name) :: outer, h => cases h; rfl

/-- A value that is delivered is the whole, or the reader goes on with as many containers open. -/
theorem deliver_eq_some (h : deliver room w frames rest = some (v, left)) :
    ∃ after : List Frame, after.length = frames.length ∧
      (after = [] ∧ left = rest ∨ readValue room after rest = some (v, left)) := by
  cases frames with
  | nil =>
    cases h
    exact ⟨[], rfl, .inl ⟨rfl, rfl⟩⟩
  | cons frame outer =>
    obtain ⟨after, hput, hrest⟩ := Option.bind_eq_some_iff.mp h
    exact ⟨after, length_of_put hput, .inr hrest⟩

theorem exists_of_not_awaits (h : ¬ Awaits frames) :
    ∃ fields outer, frames = .object fields none :: outer := by
  match frames, h with
  | [], h | .list _ :: _, h | .object _ (some _) :: _, h => exact absurd trivial h
  | .object fields none :: outer, _ => exact ⟨fields, outer, rfl⟩

/-- The reader has as many containers open as the events say. -/
theorem readValue_cons {e : Event} (h : readValue room frames (e :: rest) = some (v, left)) :
    ∃ after : List Frame, (∀ depth, e.behind (frames.length + depth) = after.length + depth) ∧
      (after = [] ∧ left = rest ∨ readValue room after rest = some (v, left)) := by
  have opened {kind : Frame} {foreign : Bool}
      (h : (if foreign || decide (room ≤ frames.length) then none
        else readValue room (kind :: frames) rest) = some (v, left)) :
      readValue room (kind :: frames) rest = some (v, left) := by
    split at h
    · cases h
    · exact h
  have deeper (kind : Frame) (depth : Nat) :
      frames.length + depth + 1 = (kind :: frames).length + depth := by
    rw [List.length_cons]
    omega
  have shallower {after outer : List Frame} (kind : Frame) (h : after.length = outer.length)
      (depth : Nat) : (kind :: outer).length + depth - 1 = after.length + depth := by
    rw [List.length_cons]
    omega
  cases e with
  | scalar text meaning =>
    by_cases awaits : Awaits frames
    · cases meaning with
      | none => match frames, h with | [], h => cases h
      | some w =>
        rw [readValue_scalar awaits] at h
        obtain ⟨after, hlength, hafter⟩ := deliver_eq_some h
        exact ⟨after, fun depth => by rw [hlength]; rfl, hafter⟩
    · obtain ⟨fields, outer, rfl⟩ := exists_of_not_awaits awaits
      rw [readValue] at h
      exact ⟨.object fields (some text) :: outer, fun _ => rfl, .inr h⟩
  | listStart foreign =>
    match frames, h with
    | [], h | .list items :: outer, h | .object fields (some name) :: outer, h =>
      exact ⟨_, deeper _, .inr (opened h)⟩
  | mapStart foreign =>
    match frames, h with
    | [], h | .list items :: outer, h | .object fields (some name) :: outer, h =>
      exact ⟨_, deeper _, .inr (opened h)⟩
  | listEnd =>
    match frames, h with
    | .list items :: outer, h =>
      rw [readValue_listEnd] at h
      obtain ⟨after, hlength, hafter⟩ := deliver_eq_some h
      exact ⟨after, shallower _ hlength, hafter⟩
  | mapEnd =>
    match frames, h with
    | .object fields none :: outer, h =>
      rw [readValue_mapEnd] at h
      obtain ⟨after, hlength, hafter⟩ := deliver_eq_some h
      exact ⟨after, shallower _ hlength, hafter⟩

/-- Nothing inside an argument is a heading. -/
theorem headings_readValue {events : List Event}
    (h : readValue room frames events = some (v, left)) (depth : Nat) :
    Event.headings (frames.length + (depth + 2)) events = Event.headings (depth + 2) left := by
  induction events generalizing frames with
  | nil => cases frames <;> cases h
  | cons e rest ih =>
    obtain ⟨after, hdepth, hafter⟩ := readValue_cons h
    have below : frames.length + (depth + 2) ≠ 1 := by omega
    rw [Event.headings, if_neg below, List.nil_append, hdepth]
    obtain ⟨rfl, rfl⟩ | hrest := hafter
    · rw [List.length_nil, Nat.zero_add]
    · exact ih hrest

end Document

/-! ## Reading commands -/

namespace Script

open Event (headings)

variable {room : Nat}

theorem bareCommand_eq_ok_iff {s : String} {c : Command} :
    bareCommand s = .ok c ↔ Text.trimmed s ≠ "" ∧ c = ⟨Text.trimmed s, none⟩ := by
  by_cases h : Text.trimmed s = ""
  · simp [bareCommand_blank h, h]
  · simp [bareCommand_ok h, h, eq_comm]

/-- A command has its name from the heading in front of it, which is not blank if it is bare. -/
theorem readCommand_heading {events rest : List Event} {c : Command}
    (h : readCommand room events = .ok (c, rest)) :
    ∃ heading : Heading, headings 1 events = heading :: headings 1 rest ∧ c.name = heading.name ∧
      ∀ text, heading = .bare text → Text.trimmed text ≠ "" := by
  rw [readCommand.eq_def] at h
  split at h
  · rename_i text s behind
    cases hd : bareCommand s with
    | error f =>
      rw [hd] at h
      cases h
    | ok d =>
      rw [hd] at h
      cases h
      obtain ⟨hs, rfl⟩ := bareCommand_eq_ok_iff.mp hd
      refine ⟨.bare s, rfl, rfl, fun text htext => ?_⟩
      cases htext
      exact hs
  · cases h
  · rename_i name meaning behind
    split at h
    · rename_i v after hread
      cases h
      refine ⟨.key name, ?_, rfl, nofun⟩
      have passed : headings 2 behind = headings 2 (.mapEnd :: rest) :=
        Document.headings_readValue hread 0
      exact congrArg (Heading.key name :: ·) passed
    · cases h
    · cases h
  · cases h

/-- So a row of commands has its names from the headings in front of it. -/
theorem readCommands_headings {fuel : Nat} {events rest : List Event} {cs : List Command}
    (h : readCommands room fuel events = .ok (cs, rest)) :
    ∃ row : List Heading, headings 1 events = row ++ headings 0 rest ∧
      cs.map Command.name = row.map Heading.name ∧
      ∀ text, .bare text ∈ row → Text.trimmed text ≠ "" := by
  induction fuel, events using readCommands.induct generalizing cs rest with
  | case1 fuel behind =>
    rw [readCommands] at h
    cases h
    exact ⟨[], rfl, rfl, by simp⟩
  | case2 events hend =>
    rw [readCommands] at h
    · cases h
    · exact hend
  | case3 fuel events hend ih =>
    rw [readCommands] at h
    · obtain ⟨⟨c, behind⟩, hc, h⟩ := bind_eq_ok h
      obtain ⟨⟨others, after⟩, hcs, h⟩ := bind_eq_ok h
      cases h
      obtain ⟨heading, hfirst, hname, hbare⟩ := readCommand_heading hc
      obtain ⟨row, hrow, hnames, hbares⟩ := ih behind hcs
      refine ⟨heading :: row, ?_, ?_, fun text htext => ?_⟩
      · rw [hfirst, hrow, List.cons_append]
      · rw [List.map_cons, List.map_cons, hname, hnames]
      · rcases List.mem_cons.mp htext with heq | hmem
        · exact hbare text heq.symm
        · exact hbares text hmem
    · exact hend

/-- The names of the commands of a document are those of its headings. -/
theorem ofDocument_headings {blank : Bool} {d : Document} {cs : List Command}
    (h : ofDocument room blank d = .ok cs) :
    cs.map Command.name = d.headings.map Heading.name ∧
      ∀ text, .bare text ∈ d.headings → Text.trimmed text ≠ "" := by
  rw [ofDocument] at h
  rw [Document.headings]
  split at h
  · rename_i foreign events hevents
    obtain ⟨⟨read, rest⟩, hread, h⟩ := bind_eq_ok h
    obtain ⟨row, hrow, hnames, hbares⟩ := readCommands_headings hread
    dsimp only at h
    split at h
    · rename_i done
      cases h
      have finished : rest = [] := List.isEmpty_iff.mp (Bool.and_eq_true_iff.mp done).1
      have whole : headings 0 d.events = row := by
        rw [hevents]
        refine hrow.trans ?_
        rw [finished, headings, List.append_nil]
      rw [whole]
      exact ⟨hnames, hbares⟩
    · cases h
  · rename_i hevents
    rw [hevents]
    split at h
    · cases h
      exact ⟨rfl, nofun⟩
    · cases h
  · cases h

/-! ## Sources of scripts -/

/-- What a script is read from. -/
inductive Source where
  | written (format : Format) (text : String)
  | value (v : Value)

/-- The script that is read. -/
def Source.script : Source → Except Error Script
  | .written format text => ofText format text
  | .value v => ofValue v

/-- The document that it is read from.  A blank text has nothing in it. -/
def Source.document : Source → Document
  | .written .yaml text =>
    if (Text.trim text.toList).isEmpty then ⟨[], true⟩ else Yaml.document text
  | .written .json text => Json.document text
  | .value v => Document.ofValue v

/-- A script has the commands that are read from its document. -/
theorem Source.ofDocument_of_script {source : Source} {script : Script}
    (h : source.script = .ok script) :
    ∃ room blank, ofDocument room blank source.document = .ok script.commands := by
  cases source with
  | written format text =>
    cases format with
    | yaml =>
      rw [Source.script, ofText, ofYaml] at h
      rw [Source.document]
      split at h
      · rename_i empty
        cases h
        exact ⟨0, true, by rw [if_pos empty]; rfl⟩
      · rename_i full
        rw [if_neg full]
        split at h
        · rename_i cs hcs
          cases h
          exact ⟨_, _, hcs⟩
        · cases h
    | json =>
      rw [Source.script, ofText, ofJson] at h
      split at h
      · rename_i cs hcs
        cases h
        exact ⟨_, _, hcs⟩
      · cases h
  | value v =>
    rw [Source.script, ofValue] at h
    split at h
    · rename_i cs hcs
      cases h
      exact ⟨_, _, hcs⟩
    · cases h

/-- The commands of a script are named by the headings of what it is read from: by the keys as they
are and by the texts without the blanks around them.  All names are clean exactly if the keys are. -/
theorem names_clean_iff {source : Source} {script : Script} (h : source.script = .ok script) :
    script.commands.map Command.name = source.document.headings.map Heading.name ∧
      ((∀ c ∈ script.commands, Clean c.name) ↔
        ∀ key, .key key ∈ source.document.headings → Clean key) := by
  obtain ⟨room, blank, hdocument⟩ := Source.ofDocument_of_script h
  obtain ⟨hnames, hbares⟩ := ofDocument_headings hdocument
  have named : (∀ c ∈ script.commands, Clean c.name) ↔
      ∀ heading ∈ source.document.headings, Clean heading.name := by
    rw [← List.forall_mem_map, hnames, List.forall_mem_map]
  refine ⟨hnames, named.trans ⟨fun hclean key hkey => hclean _ hkey, fun hkeys heading hmem => ?_⟩⟩
  cases heading with
  | bare text => exact ⟨hbares text hmem, Text.trimmed_trimmed text⟩
  | key text => exact hkeys text hmem

/-- A text with blanks around it, a key with nothing behind it, and keys inside an argument. -/
theorem names_clean_iff_nested :
    let source : Source :=
      .written .yaml "-  back  \n- click:\n- log:\n    ' a ':\n    - '': 1\n"
    ∃ script, source.script = .ok script ∧
      source.document.headings = [.bare "back", .key "click", .key "log"] ∧
      script.commands.map Command.name = ["back", "click", "log"] ∧
      ∀ c ∈ script.commands, Clean c.name := by
  intro source
  have hheadings : source.document.headings = [.bare "back", .key "click", .key "log"] := by
    decide +kernel
  have reads : source.script.isOk = true := by decide +kernel
  cases h : source.script with
  | error e =>
    rw [h] at reads
    cases reads
  | ok script =>
    obtain ⟨hnames, hclean⟩ := names_clean_iff h
    rw [hheadings] at hnames hclean
    refine ⟨script, rfl, hheadings, hnames.trans (by decide +kernel), hclean.mpr fun key hkey => ?_⟩
    simp only [List.mem_cons, Heading.key.injEq, reduceCtorEq, false_or, List.not_mem_nil,
      or_false] at hkey
    rcases hkey with rfl | rfl <;> decide +kernel

/-- A key with blanks around it names a command as it is, in every kind of source. -/
theorem key_with_blanks :
    let sources : List Source := [.written .yaml "- ' click ': '#a'\n",
      .written .json "[\x7b\" click \": \"#a\"\x7d]",
      .value (.list [.object [(" click ", .text "#a")]])]
    (∀ source ∈ sources,
        source.script.toOption.map (·.commands.map Command.name) = some [" click "]) ∧
      ¬ Clean " click " := by
  decide +kernel

end Script

end PageScript
