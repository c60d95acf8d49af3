import PageScript.Proofs.Document.Content
import PageScript.Proofs.Text.Blank
import PageScript.Script.Reading

/-!
# Values as scripts

A value is a script exactly when it is a list whose items stand for commands: texts that are not
blank, and objects with one field (`Value.IsCommand`).  Each item is then one command, which written
as a value again is the item, except that the blanks around a bare name are gone and an argument that
is null has gone with its object (`Value.asWritten`).

A value is read like a document, so a command is read in front of the events of the items that
follow.
-/

namespace PageScript

/-! ## Values that stand for commands -/

namespace Value

/-- The value stands for a command. -/
def IsCommand : Value → Prop
  | .text s => Text.trimmed s ≠ ""
  | .object [_] => True
  | _ => False

/-- The value as the command that it stands for is written. -/
def asWritten : Value → Value
  | .text s => .text (Text.trimmed s)
  | .object [(name, .null)] => .text name
  | v => v

end Value

namespace Command

/-- A name without blanks around it, and an argument that is not null. -/
structure Tidy (c : Command) : Prop where
  named : c.name ≠ ""
  trimmed : Text.trimmed c.name = c.name
  argued : c.argument ≠ some .null
  namesOnce : ∀ v ∈ c.argument, v.NamesOnce

theorem toValue_injective {c d : Command} (h : c.toValue = d.toValue) : c = d := by
  obtain ⟨name, argument⟩ := c
  obtain ⟨other, given⟩ := d
  cases argument <;> cases given <;> simp_all [toValue]

theorem toValue_withArgument (name : String) (v : Value) :
    (withArgument name v).toValue = Value.asWritten (.object [(name, v)]) := by
  cases v <;> rfl

variable {c : Command}

theorem Tidy.isCommand (h : c.Tidy) : c.toValue.IsCommand := by
  obtain ⟨name, argument⟩ := c
  cases argument with
  | none => exact fun empty => h.named (h.trimmed.symm.trans empty)
  | some v => trivial

theorem Tidy.asWritten (h : c.Tidy) : c.toValue.asWritten = c.toValue := by
  obtain ⟨name, argument⟩ := c
  cases argument with
  | none => exact congrArg Value.text h.trimmed
  | some v =>
    cases v with
    | null => exact absurd rfl h.argued
    | _ => rfl

theorem Tidy.namesOnce_toValue (h : c.Tidy) : c.toValue.NamesOnce := by
  obtain ⟨name, argument⟩ := c
  cases argument with
  | none => trivial
  | some v => exact ⟨by simp [Value.names], h.namesOnce v rfl, trivial⟩

end Command

namespace Script

open Document (eventsOf itemEvents fieldEvents span itemsSpan)

/-! ## Reading commands -/

variable {room : Nat} {v : Value}

theorem bareCommand_ok {s : String} (h : Text.trimmed s ≠ "") :
    bareCommand s = .ok ⟨Text.trimmed s, none⟩ :=
  if_neg (by simpa using h)

theorem bareCommand_blank {s : String} (h : Text.trimmed s = "") :
    bareCommand s = .error .blankName :=
  if_pos (by simp [h])

/-- The events of a value that stands for a command are read as the command. -/
theorem readCommand_ok (h : v.NamesOnce) (hroom : span v ≤ room) (hv : v.IsCommand)
    (rest : List Event) :
    ∃ c, readCommand room (eventsOf v rest) = .ok (c, rest) ∧ c.toValue = v.asWritten := by
  match v, h, hv with
  | .text s, _, hv =>
    refine ⟨⟨Text.trimmed s, none⟩, ?_, rfl⟩
    rw [eventsOf, readCommand, bareCommand_ok hv]
    rfl
  | .object [(name, v)], h, _ =>
    have argument : Document.readValue room [] (eventsOf v (.mapEnd :: rest))
        = some (v, .mapEnd :: rest) := by
      refine Document.readValue_eventsOf_alone h.2.1 ?_ _
      simp only [Document.span_object, Document.fieldsSpan_cons] at hroom
      omega
    refine ⟨.withArgument name v, ?_, Command.toValue_withArgument name v⟩
    rw [eventsOf, fieldEvents, fieldEvents, readCommand, argument]

/-- Any other value is refused. -/
theorem readCommand_error (h : v.NamesOnce) (hroom : span v ≤ room) (hv : ¬ v.IsCommand)
    (rest : List Event) : ∃ f, readCommand room (eventsOf v rest) = .error f := by
  match v, h, hv with
  | .text s, _, hv =>
    refine ⟨.blankName, ?_⟩
    rw [eventsOf, readCommand, bareCommand_blank (Decidable.not_not.mp hv)]
    rfl
  | .object [], _, _ => exact ⟨.noName, rfl⟩
  | .object [_], _, hv => exact absurd trivial hv
  | .object ((name, v) :: (second, w) :: fields), h, _ =>
    refine ⟨.twoNames name second, ?_⟩
    have argument (rest : List Event) :
        Document.readValue room [] (eventsOf v rest) = some (v, rest) := by
      refine Document.readValue_eventsOf_alone h.2.1 ?_ _
      simp only [Document.span_object, Document.fieldsSpan_cons] at hroom
      omega
    rw [eventsOf, fieldEvents, fieldEvents, readCommand, argument]
  | .null, _, _ => exact ⟨.malformed, rfl⟩
  | .bool b, _, _ => exact ⟨.malformed, rfl⟩
  | .number n, _, _ => exact ⟨.malformed, rfl⟩
  | .list items, _, _ => exact ⟨.malformed, rfl⟩

theorem readCommands_step (fuel : Nat) (v : Value) (rest : List Event) :
    readCommands room (fuel + 1) (eventsOf v rest) = do
      let (c, rest) ← readCommand room (eventsOf v rest)
      let (cs, rest) ← readCommands room fuel rest
      return (c :: cs, rest) := by
  cases v <;> rfl

/-- The events of items are read as commands, one for each, where all stand for commands. -/
theorem readCommands_ok {items : List Value} (h : ∀ v ∈ items, v.NamesOnce)
    (hroom : itemsSpan items ≤ room) (hitems : ∀ v ∈ items, v.IsCommand) {fuel : Nat}
    (hfuel : items.length ≤ fuel) (rest : List Event) :
    ∃ cs, readCommands room fuel (itemEvents items (.listEnd :: rest)) = .ok (cs, rest) ∧
      cs.map Command.toValue = items.map Value.asWritten := by
  induction items generalizing fuel with
  | nil => exact ⟨[], by rw [itemEvents, readCommands], rfl⟩
  | cons v vs ih =>
    rw [Document.itemsSpan_cons] at hroom
    obtain ⟨fuel, rfl⟩ := Nat.exists_eq_add_one_of_ne_zero (n := fuel) (by
      rw [List.length_cons] at hfuel
      omega)
    obtain ⟨c, hc, hcv⟩ := readCommand_ok (h v List.mem_cons_self) (by omega : span v ≤ room)
      (hitems v List.mem_cons_self) (itemEvents vs (.listEnd :: rest))
    obtain ⟨cs, hcs, hcsv⟩ := ih (fun w hw => h w (List.mem_cons_of_mem v hw)) (by omega)
      (fun w hw => hitems w (List.mem_cons_of_mem v hw))
      (by simpa using hfuel : vs.length ≤ fuel)
    refine ⟨c :: cs, ?_, by rw [List.map_cons, List.map_cons, hcv, hcsv]⟩
    rw [itemEvents, readCommands_step, hc]
    dsimp only [bind, Except.bind]
    rw [hcs]
    rfl

theorem readCommands_starved (v : Value) (rest : List Event) :
    readCommands room 0 (eventsOf v rest) = .error .malformed := by
  cases v <;> rfl

/-- Items of which one stands for no command are refused. -/
theorem readCommands_error {items : List Value} (h : ∀ v ∈ items, v.NamesOnce)
    (hroom : itemsSpan items ≤ room) (hitems : ¬ ∀ v ∈ items, v.IsCommand) (fuel : Nat)
    (rest : List Event) :
    ∃ f, readCommands room fuel (itemEvents items (.listEnd :: rest)) = .error f := by
  induction items generalizing fuel with
  | nil => exact absurd (fun v hv => absurd hv List.not_mem_nil) hitems
  | cons v vs ih =>
    rw [Document.itemsSpan_cons] at hroom
    rw [itemEvents]
    have first := h v List.mem_cons_self
    cases fuel with
    | zero => exact ⟨.malformed, readCommands_starved v _⟩
    | succ fuel =>
      rw [readCommands_step]
      by_cases hv : v.IsCommand
      · obtain ⟨c, hc, -⟩ := readCommand_ok first (by omega : span v ≤ room) hv
          (itemEvents vs (.listEnd :: rest))
        have others : ¬ ∀ w ∈ vs, w.IsCommand := fun hvs => hitems fun w hw => by
          rcases List.mem_cons.mp hw with rfl | hw
          · exact hv
          · exact hvs w hw
        obtain ⟨f, hf⟩ := ih (fun w hw => h w (List.mem_cons_of_mem v hw)) (by omega) others fuel
        refine ⟨f, ?_⟩
        rw [hc]
        dsimp only [bind, Except.bind]
        rw [hf]
      · obtain ⟨f, hf⟩ := readCommand_error first (by omega : span v ≤ room) hv
          (itemEvents vs (.listEnd :: rest))
        exact ⟨f, by rw [hf]; rfl⟩

/-! ## Whole values -/

theorem length_le_itemsSpan (items : List Value) : items.length ≤ itemsSpan items := by
  induction items with
  | nil => exact Nat.zero_le _
  | cons v vs ih =>
    have one : 0 < span v := by cases v <;> simp [span, eventsOf]
    rw [List.length_cons, Document.itemsSpan_cons]
    omega

theorem ofDocument_list (room : Nat) (items : List Value) :
    ofDocument room false (Document.ofValue (.list items)) = (do
      let events := itemEvents items [.listEnd]
      let (cs, rest) ← readCommands room events.length events
      if rest.isEmpty && true then return cs else throw .malformed) := rfl

/-- There is an event for each item, and room for all containers in the items. -/
theorem sizes_list (items : List Value) :
    itemsSpan items ≤ (Document.ofValue (.list items)).events.length ∧
      items.length ≤ (itemEvents items [.listEnd]).length := by
  have whole : (Document.ofValue (.list items)).events.length = itemsSpan items + 2 :=
    Document.span_list items
  have inner : (itemEvents items [.listEnd]).length = itemsSpan items + 1 := by
    rw [Document.itemEvents_append]
    simp [itemsSpan]
  have := length_le_itemsSpan items
  omega

/-- A list of values that stand for commands is the script of these commands. -/
theorem ofValue_ok {items : List Value} (h : ∀ v ∈ items, v.NamesOnce)
    (hitems : ∀ v ∈ items, v.IsCommand) :
    ∃ cs, ofValue (.list items) = .ok ⟨cs, none⟩ ∧
      cs.map Command.toValue = items.map Value.asWritten := by
  obtain ⟨hroom, hfuel⟩ := sizes_list items
  obtain ⟨cs, hcs, hwritten⟩ := readCommands_ok h hroom hitems hfuel []
  refine ⟨cs, ?_, hwritten⟩
  rw [ofValue, ofDocument_list]
  dsimp only [bind, Except.bind]
  rw [hcs]
  rfl

/-- Any other value is no script. -/
theorem ofValue_error (h : v.NamesOnce)
    (hv : ∀ items, v = .list items → ¬ ∀ item ∈ items, item.IsCommand) :
    ∃ e, ofValue v = .error e := by
  cases v with
  | list items =>
    obtain ⟨hroom, -⟩ := sizes_list items
    obtain ⟨f, hf⟩ := readCommands_error (Value.namesOnceItems_iff.mp h) hroom (hv items rfl)
      (itemEvents items [.listEnd]).length []
    refine ⟨.json f.message, ?_⟩
    rw [ofValue, ofDocument_list]
    dsimp only [bind, Except.bind]
    rw [hf]
  | object fields => exact ⟨_, rfl⟩
  | null => exact ⟨_, rfl⟩
  | bool b => exact ⟨_, rfl⟩
  | number n => exact ⟨_, rfl⟩
  | text s => exact ⟨_, rfl⟩

/-- A value is a script exactly when it is a list of values that stand for commands, which are then
its commands in order; and commands that are tidy are what their values are read as. -/
theorem ofValue_exactly :
    (∀ v : Value, v.NamesOnce →
      ((∃ script, ofValue v = .ok script) ↔
        ∃ items, v = .list items ∧ ∀ item ∈ items, item.IsCommand) ∧
      ∀ script, ofValue v = .ok script → script.path = none ∧
        ∃ items, v = .list items ∧
          script.commands.map Command.toValue = items.map Value.asWritten) ∧
    ∀ cs : List Command, (∀ c ∈ cs, c.Tidy) →
      ofValue (.list (cs.map Command.toValue)) = .ok ⟨cs, none⟩ := by
  refine ⟨fun v h => ?_, fun cs hcs => ?_⟩
  · by_cases hv : ∃ items, v = .list items ∧ ∀ item ∈ items, item.IsCommand
    · obtain ⟨items, rfl, hitems⟩ := hv
      obtain ⟨cs, hok, hwritten⟩ := ofValue_ok (Value.namesOnceItems_iff.mp h) hitems
      refine ⟨⟨fun _ => ⟨items, rfl, hitems⟩, fun _ => ⟨_, hok⟩⟩, fun script hscript => ?_⟩
      rw [hok] at hscript
      cases hscript
      exact ⟨rfl, items, rfl, hwritten⟩
    · obtain ⟨e, he⟩ := ofValue_error h fun items heq hitems => hv ⟨items, heq, hitems⟩
      have never (script : Script) : ofValue v ≠ .ok script := by simp [he]
      exact ⟨⟨fun ⟨script, hok⟩ => absurd hok (never script), fun hlist => absurd hlist hv⟩,
        fun script hok => absurd hok (never script)⟩
  · have namesOnce : ∀ v ∈ cs.map Command.toValue, v.NamesOnce := by
      intro v hv
      obtain ⟨c, hc, rfl⟩ := List.mem_map.mp hv
      exact (hcs c hc).namesOnce_toValue
    have commands : ∀ v ∈ cs.map Command.toValue, v.IsCommand := by
      intro v hv
      obtain ⟨c, hc, rfl⟩ := List.mem_map.mp hv
      exact (hcs c hc).isCommand
    obtain ⟨ds, hok, hwritten⟩ := ofValue_ok namesOnce commands
    have same : ds.map Command.toValue = cs.map Command.toValue := by
      rw [hwritten, List.map_map]
      exact List.map_congr_left fun c hc => (hcs c hc).asWritten
    rw [hok, (List.map_inj_right fun _ _ => Command.toValue_injective).mp same]

/-- A name with blanks around it, an argument that is null, and one with an object inside. -/
theorem ofValue_exactly_nested :
    let back : Value := .object [("back", .null)]
    let log : Command := ⟨"log", some (.list [.object [("level", .text "warn")], .null])⟩
    (∃ script, ofValue (.list [.text " refresh ", back, log.toValue]) = .ok script ∧
      script.commands.map Command.toValue = [.text "refresh", .text "back", log.toValue]) ∧
    (¬ ∃ script, ofValue (.list [back, .text " "]) = .ok script) ∧
    ofValue (.list ([⟨"back", none⟩, log].map Command.toValue)) = .ok ⟨[⟨"back", none⟩, log], none⟩ := by
  intro back log
  have hback : back.NamesOnce := ⟨by simp [Value.names], trivial, trivial⟩
  have hargument : Value.NamesOnce (.list [.object [("level", .text "warn")], .null]) :=
    ⟨⟨by simp [Value.names], trivial, trivial⟩, trivial, trivial⟩
  have hlog : log.Tidy :=
    ⟨by decide, by decide +kernel, by simp [log], fun v hv => by cases hv; exact hargument⟩
  have hplain : Command.Tidy ⟨"back", none⟩ := ⟨by decide, by decide +kernel, by simp, by simp⟩
  refine ⟨?_, ?_, ?_⟩
  · have once : Value.NamesOnce (.list [.text " refresh ", back, log.toValue]) :=
      ⟨trivial, hback, hlog.namesOnce_toValue, trivial⟩
    have trimmed : Text.trimmed " refresh " = "refresh" := by decide +kernel
    obtain ⟨accepted, written⟩ := ofValue_exactly.1 _ once
    obtain ⟨script, hok⟩ := accepted.mpr ⟨_, rfl, fun item hitem => by
      rcases List.mem_cons.mp hitem with rfl | hitem
      · exact fun empty => absurd (trimmed.symm.trans empty) (by decide)
      rcases List.mem_cons.mp hitem with rfl | hitem
      · trivial
      · rw [List.mem_singleton.mp hitem]
        exact hlog.isCommand⟩
    obtain ⟨-, items, hitems, hwritten⟩ := written script hok
    cases hitems
    refine ⟨script, hok, ?_⟩
    rw [hwritten, List.map_cons, Value.asWritten, trimmed]
    rfl
  · have once : Value.NamesOnce (.list [back, .text " "]) := ⟨hback, trivial, trivial⟩
    rw [(ofValue_exactly.1 _ once).1]
    rintro ⟨items, hitems, commands⟩
    cases hitems
    exact commands (.text " ") (by simp) (by decide +kernel)
  · refine ofValue_exactly.2 _ fun c hc => ?_
    rcases List.mem_cons.mp hc with rfl | hc
    · exact hplain
    · rw [List.mem_singleton.mp hc]
      exact hlog

end Script

end PageScript
