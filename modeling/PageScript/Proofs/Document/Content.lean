import PageScript.Document.Content

/-!
# Values read back from their events

The events of a value are read back as the value, whatever events follow, if there is room for the
containers in it and no object names a field twice (`readValue_eventsOf`); an object that is built
with `Value.insertField` never does.  The reader keeps the containers that are open in frames; a value
is read as far as it goes and then put into the innermost frame (`Document.deliver`).
-/

namespace PageScript

namespace Value

mutual

/-- No object in the value names a field twice. -/
def NamesOnce : Value → Prop
  | .list items => NamesOnceItems items
  | .object fields => (names fields).Nodup ∧ NamesOnceFields fields
  | _ => True

/-- No object in the items names a field twice. -/
def NamesOnceItems : List Value → Prop
  | [] => True
  | v :: vs => NamesOnce v ∧ NamesOnceItems vs

/-- No object in the values of the fields names a field twice. -/
def NamesOnceFields : List (String × Value) → Prop
  | [] => True
  | (_, v) :: fs => NamesOnce v ∧ NamesOnceFields fs

end

theorem namesOnceItems_iff {items : List Value} :
    NamesOnceItems items ↔ ∀ v ∈ items, NamesOnce v := by
  induction items with
  | nil => simp [NamesOnceItems]
  | cons v vs ih => simp [NamesOnceItems, ih]

end Value

namespace Document

open Value (NamesOnce NamesOnceItems NamesOnceFields names)

/-! ## Events and what follows -/

mutual

theorem eventsOf_append (v : Value) (rest : List Event) : eventsOf v rest = eventsOf v [] ++ rest := by
  cases v with
  | list items =>
    rw [eventsOf, eventsOf, itemEvents_append items (.listEnd :: rest),
      itemEvents_append items [.listEnd]]
    simp
  | object fields =>
    rw [eventsOf, eventsOf, fieldEvents_append fields (.mapEnd :: rest),
      fieldEvents_append fields [.mapEnd]]
    simp
  | null => rfl
  | bool b => rfl
  | number n => rfl
  | text s => rfl

theorem itemEvents_append (items : List Value) (rest : List Event) :
    itemEvents items rest = itemEvents items [] ++ rest := by
  cases items with
  | nil => rfl
  | cons v vs =>
    rw [itemEvents, itemEvents, eventsOf_append v (itemEvents vs rest),
      eventsOf_append v (itemEvents vs []), itemEvents_append vs rest, List.append_assoc]

theorem fieldEvents_append (fields : List (String × Value)) (rest : List Event) :
    fieldEvents fields rest = fieldEvents fields [] ++ rest := by
  cases fields with
  | nil => rfl
  | cons f fs =>
    obtain ⟨k, v⟩ := f
    rw [fieldEvents, fieldEvents, eventsOf_append v (fieldEvents fs rest),
      eventsOf_append v (fieldEvents fs []), fieldEvents_append fs rest]
    simp

end

/-- How many events a value has. -/
def span (v : Value) : Nat := (eventsOf v []).length

/-- How many events items have. -/
def itemsSpan (items : List Value) : Nat := (itemEvents items []).length

/-- How many events fields have. -/
def fieldsSpan (fields : List (String × Value)) : Nat := (fieldEvents fields []).length

@[simp] theorem span_list (items : List Value) : span (.list items) = itemsSpan items + 2 := by
  simp [span, eventsOf, itemEvents_append items [.listEnd], itemsSpan]

@[simp] theorem span_object (fields : List (String × Value)) :
    span (.object fields) = fieldsSpan fields + 2 := by
  simp [span, eventsOf, fieldEvents_append fields [.mapEnd], fieldsSpan]

@[simp] theorem itemsSpan_cons (v : Value) (vs : List Value) :
    itemsSpan (v :: vs) = span v + itemsSpan vs := by
  simp [itemsSpan, itemEvents, eventsOf_append v (itemEvents vs []), span]

@[simp] theorem fieldsSpan_cons (k : String) (v : Value) (fs : List (String × Value)) :
    fieldsSpan ((k, v) :: fs) = span v + fieldsSpan fs + 1 := by
  simp [fieldsSpan, fieldEvents, eventsOf_append v (fieldEvents fs []), span]

/-! ## Reading -/

/-- The innermost open container waits for a value, not for a name. -/
def Awaits : List Frame → Prop
  | .object _ none :: _ => False
  | _ => True

/-- Goes on behind a value that has been read. -/
def deliver (room : Nat) (v : Value) (frames : List Frame) (rest : List Event) :
    Option (Value × List Event) :=
  match frames with
  | [] => some (v, rest)
  | frame :: outer => (put v (frame :: outer)).bind fun frames => readValue room frames rest

variable {room : Nat}

theorem readValue_scalar {frames : List Frame} (h : Awaits frames) (text : String) (v : Value)
    (rest : List Event) :
    readValue room frames (.scalar text (some v) :: rest) = deliver room v frames rest := by
  match frames, h with
  | [], _ => rfl
  | .list items :: outer, _ => rfl
  | .object fields (some name) :: outer, _ => rfl

theorem readValue_listStart {frames : List Frame} (h : Awaits frames) (hroom : frames.length < room)
    (rest : List Event) :
    readValue room frames (.listStart false :: rest) = readValue room (.list [] :: frames) rest := by
  have free : ¬ (false || decide (room ≤ frames.length)) = true := by simpa using hroom
  match frames, h, free with
  | [], _, free => exact if_neg free
  | .list items :: outer, _, free => exact if_neg free
  | .object fields (some name) :: outer, _, free => exact if_neg free

theorem readValue_mapStart {frames : List Frame} (h : Awaits frames) (hroom : frames.length < room)
    (rest : List Event) :
    readValue room frames (.mapStart false :: rest)
      = readValue room (.object [] none :: frames) rest := by
  have free : ¬ (false || decide (room ≤ frames.length)) = true := by simpa using hroom
  match frames, h, free with
  | [], _, free => exact if_neg free
  | .list items :: outer, _, free => exact if_neg free
  | .object fields (some name) :: outer, _, free => exact if_neg free

theorem readValue_listEnd (items : List Value) (frames : List Frame) (rest : List Event) :
    readValue room (.list items :: frames) (.listEnd :: rest)
      = deliver room (.list items.reverse) frames rest := by
  cases frames <;> rfl

theorem readValue_mapEnd (fields : List (String × Value)) (frames : List Frame) (rest : List Event) :
    readValue room (.object fields none :: frames) (.mapEnd :: rest)
      = deliver room (.object fields) frames rest := by
  cases frames <;> rfl

mutual

/-- The events of a value are read as the value. -/
theorem readValue_eventsOf (v : Value) (h : NamesOnce v) {frames : List Frame}
    (hframes : Awaits frames) (hroom : frames.length + span v ≤ room) (rest : List Event) :
    readValue room frames (eventsOf v rest) = deliver room v frames rest := by
  cases v with
  | list items =>
    rw [span_list] at hroom
    rw [eventsOf, readValue_listStart hframes (by omega),
      readValue_itemEvents items h [] (by omega), readValue_listEnd]
    simp
  | object fields =>
    rw [span_object] at hroom
    rw [eventsOf, readValue_mapStart hframes (by omega),
      readValue_fieldEvents fields h.2 [] h.1 (by omega), readValue_mapEnd, List.nil_append]
  | null => exact readValue_scalar hframes _ _ rest
  | bool b => exact readValue_scalar hframes _ _ rest
  | number n => exact readValue_scalar hframes _ _ rest
  | text s => exact readValue_scalar hframes _ _ rest

/-- The events of items are read as the items, behind those of the list so far. -/
theorem readValue_itemEvents (items : List Value) (h : NamesOnceItems items) (done : List Value)
    {frames : List Frame} (hroom : frames.length + 1 + itemsSpan items ≤ room) (rest : List Event) :
    readValue room (.list done :: frames) (itemEvents items rest)
      = readValue room (.list (items.reverse ++ done) :: frames) rest := by
  cases items with
  | nil => rfl
  | cons v vs =>
    rw [itemsSpan_cons] at hroom
    have awaits : Awaits (.list done :: frames) := trivial
    have value : readValue room (.list done :: frames) (eventsOf v (itemEvents vs rest))
        = readValue room (.list (v :: done) :: frames) (itemEvents vs rest) :=
      readValue_eventsOf v h.1 awaits (by rw [List.length_cons]; omega) _
    rw [itemEvents, value, readValue_itemEvents vs h.2 (v :: done) (by omega)]
    simp

/-- The events of fields are read as the fields, behind those of the object so far. -/
theorem readValue_fieldEvents (fields : List (String × Value)) (h : NamesOnceFields fields)
    (done : List (String × Value)) (hdone : (names (done ++ fields)).Nodup) {frames : List Frame}
    (hroom : frames.length + 1 + fieldsSpan fields ≤ room) (rest : List Event) :
    readValue room (.object done none :: frames) (fieldEvents fields rest)
      = readValue room (.object (done ++ fields) none :: frames) rest := by
  cases fields with
  | nil => rw [List.append_nil, fieldEvents]
  | cons f fs =>
    obtain ⟨k, v⟩ := f
    rw [fieldsSpan_cons] at hroom
    have awaits : Awaits (.object done (some k) :: frames) := trivial
    have value : readValue room (.object done (some k) :: frames) (eventsOf v (fieldEvents fs rest))
        = readValue room (.object (done ++ [(k, v)]) none :: frames) (fieldEvents fs rest) := by
      rw [readValue_eventsOf v h.1 awaits (by rw [List.length_cons]; omega), deliver, put,
        Value.insertField_of_not_mem (Value.new_name hdone)]
      rfl
    have split : done ++ (k, v) :: fs = done ++ [(k, v)] ++ fs := by simp
    rw [split] at hdone ⊢
    exact value.trans (readValue_fieldEvents fs h.2 _ hdone (by omega) rest)

end

/-- A value by itself is read back, with what follows left. -/
theorem readValue_eventsOf_alone {v : Value} (h : NamesOnce v) (hroom : span v ≤ room)
    (rest : List Event) : readValue room [] (eventsOf v rest) = some (v, rest) := by
  have awaits : Awaits [] := trivial
  exact readValue_eventsOf v h awaits (by simpa using hroom) rest

end Document

end PageScript
