import PageScript.Value.Basic

/-!
# Document events

A document in any format is read as a stream of events: scalars, and the beginnings and ends of
lists and mappings.  A document with a fault has the events in front of the fault and is not
`sound`.  A reader of commands or values works along the stream, so what is wrong early in a
document is reported before what is wrong later, whatever the format.

A scalar comes with its text, which is how it reads as the name of a field, and with its meaning as
a value, which is missing where the document gives it a type that no value has.
-/

namespace PageScript

/-- One step of a document. -/
inductive Event where
  /-- A scalar: its text, and what it means as a value. -/
  | scalar (text : String) (meaning : Option Value)
  /-- A list begins; `foreign` when it carries a type of its own. -/
  | listStart (foreign : Bool)
  | listEnd
  /-- A mapping begins; `foreign` when it carries a type of its own. -/
  | mapStart (foreign : Bool)
  | mapEnd

/-- The events of a document, and whether the document goes on without a fault behind them. -/
structure Document where
  events : List Event
  /-- Nothing is wrong behind the events. -/
  sound : Bool

namespace Document

/-- A list or an object that is being read: the parts read so far, last first. -/
inductive Frame where
  | list (items : List Value)
  /-- An object; the name of the field whose value comes next, if one has been read. -/
  | object (fields : List (String × Value)) (name : Option String)

/-- A finished value put into the innermost container; without one the value is complete. -/
def put (v : Value) : List Frame → Option (List Frame)
  | .list items :: frames => some (.list (v :: items) :: frames)
  | .object fields (some name) :: frames =>
    some (.object (Value.insertField name v fields) none :: frames)
  | .object _ none :: _ => none
  | [] => none

/-- The value in front of a stream, with the events behind it.  A name comes from the text of a
scalar.  `room` bounds how many containers may be open at once. -/
def readValue (room : Nat) : List Frame → List Event → Option (Value × List Event)
  | _, [] => none
  | frames, .scalar text meaning :: rest =>
    match frames with
    | .object fields none :: outer => readValue room (.object fields (some text) :: outer) rest
    | [] => meaning.map (·, rest)
    | _ =>
      match meaning with
      | none => none
      | some v => (put v frames).bind fun frames => readValue room frames rest
  | frames, .listStart foreign :: rest =>
    match frames with
    | .object _ none :: _ => none
    | _ =>
      if foreign || room ≤ frames.length then none else readValue room (.list [] :: frames) rest
  | frames, .mapStart foreign :: rest =>
    match frames with
    | .object _ none :: _ => none
    | _ =>
      if foreign || room ≤ frames.length then none
      else readValue room (.object [] none :: frames) rest
  | .list items :: outer, .listEnd :: rest =>
    match outer with
    | [] => some (.list items.reverse, rest)
    | _ => (put (.list items.reverse) outer).bind fun frames => readValue room frames rest
  | .object fields none :: outer, .mapEnd :: rest =>
    match outer with
    | [] => some (.object fields, rest)
    | _ => (put (.object fields) outer).bind fun frames => readValue room frames rest
  | _, .listEnd :: _ => none
  | _, .mapEnd :: _ => none

end Document

end PageScript
