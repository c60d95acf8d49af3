import PageScript.Document.Event
import PageScript.Value.Text

/-!
# Values as documents

A value that is already at hand can be read like a document: `Document.ofValue` gives its events.
-/

namespace PageScript

namespace Document

mutual

/-- The events of a value, in front of those given. -/
def eventsOf : Value → List Event → List Event
  | .text s, rest => .scalar s (some (.text s)) :: rest
  | .list items, rest => .listStart false :: itemEvents items (.listEnd :: rest)
  | .object fields, rest => .mapStart false :: fieldEvents fields (.mapEnd :: rest)
  | .null, rest => .scalar "null" (some .null) :: rest
  | .bool b, rest => .scalar (if b then "true" else "false") (some (.bool b)) :: rest
  | .number n, rest => .scalar n.text (some (.number n)) :: rest

/-- The events of list items. -/
def itemEvents : List Value → List Event → List Event
  | [], rest => rest
  | v :: vs, rest => eventsOf v (itemEvents vs rest)

/-- The events of fields. -/
def fieldEvents : List (String × Value) → List Event → List Event
  | [], rest => rest
  | (k, v) :: fs, rest =>
    .scalar k (some (.text k)) :: eventsOf v (fieldEvents fs rest)

end

/-- A value as a document. -/
def ofValue (v : Value) : Document := ⟨eventsOf v [], true⟩

end Document

end PageScript
