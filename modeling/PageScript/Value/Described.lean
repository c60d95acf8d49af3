import PageScript.Value.Text
import PageScript.Text.Shown
import PageScript.Expression.Namespace

/-!
# Descriptions of values

The text that shows a value or a namespace to a developer: every value with the name of its kind.
-/

namespace PageScript

namespace Value

mutual

/-- The description of a value. -/
def described : Value → String
  | .null => "Null"
  | .bool b => "Bool(" ++ (if b then "true" else "false") ++ ")"
  | .number n => "Number(" ++ n.text ++ ")"
  | .text s => "String(" ++ Text.shown s ++ ")"
  | .list items => "Array [" ++ Text.join ", " (describedItems items) ++ "]"
  | .object fields => "Object \x7b" ++ Text.join ", " (describedFields fields) ++ "\x7d"

/-- The descriptions of list items. -/
def describedItems : List Value → List String
  | [] => []
  | v :: rest => described v :: describedItems rest

/-- The descriptions of fields. -/
def describedFields : List (String × Value) → List String
  | [] => []
  | (k, v) :: rest => (Text.shown k ++ ": " ++ described v) :: describedFields rest

end

end Value

/-- The description of a namespace: the imported names, and the histories by tag. -/
def Namespace.described (ns : Namespace) : String :=
  let tags := (ns.journal.map (·.1)).eraseDups
  let histories := tags.map fun tag =>
    Text.shown tag ++ ": [" ++ Text.join ", " (Value.describedItems (ns.history tag)) ++ "]"
  "Namespace \x7b imported: " ++ Text.shownList ns.importedNames ++ ", results: \x7b"
    ++ Text.join ", " histories ++ "\x7d \x7d"

end PageScript
