import SearchDesk.Json.Basic
import SearchDesk.Number.Layout
import SearchDesk.Text.Quoted

/-!
# Values in messages

`Json.literal` shows a value inside a message: texts are quoted, null, true and false
have the words `None`, `True` and `False`, and arrays and objects stand in brackets.
`Json.plain` shows a text as it is and every other value like `literal`.
-/

namespace SearchDesk.Json

mutual

/-- The value as it is shown inside a message. -/
def literal : Json → String
  | .null => "None"
  | .bool b => if b then "True" else "False"
  | .int n => integerText n
  | .float x => Layout.plain.render x
  | .str s => quoted s
  | .arr [] => "[]"
  | .arr (v :: rest) => "[" ++ literal v ++ literalItems rest ++ "]"
  | .obj [] => "\x7b\x7d"
  | .obj ((k, v) :: rest) =>
    "\x7b" ++ quoted k ++ ": " ++ literal v ++ literalMembers rest ++ "\x7d"

/-- Items after the first one. -/
def literalItems : List Json → String
  | [] => ""
  | v :: rest => ", " ++ literal v ++ literalItems rest

/-- Members after the first one. -/
def literalMembers : List (String × Json) → String
  | [] => ""
  | (k, v) :: rest => ", " ++ quoted k ++ ": " ++ literal v ++ literalMembers rest

end

/-- The value in running text: a text as it is, anything else as in a message. -/
def plain : Json → String
  | .str s => s
  | v => literal v

end SearchDesk.Json
