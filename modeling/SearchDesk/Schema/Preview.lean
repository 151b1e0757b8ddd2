import SearchDesk.Json.Printer
import SearchDesk.Json.Display

/-!
# Previews of example values

`preview` shows a value on one line, cut to a number of characters. Arrays, objects and
truth values are shown as JSON text, null as `null`, and the rest as in running text. A
negative bound leaves that many characters off the end. Null alone is never cut.
-/

namespace SearchDesk.Schema

/-- The beginning of a text up to a bound; a negative bound counts from the end. -/
def cut (bound : Int) (s : List Char) : List Char :=
  if 0 ≤ bound then s.take bound.toNat else s.take (s.length - bound.natAbs)

/-- The text of a value before it is cut. -/
def previewText : Json → String
  | .null => "null"
  | .bool b => Json.compact (.bool b)
  | .arr items => Json.compact (.arr items)
  | .obj members => Json.compact (.obj members)
  | v => v.plain

/-- A text cut to a bound, with three points at the end if anything is cut off. -/
def cutText (bound : Int) (text : String) : String :=
  if bound < text.length then String.ofList (cut bound text.toList) ++ "..." else text

/-- A value on one line, cut to a bound unless it is null. -/
def preview (bound : Int) (v : Json) : String :=
  if v.isNull then previewText v else cutText bound (previewText v)

end SearchDesk.Schema
