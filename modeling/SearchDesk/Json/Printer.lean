import SearchDesk.Json.Basic
import SearchDesk.Number.Layout
import SearchDesk.Text.Digit

/-!
# Writing JSON text

Two forms of a JSON document, both of ASCII characters alone:

* `Json.compact`: one line, with a space after each comma and colon;
* `Json.indented`: one item or member a line, two spaces deeper for each level; an empty
  array or object stays on its line.

In a text the quote and the backslash get a backslash, five control characters have
escapes of one letter, and all else outside the ASCII graphic characters and space is
written `\uXXXX`, above U+FFFF as a pair of surrogates.
-/

namespace SearchDesk.Json

/-- A 16-bit unit as an escape. -/
def unitEscape (n : Nat) : List Char := '\\' :: 'u' :: hexDigits 4 n

/-- The written form of a character in a text. -/
def writeChar (c : Char) : List Char :=
  let n := c.toNat
  if c = '"' ∨ c = '\\' then ['\\', c]
  else if c = '\n' then ['\\', 'n']
  else if c = '\r' then ['\\', 'r']
  else if c = '\t' then ['\\', 't']
  else if n = 8 then ['\\', 'b']
  else if n = 12 then ['\\', 'f']
  else if 0x20 ≤ n ∧ n < 0x7F then [c]
  else if n < 0x10000 then unitEscape n
  else unitEscape (0xD800 + (n - 0x10000) / 0x400) ++ unitEscape (0xDC00 + (n - 0x10000) % 0x400)

/-- A text between quotes. -/
def writeText (s : String) : String :=
  String.ofList ('"' :: s.toList.flatMap writeChar ++ ['"'])

/-- The text of a value without parts. -/
def writeScalar : Json → String
  | .null => "null"
  | .bool b => if b then "true" else "false"
  | .int n => integerText n
  | .float x => Layout.json.render x
  | .str s => writeText s
  | .arr _ | .obj _ => ""

mutual

/-- The value on one line. -/
def compact : Json → String
  | .arr [] => "[]"
  | .arr (v :: rest) => "[" ++ compact v ++ compactItems rest ++ "]"
  | .obj [] => "\x7b\x7d"
  | .obj ((k, v) :: rest) =>
    "\x7b" ++ writeText k ++ ": " ++ compact v ++ compactMembers rest ++ "\x7d"
  | v => writeScalar v

/-- Items after the first one. -/
def compactItems : List Json → String
  | [] => ""
  | v :: rest => ", " ++ compact v ++ compactItems rest

/-- Members after the first one. -/
def compactMembers : List (String × Json) → String
  | [] => ""
  | (k, v) :: rest => ", " ++ writeText k ++ ": " ++ compact v ++ compactMembers rest

end

/-- A line feed and the indentation of a level. -/
def newLine (level : Nat) : String := String.ofList ('\n' :: List.replicate (2 * level) ' ')

mutual

/-- The value over several lines, its parts one level deeper than the given one. -/
def indentedAt (level : Nat) : Json → String
  | .arr [] => "[]"
  | .arr (v :: rest) =>
    "[" ++ newLine (level + 1) ++ indentedAt (level + 1) v ++ indentedItems (level + 1) rest
      ++ newLine level ++ "]"
  | .obj [] => "\x7b\x7d"
  | .obj ((k, v) :: rest) =>
    "\x7b" ++ newLine (level + 1) ++ writeText k ++ ": " ++ indentedAt (level + 1) v
      ++ indentedMembers (level + 1) rest ++ newLine level ++ "\x7d"
  | v => writeScalar v

/-- Items after the first one. -/
def indentedItems (level : Nat) : List Json → String
  | [] => ""
  | v :: rest => "," ++ newLine level ++ indentedAt level v ++ indentedItems level rest

/-- Members after the first one. -/
def indentedMembers (level : Nat) : List (String × Json) → String
  | [] => ""
  | (k, v) :: rest =>
    "," ++ newLine level ++ writeText k ++ ": " ++ indentedAt level v ++ indentedMembers level rest

end

/-- The value over several lines. -/
def indented (v : Json) : String := indentedAt 0 v

end SearchDesk.Json
