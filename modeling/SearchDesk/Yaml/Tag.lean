import SearchDesk.Yaml.Timestamp

/-!
# The tags of nodes

A tag says what a node stands for. A node may name its tag; a scalar that names none gets
one by its spelling:

* `Tag.ofName` is the tag with a full name;
* `Tag.ofSpelling` is the tag of a plain scalar: null, a truth value, an integer, a number,
  a date, the key that merges, the key that stands for a value, or else a text.

Integers may be binary (`0b`), octal (`0`), hexadecimal (`0x`), decimal or sexagesimal
(`1:30`), with underscores anywhere after the first digit. A number has a point; an exponent
needs a sign. One line feed at the end of the text is passed over.
-/

namespace SearchDesk.Yaml

/-- What a node stands for. -/
inductive Tag where
  | null | bool | int | float | binary | timestamp | str
  | seq | map | set | orderedMap | pairs
  | merge | value
  | unknown
deriving DecidableEq, Repr, Inhabited

/-- The beginning of the names of the common tags. -/
def commonStart : String := "tag:yaml.org,2002:"

/-- The tag with a full name. -/
def Tag.ofName (name : String) : Tag :=
  let tags : List (String × Tag) :=
    [("null", .null), ("bool", .bool), ("int", .int), ("float", .float), ("binary", .binary),
      ("timestamp", .timestamp), ("str", .str), ("seq", .seq), ("map", .map), ("set", .set),
      ("omap", .orderedMap), ("pairs", .pairs), ("merge", .merge), ("value", .value)]
  ((tags.find? fun t => commonStart ++ t.1 = name).map (·.2)).getD .unknown

/-! ## The spelling of scalars -/

namespace Spelling

/-- A text without its sign, and whether the sign is a minus. -/
def unsigned : List Char → Bool × List Char
  | '-' :: rest => (true, rest)
  | '+' :: rest => (false, rest)
  | s => (false, s)

/-- Whether all characters are digits of a base or underscores, and there is one. -/
def isRow (isDigit : Char → Bool) (s : List Char) : Bool :=
  !s.isEmpty && s.all fun c => c = '_' || isDigit c

/-- Whether the characters are a decimal number that begins with a digit. -/
def isDecimalRow (s : List Char) : Bool :=
  match s with
  | c :: rest => c.isDigit && rest.all fun c => c = '_' || c.isDigit
  | [] => false

/-- The parts between colons. -/
def parts (s : List Char) : List (List Char) := s.splitOn ':'

/-- Whether the characters are a sexagesimal digit. -/
def isSixty (s : List Char) : Bool :=
  match s with
  | [a] => a.isDigit
  | [a, b] => '0' ≤ a && a ≤ '5' && b.isDigit
  | _ => false

/-- Whether the characters without a sign spell an integer. -/
def isNatural (s : List Char) : Bool :=
  match s with
  | '0' :: 'b' :: ds => isRow (fun c => c = '0' || c = '1') ds
  | '0' :: 'x' :: ds => isRow (fun c => (hexValue? c).isSome) ds
  | ['0'] => true
  | '0' :: ds => isRow (fun c => '0' ≤ c && c ≤ '7') ds
  | _ =>
    match parts s with
    | [ds] => isDecimalRow ds
    | first :: rest => isDecimalRow first && rest.all isSixty
    | [] => false

/-- Whether the characters spell an integer. -/
def isInteger (s : List Char) : Bool := isNatural (unsigned s).2

/-- Whether the characters are an exponent, which may be missing: `e` or `E`, a sign and
digits. -/
def isExponent : List Char → Bool
  | [] => true
  | e :: sign :: ds =>
    (e = 'e' || e = 'E') && (sign = '-' || sign = '+') && !ds.isEmpty && ds.all Char.isDigit
  | _ => false

/-- Whether the characters without a sign spell a number with a point. A point without
digits before it takes a digit after it and no sign. -/
def isDecimal (signed : Bool) (s : List Char) : Bool :=
  let whole := s.takeWhile (· ≠ '.')
  match s.dropWhile (· ≠ '.') with
  | [] => false
  | _ :: tail =>
    let fraction := tail.takeWhile fun c => c = '_' || c.isDigit
    match parts whole with
    | [ds] =>
      (isDecimalRow ds || (ds.isEmpty && !signed && isDecimalRow fraction))
        && isExponent (tail.drop fraction.length)
    | first :: rest =>
      isDecimalRow first && rest.all isSixty && fraction.length = tail.length
    | [] => false

/-- Whether the characters spell a number. -/
def isNumber (s : List Char) : Bool :=
  let body := (unsigned s).2
  let signed := body.length ≠ s.length
  let word := String.ofList body
  [".inf", ".Inf", ".INF"].contains word
    || (!signed && [".nan", ".NaN", ".NAN"].contains word)
    || isDecimal signed body

/-- Whether the word is a truth value. -/
def isTruth (s : String) : Bool :=
  ["yes", "Yes", "YES", "no", "No", "NO", "true", "True", "TRUE", "false", "False", "FALSE",
    "on", "On", "ON", "off", "Off", "OFF"].contains s

/-- Whether the word stands for null. -/
def isNull (s : String) : Bool := ["~", "null", "Null", "NULL"].contains s

/-- Whether the characters spell a date. -/
def isDate (s : List Char) : Bool := ((Spelled.ofText? s).map Spelled.isSure).getD false

/-- The text without a line feed at its end. -/
def withoutLineFeed (s : List Char) : List Char :=
  if s.getLast? = some '\n' then s.dropLast else s

end Spelling

/-- The tag of a plain scalar. -/
def Tag.ofSpelling (text : String) : Tag :=
  let s := Spelling.withoutLineFeed text.toList
  let word := String.ofList s
  if text = "" then .null
  else if Spelling.isTruth word then .bool
  else if Spelling.isNumber s then .float
  else if Spelling.isInteger s then .int
  else if word = "<<" then .merge
  else if Spelling.isNull word then .null
  else if Spelling.isDate s then .timestamp
  else if word = "=" then .value
  else if ["!", "&", "*"].contains word then .unknown
  else .str

end SearchDesk.Yaml
