import SearchDesk.Json.Basic
import SearchDesk.Text.Halves
import SearchDesk.Text.Integer

/-!
# Reading JSON text

`Json.read` reads a JSON document from text and, if it cannot, says why and where.

* numbers without a fraction or an exponent are integers of at most 4300 digits, the
  others are rounded to 64-bit floating-point numbers; `NaN`, `Infinity` and `-Infinity`
  are read as well;
* an escape `\uXXXX` of a leading half joins with one of a trailing half after it, and a
  half that stands alone is refused, since no text holds it;
* a repeated key keeps its first place and its last value;
* a document that begins with a byte order mark is refused.

Every reading function takes the characters from where it stands and gives back those
that are left, so the place of a fault is known from the characters left at the fault.
The first argument of the functions on nested values bounds the nesting.
-/

namespace SearchDesk.Json

/-- Why a text is no JSON document. -/
inductive ReadCause where
  | byteOrderMark
  | expectingValue
  | expectingKey
  | expectingColon
  | expectingComma
  | unterminatedText
  | controlCharacter
  | badEscape
  | badUnicodeEscape
  | extraData
deriving DecidableEq, Repr

/-- The words for the cause. -/
def ReadCause.message : ReadCause → String
  | .byteOrderMark => "Unexpected UTF-8 BOM (decode using utf-8-sig)"
  | .expectingValue => "Expecting value"
  | .expectingKey => "Expecting property name enclosed in double quotes"
  | .expectingColon => "Expecting ':' delimiter"
  | .expectingComma => "Expecting ',' delimiter"
  | .unterminatedText => "Unterminated string starting at"
  | .controlCharacter => "Invalid control character at"
  | .badEscape => "Invalid \\escape"
  | .badUnicodeEscape => "Invalid \\uXXXX escape"
  | .extraData => "Extra data"

/-- A fault in a text: malformed at a place, an integer with too many digits, or half of a
character. -/
inductive ReadFault where
  | malformed (cause : ReadCause) (line column position : Nat)
  | tooManyDigits (count : Nat)
  | loneHalf
deriving DecidableEq, Repr

/-- The message for a fault. -/
def ReadFault.message : ReadFault → String
  | .malformed cause line column position =>
    cause.message ++ ": line " ++ Nat.repr line ++ " column " ++ Nat.repr column
      ++ " (char " ++ Nat.repr position ++ ")"
  | .tooManyDigits count =>
    "Exceeds the limit (4300 digits) for integer string conversion: value has "
      ++ Nat.repr count ++ " digits; use sys.set_int_max_str_digits() to increase the limit"
  | .loneHalf => "Half of a character stands alone"

/-- The text is no document. Other faults are limits of what can be read. -/
def ReadFault.IsMalformed : ReadFault → Prop
  | .malformed .. => True
  | _ => False

namespace Reader

/-- A fault during reading, with the characters left at its place. -/
inductive Stop where
  | malformed (cause : ReadCause) (rest : List Char)
  | tooManyDigits (count : Nat)
  | loneHalf

/-- Space, tab, line feed and carriage return. -/
def isSpace (c : Char) : Bool := c = ' ' || c = '\t' || c = '\n' || c = '\r'

/-- The characters after leading space. -/
def skipSpace (s : List Char) : List Char := s.dropWhile isSpace

/-- The code of four hexadecimal digits. -/
def fourHex? : List Char → Option Nat
  | a :: b :: c :: d :: _ => hexNumber? [a, b, c, d]
  | _ => none

/-- The character of the escape `\u` of one code point, which may not be a half. -/
def escapedWhole (code : Nat) : Except Stop (Char × Nat) :=
  match wholeCharacter? code with
  | some c => .ok (c, 4)
  | none => .error .loneHalf

/-- The character of the escape `\u`, read from the characters after the `u`, and how
many of them it takes. Before the end of the text a further character is required. -/
def unicodeEscape (s : List Char) : Except Stop (Char × Nat) :=
  let fault (rest : List Char) : Except Stop (Char × Nat) :=
    .error (.malformed .badUnicodeEscape rest)
  match s.drop 4 with
  | [] => fault ('u' :: s)
  | after =>
    match fourHex? s with
    | none => fault ('u' :: s)
    | some high =>
      match after with
      | '\\' :: 'u' :: low =>
        if isLeadingHalf high && !(low.drop 4).isEmpty then
          match fourHex? low with
          | none => fault ('u' :: low)
          | some code =>
            if isTrailingHalf code then .ok (joined high code, 10) else escapedWhole high
        else escapedWhole high
      | _ => escapedWhole high

/-- The character that a letter stands for after a backslash. -/
def simpleEscape? : Char → Option Char
  | '"' => some '"'
  | '\\' => some '\\'
  | '/' => some '/'
  | 'b' => some (Char.ofNat 8)
  | 'f' => some (Char.ofNat 12)
  | 'n' => some '\n'
  | 'r' => some '\r'
  | 't' => some '\t'
  | _ => none

/-- The character of an escape, read from the characters after the backslash, and how many
of them it takes; `start` are the characters from the opening quote on. -/
def escape (start : List Char) : List Char → Except Stop (Char × Nat)
  | [] => .error (.malformed .unterminatedText start)
  | 'u' :: rest => do
    let (c, n) ← unicodeEscape rest
    return (c, n + 1)
  | c :: rest =>
    match simpleEscape? c with
    | some d => .ok (d, 1)
    | none => .error (.malformed .badEscape ('\\' :: c :: rest))

/-- The rest of a text after its opening quote. The first argument counts the characters
that belong to an escape already read, and `acc` holds the characters read, last first. -/
def textTail (start : List Char) :
    Nat → List Char → List Char → Except Stop (String × List Char)
  | _, _, [] => .error (.malformed .unterminatedText start)
  | skip + 1, acc, _ :: rest => textTail start skip acc rest
  | 0, acc, c :: rest =>
    if c = '"' then .ok (String.ofList acc.reverse, rest)
    else if c = '\\' then
      match escape start rest with
      | .ok (d, n) => textTail start n (d :: acc) rest
      | .error e => .error e
    else if c.toNat ≤ 0x1F then .error (.malformed .controlCharacter (c :: rest))
    else textTail start 0 (c :: acc) rest

/-- The digits that a row of characters starts with, and the rest. -/
def digits (s : List Char) : List Char × List Char :=
  (s.takeWhile Char.isDigit, s.dropWhile Char.isDigit)

/-- The number that ASCII digits stand for. -/
def digitsValue (ds : List Char) : Nat := ofDecimalDigits (ds.map fun c => c.toNat - 48)

/-- A fraction: a point and at least one digit, or nothing. -/
def fraction (s : List Char) : List Char × List Char :=
  match s with
  | '.' :: rest =>
    match digits rest with
    | ([], _) => ([], s)
    | r => r
  | _ => ([], s)

/-- An exponent: `e` or `E`, an optional sign and at least one digit, or nothing. -/
def exponent (s : List Char) : Option Int × List Char :=
  match s with
  | e :: rest =>
    if e = 'e' ∨ e = 'E' then
      let (negative, body) := match rest with
        | '-' :: r => (true, r)
        | '+' :: r => (false, r)
        | r => (false, r)
      match digits body with
      | ([], _) => (none, s)
      | (ds, after) => (some (if negative then -(digitsValue ds : Int) else digitsValue ds), after)
    else (none, s)
  | [] => (none, s)

/-- A number after its sign; `start` are the characters from the sign on. -/
def number (start : List Char) (negative : Bool) (s : List Char) :
    Except Stop (Json × List Char) :=
  let whole := match s with
    | '0' :: rest => (['0'], rest)
    | _ => digits s
  match whole with
  | ([], _) => .error (.malformed .expectingValue start)
  | (ds, afterWhole) =>
    let (fs, afterFraction) := fraction afterWhole
    let (e, rest) := exponent afterFraction
    if fs.isEmpty && e.isNone then
      if digitLimit < ds.length then .error (.tooManyDigits ds.length)
      else .ok (.int (if negative then -(digitsValue ds : Int) else digitsValue ds), rest)
    else
      let x := Binary64.ofDecimal negative (digitsValue (ds ++ fs)) (e.getD 0 - fs.length)
      .ok (.float x, rest)

/-- What follows the given word at the start of the characters. -/
def after? (word : String) (s : List Char) : Option (List Char) :=
  if word.toList.isPrefixOf s then some (s.drop word.length) else none

/-- A word or a number. -/
def scalar (s : List Char) : Except Stop (Json × List Char) :=
  let words : List (String × Json) :=
    [("null", .null), ("true", .bool true), ("false", .bool false), ("NaN", .float .nan),
      ("Infinity", .float (.infinite false)), ("-Infinity", .float (.infinite true))]
  match words.findSome? fun w => (after? w.1 s).map fun rest => (w.2, rest) with
  | some r => .ok r
  | none =>
    match s with
    | '-' :: rest => number s true rest
    | _ => number s false s

mutual

/-- A value. -/
def value : Nat → List Char → Except Stop (Json × List Char)
  | 0, s => .error (.malformed .expectingValue s)
  | n + 1, s =>
    match s with
    | '"' :: rest => do
      let (t, rest) ← textTail s 0 [] rest
      return (.str t, rest)
    | '[' :: rest =>
      match skipSpace rest with
      | ']' :: rest => .ok (.arr [], rest)
      | rest => do
        let (vs, rest) ← items n rest
        return (.arr vs, rest)
    | '{' :: rest =>
      match skipSpace rest with
      | '}' :: rest => .ok (.obj [], rest)
      | rest => do
        let (ms, rest) ← members n rest
        return (.obj (Entries.ofList ms), rest)
    | _ => scalar s

/-- The items of an array that is not empty, up to its end. -/
def items : Nat → List Char → Except Stop (List Json × List Char)
  | 0, s => .error (.malformed .expectingValue s)
  | n + 1, s => do
    let (v, rest) ← value n s
    match skipSpace rest with
    | ']' :: rest => return ([v], rest)
    | ',' :: rest =>
      let (vs, rest) ← items n (skipSpace rest)
      return (v :: vs, rest)
    | rest => .error (.malformed .expectingComma rest)

/-- The members of an object that is not empty, up to its end. -/
def members : Nat → List Char → Except Stop (List (String × Json) × List Char)
  | 0, s => .error (.malformed .expectingKey s)
  | n + 1, s =>
    match s with
    | '"' :: rest => do
      let (k, rest) ← textTail s 0 [] rest
      match skipSpace rest with
      | ':' :: rest =>
        let (v, rest) ← value n (skipSpace rest)
        match skipSpace rest with
        | '}' :: rest => return ([(k, v)], rest)
        | ',' :: rest =>
          let (ms, rest) ← members n (skipSpace rest)
          return ((k, v) :: ms, rest)
        | rest => .error (.malformed .expectingComma rest)
      | rest => .error (.malformed .expectingColon rest)
    | _ => .error (.malformed .expectingKey s)

end

/-- A document: a value with nothing but space around it. -/
def document (s : List Char) : Except Stop Json :=
  match s with
  | '\uFEFF' :: _ => .error (.malformed .byteOrderMark s)
  | _ =>
    match value (2 * s.length + 1) (skipSpace s) with
    | .error e => .error e
    | .ok (v, rest) =>
      match skipSpace rest with
      | [] => .ok v
      | rest => .error (.malformed .extraData rest)

/-- The fault in a text, told by the characters left at its place. -/
def locate (text : List Char) : Stop → ReadFault
  | .tooManyDigits count => .tooManyDigits count
  | .loneHalf => .loneHalf
  | .malformed cause rest =>
    let before := text.take (text.length - rest.length)
    .malformed cause (before.count '\n' + 1)
      ((before.reverse.takeWhile (· ≠ '\n')).length + 1) before.length

end Reader

/-- The value that a JSON document stands for. -/
def read (text : String) : Except ReadFault Json :=
  match Reader.document text.toList with
  | .ok v => .ok v
  | .error e => .error (Reader.locate text.toList e)

end SearchDesk.Json
