import SearchDesk.Text.Base64
import SearchDesk.Text.Decimal
import SearchDesk.Text.LowerCase
import SearchDesk.Yaml.Timestamp

/-!
# Scalar values

The value of a scalar is made from its text and its tag. A tag that is named may meet any
text, so each reader says what it does with a text that the tag does not fit:

* `Scalar.integer` leaves out underscores and takes a sign, a mark of base two, eight or
  sixteen, and places of base sixty between colons;
* `Scalar.number` does the same for numbers, and sums the places of base sixty from the
  last one on, rounding each time;
* `Scalar.truth` takes a word in any case;
* `Scalar.date` takes a date that exists, and `Scalar.binary` takes bytes in base 64.

`Key` is a scalar as a key. Numbers and truth values are the same key if they are equal;
what is no number is the same key only if it is the same scalar, but for `.nan`.
-/

namespace SearchDesk.Yaml

/-- A scalar value. -/
inductive Scalar where
  | null
  | bool (value : Bool)
  | int (value : Int)
  | float (value : Binary64)
  | str (value : String)
  | bytes (value : List UInt8)
  | date (value : Timestamp)
deriving DecidableEq, Repr, Inhabited

namespace Scalar

/-! ## Reading -/

/-- The text without underscores. -/
def bare (s : List Char) : List Char := s.filter (· ≠ '_')

/-- A text without its sign, and whether the sign is a minus; an empty text is a fault. -/
def signAndRest : List Char → Except Fault (Bool × List Char)
  | [] => .error .emptyNumber
  | '-' :: rest => .ok (true, rest)
  | '+' :: rest => .ok (false, rest)
  | s => .ok (false, s)

/-- The integer that characters spell in a base. -/
def integerIn (base : Nat) (s : List Char) : Except Fault Int :=
  match spelledIn base s with
  | .ok n => .ok n
  | .error .unreadable => .error (.integer base (String.ofList s))
  | .error (.tooManyDigits count) => .error (.tooManyDigits count)

/-- The integer that characters without a sign spell. -/
def unsignedInteger (s : List Char) : Except Fault Int :=
  match s with
  | [] => .error .emptyNumber
  | '0' :: 'b' :: ds => integerIn 2 ds
  | '0' :: 'x' :: ds => integerIn 16 ds
  | ['0'] => .ok 0
  | '0' :: _ => integerIn 8 s
  | _ =>
    if s.contains ':' then do
      let places ← (s.splitOn ':').mapM (integerIn 10)
      return places.foldl (fun n p => 60 * n + p) 0
    else integerIn 10 s

/-- The integer that a text spells. -/
def integer (text : String) : Except Fault Int := do
  let (negative, body) ← signAndRest (bare text.toList)
  let n ← unsignedInteger body
  return if negative then -n else n

/-- The number that characters spell. -/
def numberIn (s : List Char) : Except Fault Binary64 :=
  match spelledNumber? s with
  | some x => .ok x
  | none => .error (.number (String.ofList s))

/-- The sum of places of base sixty, the last one first; each place counts `unit`. -/
def sumPlaces (sum : Binary64) (unit : Nat) : List Binary64 → Except Fault Binary64
  | [] => .ok sum
  | p :: rest =>
    let factor := Binary64.ofInt unit
    if factor.isFinite then sumPlaces (sum.add (p.mul factor)) (60 * unit) rest
    else .error .numberTooLarge

/-- The number that characters without a sign spell. -/
def unsignedNumber (s : List Char) : Except Fault Binary64 :=
  if String.ofList s = ".inf" then .ok (.infinite false)
  else if String.ofList s = ".nan" then .ok .nan
  else if s.contains ':' then do
    let places ← (s.splitOn ':').mapM numberIn
    sumPlaces .zero 1 places.reverse
  else numberIn s

/-- A text as the reader of numbers looks at it. -/
def numberText (text : String) : List Char := lowerCase (bare text.toList)

/-- The number that a text spells. -/
def number (text : String) : Except Fault Binary64 := do
  let (negative, body) ← signAndRest (numberText text)
  let x ← unsignedNumber body
  return if negative then x.neg else x

/-- Whether a text is the word for what is no number. -/
def isNanWord (text : String) : Bool :=
  match signAndRest (numberText text) with
  | .ok (_, body) => String.ofList body = ".nan"
  | .error _ => false

/-- The truth value of a word in any case. -/
def truth (text : String) : Except Fault Bool :=
  let word := String.ofList (lowerCase text.toList)
  if ["yes", "true", "on"].contains word then .ok true
  else if ["no", "false", "off"].contains word then .ok false
  else .error (.truth word)

/-- The date that a text spells; one line feed at its end is passed over. -/
def date? (text : String) : Except Fault Timestamp :=
  let s := text.toList
  match Spelled.ofText? (if s.getLast? = some '\n' then s.dropLast else s) with
  | none => .error .noDate
  | some d =>
    match Timestamp.ofSpelled d with
    | .ok t => .ok t
    | .error f => .error (.clock f)

/-- The bytes that a text spells in base 64. -/
def binary (text : String) : Except Fault (List UInt8) :=
  if text.toList.all fun c => c.toNat < 128 then
    match decodeBase64? text.toList with
    | some bs => .ok bs
    | none => .error .malformed
  else .error .malformed

/-! ## Truth and names -/

/-- The truth of a scalar in a condition. -/
def holds : Scalar → Bool
  | .null => false
  | .bool b => b
  | .int n => n ≠ 0
  | .float x => !x.isZero
  | .str s => s ≠ ""
  | .bytes bs => !bs.isEmpty
  | .date _ => true

/-- The word for the kind of a scalar in messages. -/
def typeName : Scalar → String
  | .null => "NoneType"
  | .bool _ => "bool"
  | .int _ => "int"
  | .float _ => "float"
  | .str _ => "str"
  | .bytes _ => "bytes"
  | .date t => if t.time.isSome then "datetime.datetime" else "datetime.date"

end Scalar

/-! ## Keys -/

/-- A scalar as a key. The origin tells apart the scalars that are no number. -/
structure Key where
  value : Scalar
  origin : Nat
deriving DecidableEq, Repr, Inhabited

namespace Key

/-- The numerator and denominator of a finite scalar. -/
def ratio? : Scalar → Option (Int × Nat)
  | .bool b => some (if b then 1 else 0, 1)
  | .int n => some (n, 1)
  | .float (.finite s m e) => some (Binary64.signedRatio s m e)
  | _ => none

/-- Whether two keys are the same key. -/
def same (a b : Key) : Bool :=
  match a.value, b.value with
  | .float .nan, .float .nan => a.origin = b.origin
  | .date s, .date t => s.same t
  | x, y =>
    match ratio? x, ratio? y with
    | some (m, d), some (n, e) => m * e = n * d
    | none, none => x = y
    | _, _ => false

end Key

end SearchDesk.Yaml
