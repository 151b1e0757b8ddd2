import SearchDesk.Number.Binary64
import SearchDesk.Text.Integer

/-!
# Numbers spelled out

How a floating-point number may be spelled: a sign, digits with a point among or around
them, an exponent, or one of the words for what is not finite.

* `plainNumber?` takes ASCII digits and nothing around them;
* `spelledNumber?` takes white space around the number and decimal digits of any script.
-/

namespace SearchDesk

/-- The number that ASCII digits stand for. -/
def asciiNumber (ds : List Char) : Nat := ofDecimalDigits (ds.map fun c => c.toNat - 48)

/-- The special number that a word names, in any case. -/
def specialNumber? (negative : Bool) (s : List Char) : Option Binary64 :=
  let word := String.ofList (s.map Char.toLower)
  if word = "inf" ∨ word = "infinity" then some (.infinite negative)
  else if word = "nan" then some .nan
  else none

/-- The number that digits with a point and an exponent stand for. -/
def decimalNumber? (negative : Bool) (s : List Char) : Option Binary64 :=
  let whole := s.takeWhile Char.isDigit
  let afterWhole := s.dropWhile Char.isDigit
  let (fraction, afterFraction) := match afterWhole with
    | '.' :: rest => (rest.takeWhile Char.isDigit, rest.dropWhile Char.isDigit)
    | _ => ([], afterWhole)
  let digits := whole ++ fraction
  let result (exponent : Int) : Option Binary64 :=
    if digits.isEmpty then none
    else some (.ofDecimal negative (asciiNumber digits) (exponent - fraction.length))
  match afterFraction with
  | [] => result 0
  | e :: rest =>
    if e = 'e' ∨ e = 'E' then
      let (minus, ds) := match rest with
        | '-' :: r => (true, r)
        | '+' :: r => (false, r)
        | r => (false, r)
      if ds.isEmpty || !ds.all Char.isDigit then none
      else result (if minus then -(asciiNumber ds : Int) else asciiNumber ds)
    else none

/-- The number that a text without blanks and underscores stands for. -/
def plainNumber? (s : List Char) : Option Binary64 :=
  let (negative, body) := match s with
    | '-' :: rest => (true, rest)
    | '+' :: rest => (false, rest)
    | rest => (false, rest)
  match specialNumber? negative body with
  | some x => some x
  | none => decimalNumber? negative body

/-- A decimal digit of any script as the ASCII digit of its value. -/
def asciiDigit (c : Char) : Char :=
  match digitValue? c with
  | some d => Char.ofNat (48 + d)
  | none => c

/-- The number that a text without underscores spells. -/
def spelledNumber? (s : List Char) : Option Binary64 :=
  plainNumber? ((trimBoth isWhiteSpace s).map asciiDigit)

end SearchDesk
