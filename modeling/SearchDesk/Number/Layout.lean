import SearchDesk.Number.Shortest

/-!
# Number text

How numbers are written in every output of the desk:

* an integer is written in decimal with a minus sign if it is negative;
* a floating-point number is written with the fewest digits that read back, positionally
  while its first digit stands between the fourth place after the point and the
  sixteenth before it, otherwise with an exponent that has a sign and at least two
  digits; a positional number keeps one digit after the point;
* a share is written as a whole percentage.

`Layout` is the record of the decisions; `Layout.plain` is used in display texts and
`Layout.json` in JSON text, and the two differ in the words for values that are not finite.
-/

namespace SearchDesk

/-- The decisions on how a floating-point number is laid out. -/
structure Layout where
  /-- The least exponent that is written positionally. -/
  leastPositional : Int := -4
  /-- The greatest exponent that is written positionally. -/
  greatestPositional : Int := 15
  /-- The least number of digits of a written exponent. -/
  exponentDigits : Nat := 2
  /-- The word for a value that is no number. -/
  nanWord : String
  /-- The word for a value that is infinite. -/
  infinityWord : String

/-- The layout of display texts. -/
def Layout.plain : Layout := { nanWord := "nan", infinityWord := "inf" }

/-- The layout of JSON text. -/
def Layout.json : Layout := { nanWord := "NaN", infinityWord := "Infinity" }

/-- The decimal digits of a natural number. -/
def decimalDigits (n : Nat) : List Char := Nat.toDigits 10 n

/-- A natural number padded with zeros to a least width. -/
def paddedDigits (width n : Nat) : List Char :=
  let ds := decimalDigits n
  List.replicate (width - ds.length) '0' ++ ds

/-- The text of a natural number. -/
def naturalText (n : Nat) : String := String.ofList (decimalDigits n)

/-- The text of an integer. -/
def integerText (n : Int) : String :=
  if n < 0 then "-" ++ naturalText n.natAbs else naturalText n.natAbs

namespace Layout

/-- Digits around a point: `point` digits stand before it, zeros fill the gaps. -/
def positional (digits : List Char) (point : Int) : List Char :=
  if point ≤ 0 then '0' :: '.' :: (List.replicate (-point).toNat '0' ++ digits)
  else
    let n := point.toNat
    if digits.length ≤ n then digits ++ List.replicate (n - digits.length) '0' ++ ['.', '0']
    else digits.take n ++ '.' :: digits.drop n

/-- Digits with the point after the first one, and an exponent. -/
def scientific (l : Layout) (digits : List Char) (exponent : Int) : List Char :=
  let fraction := match digits.drop 1 with
    | [] => []
    | ds => '.' :: ds
  digits.take 1 ++ fraction ++ 'e' :: (if exponent < 0 then '-' else '+')
    :: paddedDigits l.exponentDigits exponent.natAbs

/-- The text of a decimal that is not negative. -/
def decimal (l : Layout) (x : Decimal) : List Char :=
  let digits := decimalDigits x.digits
  let exponent := x.exponent + digits.length - 1
  if l.leastPositional ≤ exponent ∧ exponent ≤ l.greatestPositional then
    positional digits (exponent + 1)
  else l.scientific digits exponent

/-- The text of a floating-point number. -/
def render (l : Layout) : Binary64 → String
  | .nan => l.nanWord
  | .infinite negative => (if negative then "-" else "") ++ l.infinityWord
  | .finite negative mantissa exponent =>
    let body := if mantissa = 0 then ['0', '.', '0']
      else l.decimal (Binary64.shortest mantissa exponent)
    String.ofList (if negative then '-' :: body else body)

end Layout

/-- A share as a whole percentage: the rounded hundredfold, a half going to the even neighbour. -/
def percentText (x : Binary64) : String :=
  match x.hundredfold with
  | .finite negative mantissa exponent =>
    let (n, d) := Binary64.rescale mantissa 1 (-exponent)
    (if negative then "-" else "") ++ naturalText (roundQuotient n d) ++ "%"
  | y => Layout.plain.render y ++ "%"

end SearchDesk
