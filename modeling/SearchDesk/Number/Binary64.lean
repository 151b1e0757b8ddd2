/-!
# Binary floating-point numbers with 53 bits

`Binary64` holds a 64-bit floating-point number as a sign, a natural mantissa and a
power of two, so that every operation is exact arithmetic on integers and can be
reasoned about:

* **rounding**: `Binary64.ofRatio` is the nearest value to a quotient of naturals,
  a half going to the even neighbour;
* **reading**: `Binary64.ofDecimal` and `Binary64.ofInt` round a decimal and an integer;
* **order**: `Binary64.lt` and `Binary64.le` compare the values exactly, and a value
  that is no number is not comparable with anything;
* **integrality**: `Binary64.toInt?` gives the integer that a value is equal to;
* **arithmetic**: `Binary64.add` and `Binary64.mul` are the exact results, rounded.

A finite value is `± mantissa · 2 ^ exponent`. `ofRatio` produces the form in which the
mantissa has 53 bits, or fewer at the least exponent, and zero has exponent 0, so equal
values other than the two zeros are equal as data.
-/

namespace SearchDesk

/-- A 64-bit binary floating-point number. -/
inductive Binary64 where
  | nan
  | infinite (negative : Bool)
  | finite (negative : Bool) (mantissa : Nat) (exponent : Int)
deriving DecidableEq, Repr, Inhabited

/-- The quotient `a / b` to the nearest natural number, a half going to the even one. -/
def roundQuotient (a b : Nat) : Nat :=
  if 2 * (a % b) < b then a / b
  else if b < 2 * (a % b) then a / b + 1
  else if a / b % 2 = 0 then a / b
  else a / b + 1

namespace Binary64

/-- The exponent of the least positive value. -/
def leastExponent : Int := -1074

/-- The exponent of the greatest finite value. -/
def greatestExponent : Int := 971

/-- The numerator and denominator of `(a / b) / 2 ^ e`. -/
def rescale (a b : Nat) (e : Int) : Nat × Nat :=
  (a * Nat.pow 2 (-e).toNat, b * Nat.pow 2 e.toNat)

/-- The exponent of the grid that `a / b` is rounded on: the one on which it has 53 bits,
or the least exponent if that is greater. -/
def gridExponent (a b : Nat) : Int :=
  let e : Int := (a.log2 : Int) - b.log2 - 53
  let (n, d) := rescale a b e
  max leastExponent (if n / d < Nat.pow 2 53 then e else e + 1)

/-- The value with the given sign that is nearest to `a / b`; too large a quotient is infinite. -/
def ofRatio (negative : Bool) (a b : Nat) : Binary64 :=
  if a = 0 then .finite negative 0 0
  else
    let e := gridExponent a b
    let (n, d) := rescale a b e
    let m := roundQuotient n d
    let (m, e) :=
      if m = Nat.pow 2 53 then (Nat.pow 2 52, e + 1) else if m = 0 then (0, 0) else (m, e)
    if greatestExponent < e then .infinite negative else .finite negative m e

/-- The value nearest to an integer. -/
def ofInt (n : Int) : Binary64 := ofRatio (n < 0) n.natAbs 1

/-- The value nearest to `digits · 10 ^ exponent`. Decimals far outside the range of the
format are decided by their size alone. -/
def ofDecimal (negative : Bool) (digits : Nat) (exponent : Int) : Binary64 :=
  let size : Int := (Nat.toDigits 10 digits).length + exponent
  if digits = 0 ∨ size < -400 then .finite negative 0 0
  else if 400 < size then .infinite negative
  else ofRatio negative (digits * Nat.pow 10 exponent.toNat) (Nat.pow 10 (-exponent).toNat)

/-- Positive zero. -/
def zero : Binary64 := .finite false 0 0

/-- One. -/
def one : Binary64 := .finite false (Nat.pow 2 52) (-52)

/-- The numerator, with its sign, and the denominator of a finite value. -/
def signedRatio (negative : Bool) (mantissa : Nat) (exponent : Int) : Int × Nat :=
  let (n, d) := rescale mantissa 1 (-exponent)
  (if negative then -(n : Int) else n, d)

/-- The strict order of the values; nothing is below or above a value that is no number. -/
def lt : Binary64 → Binary64 → Bool
  | .nan, _ | _, .nan => false
  | .infinite s, .infinite t => s && !t
  | .infinite s, .finite .. => s
  | .finite .., .infinite t => !t
  | .finite s m e, .finite t n f =>
    let (a, b) := signedRatio s m e
    let (c, d) := signedRatio t n f
    decide (a * d < c * b)

/-- Whether two values are numbers and equal; the two zeros are. -/
def same (x y : Binary64) : Bool :=
  match x, y with
  | .nan, _ | _, .nan => false
  | x, y => !lt x y && !lt y x

/-- The order of the values, equality included. -/
def le (x y : Binary64) : Bool := lt x y || same x y

/-- The integer that a value is equal to, if there is one. -/
def toInt? : Binary64 → Option Int
  | .finite s m e =>
    let (a, b) := signedRatio s m e
    if a % b = 0 then some (a / b) else none
  | _ => none

/-- Whether the value is neither infinite nor no number. -/
def isFinite : Binary64 → Bool
  | .finite .. => true
  | _ => false

/-- Whether the value is one of the two zeros. -/
def isZero : Binary64 → Bool
  | .finite _ m _ => m = 0
  | _ => false

/-- Whether the value has a minus sign; what is no number has none. -/
def isNegative : Binary64 → Bool
  | .nan => false
  | .infinite s => s
  | .finite s _ _ => s

/-- The value with the other sign. -/
def neg : Binary64 → Binary64
  | .nan => .nan
  | .infinite s => .infinite !s
  | .finite s m e => .finite (!s) m e

/-- The sum of two values. A sum of zeros is negative only if both are, and opposite values
have a positive zero as their sum. -/
def add : Binary64 → Binary64 → Binary64
  | .nan, _ | _, .nan => .nan
  | .infinite s, .infinite t => if s = t then .infinite s else .nan
  | .infinite s, .finite .. => .infinite s
  | .finite .., .infinite t => .infinite t
  | .finite s m e, .finite t n f =>
    let (a, b) := signedRatio s m e
    let (c, d) := signedRatio t n f
    let sum := a * d + c * b
    if sum = 0 then .finite (m = 0 && n = 0 && s && t) 0 0
    else ofRatio (sum < 0) sum.natAbs (b * d)

/-- The product of two values. -/
def mul : Binary64 → Binary64 → Binary64
  | .nan, _ | _, .nan => .nan
  | .infinite s, y => if y.isZero then .nan else .infinite (s ^^ y.isNegative)
  | x, .infinite t => if x.isZero then .nan else .infinite (x.isNegative ^^ t)
  | .finite s m e, .finite t n f =>
    let (a, b) := rescale (m * n) 1 (-(e + f))
    ofRatio (s ^^ t) a b

/-- A hundred times the value, rounded. -/
def hundredfold : Binary64 → Binary64
  | .finite s m e =>
    let (n, d) := rescale (100 * m) 1 (-e)
    ofRatio s n d
  | x => x

end Binary64

end SearchDesk
