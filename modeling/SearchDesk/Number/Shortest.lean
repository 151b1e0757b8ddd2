import SearchDesk.Number.Binary64

/-!
# The shortest decimal that reads back

`Binary64.shortest` gives, for a finite positive value, the decimal with the fewest
digits that is read back as that value, and of those the nearest one:

* **scale**: `Decimal.scale a b` is the place of the first digit of `a / b`;
* **grid**: `Decimal.neighbours` are the two decimals with `n` digits around the value, the
  nearer one first and of two equally near ones the even one;
* **search**: the first grid with a neighbour that reads back wins.

Seventeen digits are always enough; the layout of the digits is not decided here.
-/

namespace SearchDesk

/-- The decimal `digits · 10 ^ exponent`. -/
structure Decimal where
  digits : Nat
  exponent : Int
deriving DecidableEq, Repr, Inhabited

namespace Decimal

/-- The number of decimal digits of a natural number; zero has one. -/
def digitCount (n : Nat) : Nat := (Nat.toDigits 10 n).length

/-- The least `k` with `a / b < 10 ^ k`, for a positive quotient. -/
def scale (a b : Nat) : Int :=
  if b ≤ a then digitCount (a / b) else 1 - (digitCount ((b - 1) / a) : Int)

/-- The two decimals with `n` digits around `a / b`, the nearer one first. -/
def neighbours (a b n : Nat) : List Decimal :=
  let g : Int := scale a b - n
  let c := a * Nat.pow 10 (-g).toNat
  let d := b * Nat.pow 10 g.toNat
  let low := c / d
  let (near, far) := if roundQuotient c d = low then (low, low + 1) else (low + 1, low)
  [⟨near, g⟩, ⟨far, g⟩]

/-- Move trailing zeros of the digits into the exponent, at most `n` of them. -/
def strip : Nat → Decimal → Decimal
  | 0, x => x
  | n + 1, x =>
    if x.digits ≠ 0 ∧ x.digits % 10 = 0 then strip n ⟨x.digits / 10, x.exponent + 1⟩ else x

end Decimal

/-- The shortest decimal that reads back as `mantissa · 2 ^ exponent`. -/
def Binary64.shortest (mantissa : Nat) (exponent : Int) : Decimal :=
  let (a, b) := Binary64.rescale mantissa 1 (-exponent)
  let value := Binary64.finite false mantissa exponent
  let readsBack (x : Decimal) : Bool := Binary64.ofDecimal false x.digits x.exponent = value
  let found := (List.range 17).findSome? fun i => (Decimal.neighbours a b (i + 1)).find? readsBack
  (found.getD ⟨a / b, 0⟩).strip 20

end SearchDesk
