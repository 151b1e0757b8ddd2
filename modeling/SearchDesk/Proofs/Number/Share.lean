import Mathlib.Algebra.GroupWithZero.Nat
import SearchDesk.Number.Binary64

/-!
# Shares as floating-point numbers

A count divided by a number that is not smaller is not above one, and rounding keeps it there.

* `roundQuotient_le`: a quotient below a natural number is not rounded beyond it;
* `gridExponent_le`: the grid on which such a quotient is rounded is finer than one;
* `ofRatio_inUnit`: the rounded quotient is in the range from zero to one (`InUnit`).

What is no number is not in the range; bounds are only ever checked by comparing.
-/

namespace SearchDesk

/-- A quotient that is not above a natural number is not rounded beyond it. -/
theorem roundQuotient_le {a b q : Nat} (positive : 0 < b) (bound : a ≤ q * b) :
    roundQuotient a b ≤ q := by
  have parts : b * (a / b) + a % b = a := Nat.div_add_mod a b
  have atMost : a / b ≤ q := Nat.div_le_of_le_mul (by rwa [Nat.mul_comm])
  unfold roundQuotient
  rcases Nat.lt_or_eq_of_le atMost with less | same
  · split
    · exact atMost
    · split
      · exact less
      · split
        · exact atMost
        · exact less
  · -- `q` is reached, so nothing is left that could be rounded up
    have nothing : a % b = 0 := by
      rw [same, Nat.mul_comm] at parts
      omega
    have down : 2 * (a % b) < b := by omega
    rw [if_pos down]
    exact atMost

namespace Binary64

/-- The value is at most one and at least zero. -/
def InUnit (x : Binary64) : Prop := le x one = true ∧ le zero x = true

instance (x : Binary64) : Decidable (InUnit x) := inferInstanceAs (Decidable (_ ∧ _))

/-- A finite value is at most another one that is not below it. -/
theorem le_finite {s t : Bool} {m n : Nat} {e f : Int}
    (notBelow : lt (.finite t n f) (.finite s m e) = false) :
    le (.finite s m e) (.finite t n f) = true := by
  have alike : same (.finite s m e) (.finite t n f) =
      (!lt (.finite s m e) (.finite t n f) && !lt (.finite t n f) (.finite s m e)) := rfl
  rw [le, alike, notBelow]
  cases lt (.finite s m e) (.finite t n f) <;> rfl

/-- A mantissa on a fine grid is not above one if it has no more steps than one has. -/
theorem inUnit_finite {m : Nat} {e : Int} (fine : e ≤ 0) (bound : m ≤ 2 ^ (-e).toNat) :
    InUnit (.finite false m e) := by
  have whole : (- -e).toNat = 0 := by omega
  constructor
  · -- one is `2 ^ 52` steps of `2 ^ -52`
    have notAbove : m * 2 ^ 52 ≤ 2 ^ 52 * 2 ^ (-e).toNat := by
      rw [Nat.mul_comm]
      exact Nat.mul_le_mul_left _ bound
    refine le_finite (decide_eq_false (Int.not_lt.mpr ?_))
    show ((m * 2 ^ (- -e).toNat : Nat) : Int) * (1 * 2 ^ 52 : Nat) ≤
      (2 ^ 52 * 2 ^ 0 : Nat) * (1 * 2 ^ (-e).toNat : Nat)
    rw [whole, Nat.pow_zero, Nat.mul_one, Nat.mul_one, Nat.one_mul, Nat.one_mul]
    exact_mod_cast notAbove
  · refine le_finite (decide_eq_false (Int.not_lt.mpr ?_))
    show (0 * 2 ^ 0 : Int) * _ ≤ ((m * 2 ^ (- -e).toNat : Nat) : Int) * (1 * 2 ^ 0 : Nat)
    rw [Int.zero_mul, Int.zero_mul]
    exact_mod_cast Nat.zero_le _

theorem log2_le_log2 {a b : Nat} (positive : a ≠ 0) (le : a ≤ b) : a.log2 ≤ b.log2 := by
  have positive' : b ≠ 0 := by omega
  rw [Nat.le_log2 positive']
  exact Nat.le_trans (Nat.log2_self_le positive) le

/-- A quotient that is not above one has all its bits behind the point. -/
theorem gridExponent_le {a b : Nat} (positive : a ≠ 0) (le : a ≤ b) :
    gridExponent a b ≤ -52 := by
  have logs := log2_le_log2 positive le
  unfold gridExponent leastExponent
  simp only
  split <;> omega

/-- On a fine grid a quotient that is not above one has no more steps than one has. -/
theorem roundQuotient_rescale_le {a b : Nat} {e : Int} (positive : 0 < b) (le : a ≤ b)
    (fine : e ≤ 0) :
    roundQuotient (rescale a b e).1 (rescale a b e).2 ≤ 2 ^ (-e).toNat := by
  have whole : e.toNat = 0 := by omega
  have denominator : (rescale a b e).2 = b := by simp [rescale, whole]
  rw [denominator]
  apply roundQuotient_le positive
  show a * 2 ^ (-e).toNat ≤ 2 ^ (-e).toNat * b
  rw [Nat.mul_comm]
  exact Nat.mul_le_mul_left _ le

/-- A count divided by a number that is not smaller is rounded to a share. -/
theorem ofRatio_inUnit {a b : Nat} (le : a ≤ b) : InUnit (ofRatio false a b) := by
  by_cases none : a = 0
  · rw [ofRatio, if_pos none]
    exact inUnit_finite (Int.le_refl 0) (Nat.zero_le _)
  · have positive : 0 < b := by omega
    have grid : gridExponent a b ≤ -52 := gridExponent_le none le
    have bound := roundQuotient_rescale_le positive le (show gridExponent a b ≤ 0 by omega)
    unfold ofRatio
    rw [if_neg none]
    simp only
    generalize gridExponent a b = e at *
    generalize roundQuotient (rescale a b e).1 (rescale a b e).2 = m at *
    have room : ¬greatestExponent < e ∧ ¬greatestExponent < e + 1 ∧ ¬greatestExponent < 0 := by
      unfold greatestExponent
      omega
    by_cases carry : m = Nat.pow 2 53
    · -- the mantissa is halved and the exponent grows by one
      rw [if_pos carry, if_neg room.2.1]
      apply inUnit_finite (by omega)
      rw [carry] at bound
      have wide : 53 ≤ (-e).toNat := (Nat.pow_le_pow_iff_right (by decide)).mp bound
      show 2 ^ 52 ≤ 2 ^ (-(e + 1)).toNat
      exact Nat.pow_le_pow_right (by decide) (by omega)
    · rw [if_neg carry]
      by_cases vanished : m = 0
      · rw [if_pos vanished, if_neg room.2.2]
        exact inUnit_finite (Int.le_refl 0) (Nat.zero_le _)
      · rw [if_neg vanished, if_neg room.1]
        exact inUnit_finite (by omega) bound

end Binary64

end SearchDesk
