import Mathlib.Algebra.Order.Field.Power
import Mathlib.Data.Rat.Cast.Order
import Mathlib.Tactic.FieldSimp
import Mathlib.Tactic.Linarith
import Mathlib.Tactic.Positivity
import Mathlib.Tactic.Ring
import Mathlib.Tactic.SplitIfs
import SearchDesk.Proofs.Number.Share

/-!
# Rounding to the nearest floating-point number

What `ofRatio` gives depends on the value of the quotient alone, and a quotient that is close
enough to a floating-point number is rounded to that number.

* `OnGrid` says which power of two the steps of the grid have at a value; there is only one
  (`OnGrid.unique`), and `gridExponent` finds it (`onGrid_gridExponent`);
* `ofRatio_congr`: equal quotients are rounded to the same number;
* `Canonical` holds of the mantissas and exponents that numbers are kept in;
* `WellFormed` holds of the numbers in this form, and `wellFormed_ofRatio` says that rounding gives
  no others;
* `ofRatio_of_near`: a quotient nearer to such a number than `2 ^ -54` times the number is rounded
  to it. This is less than half a step on both sides, also below a power of two.
-/

namespace SearchDesk

/-! ## Rounding to integers -/

/-- A quotient less than a half away from a natural number is rounded to it. -/
theorem roundQuotient_eq {n d m : Nat} (below : 2 * n < (2 * m + 1) * d)
    (above : 2 * m * d < 2 * n + d) : roundQuotient n d = m := by
  have positive : 0 < d := by
    rcases Nat.eq_zero_or_pos d with rfl | positive
    · simp at below
    · exact positive
  have parts : d * (n / d) + n % d = n := Nat.div_add_mod n d
  have rest : n % d < d := Nat.mod_lt n positive
  generalize n / d = q at *
  generalize n % d = r at *
  subst parts
  have upper : q ≤ m := by
    by_contra more
    have : (m + 1) * d ≤ q * d := Nat.mul_le_mul_right d (by omega)
    nlinarith
  have lower : m ≤ q + 1 := by
    by_contra more
    have : (q + 2) * d ≤ m * d := Nat.mul_le_mul_right d (by omega)
    nlinarith
  unfold roundQuotient
  have quotient : (d * q + r) / d = q := by
    rw [Nat.mul_add_div positive, Nat.div_eq_of_lt rest, Nat.add_zero]
  have remainder : (d * q + r) % d = r := by
    rw [Nat.mul_add_mod, Nat.mod_eq_of_lt rest]
  rw [quotient, remainder]
  rcases (by omega : m = q ∨ m = q + 1) with rfl | rfl
  · have down : 2 * r < d := by nlinarith
    rw [if_pos down]
  · have up : d < 2 * r := by nlinarith
    rw [if_neg (by omega), if_pos up]

theorem roundQuotient_of_near {n d m : Nat} (positive : 0 < d)
    (near : |(n : ℚ) / d - m| < 1 / 2) : roundQuotient n d = m := by
  have d_pos : (0 : ℚ) < d := by exact_mod_cast positive
  obtain ⟨above, below⟩ := abs_lt.mp near
  have below' : (n : ℚ) < (m + 1 / 2) * d := by
    rw [← div_lt_iff₀ d_pos]
    linarith
  have above' : (m - 1 / 2 : ℚ) * d < n := by
    rw [← lt_div_iff₀ d_pos]
    linarith
  apply roundQuotient_eq
  · have : (2 * n : ℚ) < (2 * m + 1) * d := by linarith
    exact_mod_cast this
  · have : (2 * m * d : ℚ) < 2 * n + d := by linarith
    exact_mod_cast this

/-- A common factor does not change the rounding. -/
theorem roundQuotient_mul_right (n d : Nat) {c : Nat} (positive : 0 < c) :
    roundQuotient (n * c) (d * c) = roundQuotient n d := by
  have quotient : n * c / (d * c) = n / d := Nat.mul_div_mul_right n d positive
  have remainder : n * c % (d * c) = n % d * c := Nat.mul_mod_mul_right c n d
  have down : 2 * (n % d * c) < d * c ↔ 2 * (n % d) < d := by
    rw [← Nat.mul_assoc]
    exact Nat.mul_lt_mul_right positive
  have up : d * c < 2 * (n % d * c) ↔ d < 2 * (n % d) := by
    rw [← Nat.mul_assoc]
    exact Nat.mul_lt_mul_right positive
  simp only [roundQuotient, quotient, remainder, down, up]

theorem roundQuotient_congr {n d n' d' : Nat} (positive : 0 < d) (positive' : 0 < d')
    (same : n * d' = n' * d) : roundQuotient n d = roundQuotient n' d' := by
  rw [← roundQuotient_mul_right n d positive', ← roundQuotient_mul_right n' d' positive, same,
    Nat.mul_comm d d']

namespace Binary64

/-! ## The grid at a value -/

/-- A power with an integer exponent as a quotient of two with natural ones. -/
theorem zpow_eq_div {base : ℚ} (nonzero : base ≠ 0) (e : Int) :
    base ^ e = base ^ e.toNat / base ^ (-e).toNat := by
  rw [← zpow_natCast, ← zpow_natCast, ← zpow_sub₀ nonzero]
  congr 1
  omega

/-- Quotients as rational numbers, in steps of a power of two. -/
theorem rescale_ratio (a b : Nat) (e : Int) :
    ((rescale a b e).1 : ℚ) / (rescale a b e).2 = a / b / 2 ^ e := by
  simp only [rescale, Nat.pow_eq, Nat.cast_mul, Nat.cast_pow, Nat.cast_ofNat,
    zpow_eq_div two_ne_zero e]
  field_simp

theorem rescale_snd_pos {a b : Nat} (positive : 0 < b) (e : Int) : 0 < (rescale a b e).2 :=
  Nat.mul_pos positive (Nat.pow_pos (by decide))

/-- Numbers near a value are kept with an exponent: below `2 ^ 53` steps of that power of two,
and from half as many on unless the exponent is the least one. -/
structure OnGrid (q : ℚ) (e : Int) : Prop where
  least : leastExponent ≤ e
  below : q < 2 ^ 53 * 2 ^ e
  above : e = leastExponent ∨ 2 ^ 52 * 2 ^ e ≤ q

theorem OnGrid.unique {q : ℚ} {e e' : Int} (grid : OnGrid q e) (grid' : OnGrid q e') : e = e' := by
  -- from one exponent to a greater one the numbers of steps do not overlap
  have notLess : ∀ {e e' : Int}, OnGrid q e → OnGrid q e' → ¬e < e' := by
    intro e e' grid grid' less
    rcases grid'.above with same | above
    · have := grid.least
      omega
    · have power : (2 : ℚ) ^ (e + 1) ≤ 2 ^ e' := zpow_le_zpow_right₀ (by norm_num) less
      rw [zpow_add_one₀ two_ne_zero] at power
      have := grid.below
      linarith
  have := notLess grid grid'
  have := notLess grid' grid
  omega

/-- The binary length of a natural number, as bounds on it. -/
theorem two_zpow_log2_le {a : Nat} (positive : a ≠ 0) : (2 : ℚ) ^ (a.log2 : Int) ≤ a := by
  rw [zpow_natCast]
  exact_mod_cast Nat.log2_self_le positive

theorem lt_two_zpow_log2_succ (a : Nat) : (a : ℚ) < 2 ^ (a.log2 + 1 : Int) := by
  have power : (2 : ℚ) ^ (a.log2 + 1 : Int) = 2 ^ (a.log2 + 1) := by
    exact_mod_cast zpow_natCast (2 : ℚ) (a.log2 + 1)
  rw [power]
  exact_mod_cast Nat.lt_log2_self

/-- The difference of the binary lengths is off by at most one bit. -/
theorem ratio_bounds {a b : Nat} (positive : a ≠ 0) (positive' : b ≠ 0) :
    (2 : ℚ) ^ 52 * 2 ^ ((a.log2 : Int) - b.log2 - 53) ≤ a / b ∧
      (a : ℚ) / b < 2 ^ 53 * 2 ^ ((a.log2 : Int) - b.log2 - 53 + 1) := by
  have b_pos : (0 : ℚ) < b := by exact_mod_cast Nat.pos_of_ne_zero positive'
  have low := two_zpow_log2_le positive
  have high := lt_two_zpow_log2_succ a
  have low' := two_zpow_log2_le positive'
  have high' := lt_two_zpow_log2_succ b
  have power : ∀ (k : Nat) (e : Int), (2 : ℚ) ^ k * 2 ^ e = 2 ^ (k + e) := by
    intro k e
    rw [zpow_add₀ two_ne_zero, zpow_natCast]
  constructor
  · rw [power, le_div_iff₀ b_pos]
    calc (2 : ℚ) ^ (((52 : Nat) : Int) + ((a.log2 : Int) - b.log2 - 53)) * b
        ≤ 2 ^ (((52 : Nat) : Int) + ((a.log2 : Int) - b.log2 - 53)) * 2 ^ (b.log2 + 1 : Int) := by
          gcongr
      _ = 2 ^ (a.log2 : Int) := by
          rw [← zpow_add₀ two_ne_zero]
          congr 1
          push_cast
          ring
      _ ≤ a := low
  · rw [power, div_lt_iff₀ b_pos]
    calc (a : ℚ) < 2 ^ (a.log2 + 1 : Int) := high
      _ = 2 ^ (((53 : Nat) : Int) + ((a.log2 : Int) - b.log2 - 53 + 1)) * 2 ^ (b.log2 : Int) := by
          rw [← zpow_add₀ two_ne_zero]
          congr 1
          push_cast
          ring
      _ ≤ 2 ^ (((53 : Nat) : Int) + ((a.log2 : Int) - b.log2 - 53 + 1)) * b := by
          gcongr

/-- The exponent that is found is the one of the grid. -/
theorem onGrid_gridExponent {a b : Nat} (positive : a ≠ 0) (positive' : b ≠ 0) :
    OnGrid (a / b) (gridExponent a b) := by
  obtain ⟨low, high⟩ := ratio_bounds positive positive'
  unfold gridExponent
  generalize (a.log2 : Int) - b.log2 - 53 = e at *
  have d_pos : 0 < (rescale a b e).2 := rescale_snd_pos (Nat.pos_of_ne_zero positive') e
  have fits : (rescale a b e).1 / (rescale a b e).2 < Nat.pow 2 53 ↔ (a : ℚ) / b < 2 ^ 53 * 2 ^ e := by
    have ratio := rescale_ratio a b e
    rw [Nat.div_lt_iff_lt_mul d_pos, ← div_lt_iff₀ (by positivity), ← ratio,
      div_lt_iff₀ (by exact_mod_cast d_pos)]
    exact_mod_cast Iff.rfl
  -- without the least exponent the quotient has 53 bits
  have found : ∃ f : Int, (if (rescale a b e).1 / (rescale a b e).2 < Nat.pow 2 53 then e
      else e + 1) = f ∧ (2 : ℚ) ^ 52 * 2 ^ f ≤ a / b ∧ (a : ℚ) / b < 2 ^ 53 * 2 ^ f := by
    by_cases small : (rescale a b e).1 / (rescale a b e).2 < Nat.pow 2 53
    · exact ⟨e, if_pos small, low, fits.mp small⟩
    · refine ⟨e + 1, if_neg small, ?_, high⟩
      have large : ¬(a : ℚ) / b < 2 ^ 53 * 2 ^ e := fun less => small (fits.mpr less)
      rw [zpow_add_one₀ two_ne_zero]
      linarith
  obtain ⟨f, chosen, low, high⟩ := found
  dsimp only
  rw [chosen]
  rcases le_total leastExponent f with le | le
  · rw [max_eq_right le]
    exact ⟨le, high, .inr low⟩
  · rw [max_eq_left le]
    refine ⟨le_refl _, lt_of_lt_of_le high ?_, .inl rfl⟩
    have power : (2 : ℚ) ^ f ≤ 2 ^ leastExponent := zpow_le_zpow_right₀ (by norm_num) le
    linarith

/-! ## Rounding -/

/-- Equal quotients are rounded to the same number. -/
theorem ofRatio_congr (negative : Bool) {a b a' b' : Nat} (positive : 0 < b) (positive' : 0 < b')
    (same : a * b' = a' * b) : ofRatio negative a b = ofRatio negative a' b' := by
  have zeros : a = 0 ↔ a' = 0 := by
    constructor
    · rintro rfl
      rw [Nat.zero_mul, eq_comm, Nat.mul_eq_zero] at same
      omega
    · rintro rfl
      rw [Nat.zero_mul, Nat.mul_eq_zero] at same
      omega
  by_cases none : a = 0
  · rw [ofRatio, ofRatio, if_pos none, if_pos (zeros.mp none)]
  · have none' : a' ≠ 0 := fun h => none (zeros.mpr h)
    have value : (a : ℚ) / b = a' / b' := by
      rw [div_eq_div_iff (by positivity) (by positivity)]
      exact_mod_cast same
    have grid : gridExponent a b = gridExponent a' b' := by
      have grid' := onGrid_gridExponent none' positive'.ne'
      rw [← value] at grid'
      exact (onGrid_gridExponent none positive.ne').unique grid'
    have rounded : roundQuotient (rescale a b (gridExponent a' b')).1
          (rescale a b (gridExponent a' b')).2 =
        roundQuotient (rescale a' b' (gridExponent a' b')).1
          (rescale a' b' (gridExponent a' b')).2 := by
      apply roundQuotient_congr (rescale_snd_pos positive _) (rescale_snd_pos positive' _)
      simp only [rescale]
      rw [Nat.mul_mul_mul_comm, same, Nat.mul_mul_mul_comm]
    rw [ofRatio, ofRatio, if_neg none, if_neg none', grid]
    simp only [rounded]

/-- The mantissas and exponents in which finite numbers other than zero are kept. -/
structure Canonical (m : Nat) (e : Int) : Prop where
  positive : 0 < m
  least : leastExponent ≤ e
  greatest : e ≤ greatestExponent
  below : m < 2 ^ 53
  above : e = leastExponent ∨ 2 ^ 52 ≤ m

/-- A quotient that is rounded on its grid. -/
theorem ofRatio_of_onGrid (negative : Bool) {a b : Nat} (positive : a ≠ 0) (positive' : b ≠ 0)
    {m : Nat} {e : Int} (grid : OnGrid (a / b) e) (near : |(a : ℚ) / b / 2 ^ e - m| < 1 / 2) :
    ofRatio negative a b =
      let (m, e) := if m = Nat.pow 2 53 then (Nat.pow 2 52, e + 1) else if m = 0 then (0, 0)
        else (m, e)
      if greatestExponent < e then .infinite negative else .finite negative m e := by
  have found : gridExponent a b = e := (onGrid_gridExponent positive positive').unique grid
  have rounded : roundQuotient (rescale a b e).1 (rescale a b e).2 = m := by
    apply roundQuotient_of_near (rescale_snd_pos (Nat.pos_of_ne_zero positive') e)
    rw [rescale_ratio]
    exact near
  rw [ofRatio, if_neg positive, found]
  simp only [rounded]

section Near

variable (negative : Bool) {m : Nat} {e : Int} {a b : Nat}

/-- Just below a power of two the steps are half as wide, and the quotient is rounded up to it. -/
theorem ofRatio_of_near_of_lt (canonical : Canonical (2 ^ 52) e) (least : leastExponent < e)
    (nonzero : a ≠ 0) (positive : 0 < b)
    (near : |(a : ℚ) / b - (2 ^ 52 : Nat) * 2 ^ e| < (2 ^ 52 : Nat) * 2 ^ e / 2 ^ 54)
    (under : (a : ℚ) / b < (2 ^ 52 : Nat) * 2 ^ e) :
    ofRatio negative a b = .finite negative (2 ^ 52) e := by
  obtain ⟨above, -⟩ := abs_lt.mp near
  have half : (2 : ℚ) ^ e = 2 * 2 ^ (e - 1) := by
    rw [← zpow_one_add₀ two_ne_zero]
    congr 1
    ring
  have room : ¬greatestExponent < e - 1 + 1 := by
    have := canonical.greatest
    omega
  rw [half] at under above
  push_cast at under above
  generalize half' : (2 : ℚ) ^ (e - 1) = h at *
  have h_pos : 0 < h := by rw [← half']; positivity
  have grid : OnGrid (a / b) (e - 1) := by
    refine ⟨by omega, ?_, .inr ?_⟩ <;> rw [half']
    · linarith
    · linarith
  have near' : |(a : ℚ) / b / 2 ^ (e - 1) - (2 ^ 53 : Nat)| < 1 / 2 := by
    rw [half', abs_lt, lt_sub_iff_add_lt, sub_lt_iff_lt_add, lt_div_iff₀ h_pos, div_lt_iff₀ h_pos]
    push_cast
    constructor <;> linarith
  -- the quotient fills its binade, so the significand is carried into the next one
  rw [ofRatio_of_onGrid negative nonzero positive.ne' grid near']
  simp only [Nat.pow_eq, if_true, if_neg room]
  congr 1
  omega

/-- Otherwise the quotient is on the grid of the number that is kept. -/
theorem onGrid_of_near (canonical : Canonical m e)
    (near : |(a : ℚ) / b - m * 2 ^ e| < m * 2 ^ e / 2 ^ 54)
    (border : ¬(m = 2 ^ 52 ∧ leastExponent < e ∧ (a : ℚ) / b < m * 2 ^ e)) :
    OnGrid (a / b) e := by
  have step : (0 : ℚ) < 2 ^ e := by positivity
  have m_pos : (1 : ℚ) ≤ m := by exact_mod_cast canonical.positive
  have m_below : (m : ℚ) + 1 ≤ 2 ^ 53 := by exact_mod_cast canonical.below
  obtain ⟨above, below⟩ := abs_lt.mp near
  refine ⟨canonical.least, ?_, ?_⟩
  · nlinarith
  · rcases canonical.above with same | full
    · exact .inl same
    · rcases Nat.lt_or_eq_of_le full with more | rfl
      · have : (2 : ℚ) ^ 52 + 1 ≤ m := by exact_mod_cast more
        exact .inr (by nlinarith)
      · rcases Int.lt_or_eq_of_le canonical.least with less | same
        · have notUnder : ¬(a : ℚ) / b < (2 ^ 52 : Nat) * 2 ^ e :=
            fun under => border ⟨rfl, less, under⟩
          push_cast at notUnder
          exact .inr (not_lt.mp notUnder)
        · exact .inl same.symm

/-- A quotient close to a number that is kept is rounded to it. -/
theorem ofRatio_of_near (canonical : Canonical m e) (positive : 0 < b)
    (near : |(a : ℚ) / b - m * 2 ^ e| < m * 2 ^ e / 2 ^ 54) :
    ofRatio negative a b = .finite negative m e := by
  have step : (0 : ℚ) < 2 ^ e := by positivity
  have m_pos : (1 : ℚ) ≤ m := by exact_mod_cast canonical.positive
  have m_below : (m : ℚ) + 1 ≤ 2 ^ 53 := by exact_mod_cast canonical.below
  obtain ⟨above, below⟩ := abs_lt.mp near
  have nonzero : a ≠ 0 := by
    rintro rfl
    rw [Nat.cast_zero, zero_div] at above
    nlinarith
  by_cases border : m = 2 ^ 52 ∧ leastExponent < e ∧ (a : ℚ) / b < m * 2 ^ e
  · obtain ⟨rfl, least, under⟩ := border
    exact ofRatio_of_near_of_lt negative canonical least nonzero positive near under
  · have grid := onGrid_of_near canonical near border
    have near' : |(a : ℚ) / b / 2 ^ e - m| < 1 / 2 := by
      rw [abs_lt, lt_sub_iff_add_lt, sub_lt_iff_lt_add, lt_div_iff₀ step, div_lt_iff₀ step]
      constructor <;> nlinarith
    have notFull : m ≠ Nat.pow 2 53 := canonical.below.ne
    have notNone : m ≠ 0 := canonical.positive.ne'
    have room : ¬greatestExponent < e := Int.not_lt.mpr canonical.greatest
    rw [ofRatio_of_onGrid negative nonzero positive.ne' grid near']
    simp only [if_neg notFull, if_neg notNone, if_neg room]

end Near

/-! ## The form of numbers -/

/-- A number is kept in its only form; zero has exponent zero. -/
def WellFormed : Binary64 → Prop
  | .finite _ m e => m = 0 ∧ e = 0 ∨ Canonical m e
  | _ => True

/-- Rounding to an integer stays between the integers around a quotient. -/
theorem div_le_roundQuotient (n d : Nat) : n / d ≤ roundQuotient n d := by
  unfold roundQuotient
  split_ifs <;> omega

theorem wellFormed_ofRatio (negative : Bool) {a b : Nat} (positive : 0 < b) :
    (ofRatio negative a b).WellFormed := by
  by_cases none : a = 0
  · rw [ofRatio, if_pos none]
    exact .inl ⟨rfl, rfl⟩
  · have grid := onGrid_gridExponent none positive.ne'
    have ratio := rescale_ratio a b (gridExponent a b)
    have d_pos := rescale_snd_pos (a := a) positive (gridExponent a b)
    unfold ofRatio
    rw [if_neg none]
    simp only
    generalize gridExponent a b = e at *
    generalize rescale a b e = parts at *
    obtain ⟨n, d⟩ := parts
    dsimp only at *
    have d_pos' : (0 : ℚ) < d := by exact_mod_cast d_pos
    have step : (0 : ℚ) < 2 ^ e := by positivity
    have atMost : roundQuotient n d ≤ 2 ^ 53 := by
      apply roundQuotient_le d_pos
      have below := grid.below
      rw [← div_lt_iff₀ step, ← ratio, div_lt_iff₀ d_pos'] at below
      exact_mod_cast below.le
    have atLeast : e = leastExponent ∨ 2 ^ 52 ≤ roundQuotient n d := by
      refine grid.above.imp_right fun above => ?_
      rw [← le_div_iff₀ step, ← ratio, le_div_iff₀ d_pos'] at above
      have above' : 2 ^ 52 * d ≤ n := by exact_mod_cast above
      exact ((Nat.le_div_iff_mul_le d_pos).mpr above').trans (div_le_roundQuotient n d)
    generalize roundQuotient n d = m at *
    have least := grid.least
    -- a significand that is full becomes the least one, a step higher
    by_cases carry : m = Nat.pow 2 53
    · rw [if_pos carry]
      split_ifs with large
      · trivial
      · dsimp only at large
        exact .inr ⟨(by decide : 0 < Nat.pow 2 52), by omega, by omega,
          (by decide : Nat.pow 2 52 < 2 ^ 53), .inr (le_refl _)⟩
    · rw [if_neg carry]
      have below : m < 2 ^ 53 := lt_of_le_of_ne atMost carry
      by_cases vanished : m = 0
      · rw [if_pos vanished]
        exact .inl ⟨rfl, rfl⟩
      · rw [if_neg vanished]
        split_ifs with large
        · trivial
        · exact .inr ⟨Nat.pos_of_ne_zero vanished, least, by omega, below, atLeast⟩

end Binary64

end SearchDesk
