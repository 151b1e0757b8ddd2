import SearchDesk.Number.Shortest
import SearchDesk.Proofs.Number.Rounding

/-!
# Decimals that read back

The decimal that is written for a floating-point number is read as that number.

* `ofDecimal_shift`: moving zeros between the digits and the exponent of a decimal does not change
  what is read;
* `ofDecimal_of_near`: a decimal close to a number is read as that number;
* `neighbours_near`: seventeen digits are enough to come that close, since `10 ^ 16` exceeds
  `2 ^ 53`;
* `ofDecimal_shortest`: so the search for the shortest decimal succeeds.
-/

namespace SearchDesk

namespace Decimal

/-! ## Decimal digits -/

theorem pow_digitCount_le {n : Nat} (positive : n ≠ 0) : 10 ^ (digitCount n - 1) ≤ n := by
  by_contra less
  have less' : n < 10 ^ (digitCount n - 1) := by omega
  rcases Nat.eq_zero_or_pos (digitCount n - 1) with none | some
  · rw [none] at less'
    omega
  · have := (Nat.length_toDigits_le_iff (by decide) some).mpr less'
    unfold digitCount at this some
    omega

theorem lt_pow_digitCount (n : Nat) : n < 10 ^ digitCount n :=
  (Nat.length_toDigits_le_iff (by decide) Nat.length_toDigits_pos).mp (le_refl _)

theorem digitCount_pos (n : Nat) : 0 < digitCount n := Nat.length_toDigits_pos

/-- A number has as many digits as the powers of ten around it say. -/
theorem digitCount_eq {n k : Nat} (low : 10 ^ k ≤ n) (high : n < 10 ^ (k + 1)) :
    digitCount n = k + 1 := by
  have atMost : digitCount n ≤ k + 1 :=
    (Nat.length_toDigits_le_iff (by decide) (by omega)).mpr high
  have atLeast : ¬digitCount n ≤ k := by
    intro few
    rcases Nat.eq_zero_or_pos k with rfl | positive
    · have := digitCount_pos n
      omega
    · have := (Nat.length_toDigits_le_iff (by decide) positive).mp few
      omega
  omega

theorem digitCount_mul_pow {n : Nat} (positive : n ≠ 0) (k : Nat) :
    digitCount (n * 10 ^ k) = digitCount n + k := by
  have some := digitCount_pos n
  have low := pow_digitCount_le positive
  have high := lt_pow_digitCount n
  have count : digitCount (n * 10 ^ k) = digitCount n - 1 + k + 1 := by
    apply digitCount_eq
    · rw [Nat.pow_add]
      exact Nat.mul_le_mul_right _ low
    · have split : digitCount n - 1 + k + 1 = digitCount n + k := by omega
      rw [split, Nat.pow_add]
      exact Nat.mul_lt_mul_of_pos_right high (by positivity)
  omega

end Decimal

namespace Binary64

open Decimal

/-! ## Reading decimals -/

/-- Moving zeros from the exponent to the digits does not change what is read. -/
theorem ofDecimal_shift (negative : Bool) (digits k : Nat) (exponent : Int) :
    ofDecimal negative (digits * 10 ^ k) (exponent - k) = ofDecimal negative digits exponent := by
  by_cases none : digits = 0
  · subst none
    simp [ofDecimal]
  · have none' : digits * 10 ^ k ≠ 0 := by positivity
    have size : ((Nat.toDigits 10 (digits * 10 ^ k)).length : Int) + (exponent - k) =
        (Nat.toDigits 10 digits).length + exponent := by
      have := digitCount_mul_pow none k
      unfold digitCount at this
      omega
    have value : ofRatio negative (digits * 10 ^ k * Nat.pow 10 (exponent - k).toNat)
          (Nat.pow 10 (-(exponent - k)).toNat) =
        ofRatio negative (digits * Nat.pow 10 exponent.toNat) (Nat.pow 10 (-exponent).toNat) := by
      apply ofRatio_congr negative (Nat.pow_pos (by decide)) (Nat.pow_pos (by decide))
      simp only [Nat.pow_eq, Nat.mul_assoc, ← Nat.pow_add]
      congr 2
      omega
    unfold ofDecimal
    simp only [size, none, none', false_or, value]

/-- The sign is not looked at in rounding. -/
theorem ofRatio_not (negative : Bool) (a b : Nat) :
    ofRatio (!negative) a b = (ofRatio negative a b).neg := by
  unfold ofRatio
  dsimp only
  split_ifs <;> rfl

theorem ofDecimal_not (negative : Bool) (digits : Nat) (exponent : Int) :
    ofDecimal (!negative) digits exponent = (ofDecimal negative digits exponent).neg := by
  unfold ofDecimal
  dsimp only
  split_ifs
  · rfl
  · rfl
  · exact ofRatio_not ..

theorem wellFormed_ofDecimal (negative : Bool) (digits : Nat) (exponent : Int) :
    (ofDecimal negative digits exponent).WellFormed := by
  unfold ofDecimal
  dsimp only
  split_ifs
  · exact .inl ⟨rfl, rfl⟩
  · trivial
  · exact wellFormed_ofRatio negative (Nat.pow_pos (by decide))

/-- A decimal as a quotient. -/
theorem decimal_ratio (digits : Nat) (exponent : Int) :
    ((digits * Nat.pow 10 exponent.toNat : Nat) : ℚ) / (Nat.pow 10 (-exponent).toNat : Nat) =
      digits * 10 ^ exponent := by
  simp only [Nat.pow_eq, Nat.cast_mul, Nat.cast_pow, Nat.cast_ofNat,
    zpow_eq_div (by norm_num : (10 : ℚ) ≠ 0) exponent]
  ring

/-- The numbers are not out of the range of decimals that are looked at. -/
theorem Canonical.range {m : Nat} {e : Int} (canonical : Canonical m e) :
    (10 : ℚ) ^ (-400 : Int) < m * 2 ^ e / 2 ∧ (m : ℚ) * 2 ^ e * 2 < 10 ^ (400 : Int) := by
  have m_pos : (1 : ℚ) ≤ m := by exact_mod_cast canonical.positive
  have m_below : (m : ℚ) < 2 ^ 53 := by exact_mod_cast canonical.below
  have step : (0 : ℚ) < 2 ^ e := by positivity
  have low : (2 : ℚ) ^ (-1074 : Int) ≤ 2 ^ e := zpow_le_zpow_right₀ (by norm_num) canonical.least
  have high : (2 : ℚ) ^ e ≤ 2 ^ (971 : Int) :=
    zpow_le_zpow_right₀ (by norm_num) canonical.greatest
  have bound : (2 : ℚ) ^ (1200 : Int) ≤ 10 ^ (400 : Int) := by
    rw [show (1200 : Int) = 3 * 400 from rfl, zpow_mul]
    exact zpow_le_zpow_left₀ (by norm_num) (by norm_num) (by norm_num)
  have bound' : (10 : ℚ) ^ (-400 : Int) ≤ 2 ^ (-1200 : Int) := by
    rw [zpow_neg, zpow_neg]
    exact inv_anti₀ (by positivity) bound
  constructor
  · have less : (2 : ℚ) ^ (-1200 : Int) < 2 ^ (-1075 : Int) :=
      zpow_lt_zpow_right₀ (by norm_num) (by norm_num)
    have half : (2 : ℚ) ^ (-1074 : Int) = 2 ^ (-1075 : Int) * 2 := by
      rw [← zpow_add_one₀ two_ne_zero]
      rfl
    nlinarith
  · have less : (2 : ℚ) ^ (1025 : Int) < 2 ^ (1200 : Int) :=
      zpow_lt_zpow_right₀ (by norm_num) (by norm_num)
    have top : (2 : ℚ) ^ (1025 : Int) = 2 ^ 53 * 2 ^ (971 : Int) * 2 := by
      rw [mul_comm ((2 : ℚ) ^ 53), mul_assoc, ← pow_succ, ← zpow_natCast, ← zpow_add₀ two_ne_zero]
      rfl
    have atMost : (m : ℚ) * 2 ^ e ≤ 2 ^ 53 * 2 ^ (971 : Int) :=
      mul_le_mul m_below.le high step.le (by positivity)
    calc (m : ℚ) * 2 ^ e * 2 ≤ 2 ^ 53 * 2 ^ (971 : Int) * 2 := by gcongr
      _ = 2 ^ (1025 : Int) := top.symm
      _ < 2 ^ (1200 : Int) := less
      _ ≤ 10 ^ (400 : Int) := bound

/-- The number of digits and the exponent add up to the size of a decimal, which bounds them where
the decimal is within the range that is looked at. -/
theorem digitCount_add_bounds {digits : Nat} {exponent : Int} (some : digits ≠ 0)
    (low : (10 : ℚ) ^ (-400 : Int) ≤ digits * 10 ^ exponent)
    (high : (digits : ℚ) * 10 ^ exponent < 10 ^ (400 : Int)) :
    -400 ≤ (digitCount digits : Int) + exponent ∧ (digitCount digits : Int) + exponent ≤ 400 := by
  have less : (digits : ℚ) < 10 ^ digitCount digits := by exact_mod_cast lt_pow_digitCount digits
  have atLeast : (10 : ℚ) ^ (digitCount digits - 1) ≤ digits := by
    exact_mod_cast pow_digitCount_le some
  have count := digitCount_pos digits
  have scale : ∀ k : Nat, (10 : ℚ) ^ k * 10 ^ exponent = 10 ^ (k + exponent) := by
    intro k
    rw [zpow_add₀ (by norm_num), zpow_natCast]
  have step : (0 : ℚ) < 10 ^ exponent := by positivity
  constructor
  · have power : (10 : ℚ) ^ (-400 : Int) < 10 ^ ((digitCount digits : Int) + exponent) := by
      rw [← scale]
      exact low.trans_lt (mul_lt_mul_of_pos_right less step)
    exact ((zpow_lt_zpow_iff_right₀ (by norm_num)).mp power).le
  · have power : (10 : ℚ) ^ (((digitCount digits - 1 : Nat) : Int) + exponent) < 10 ^ (400 : Int) := by
      rw [← scale]
      exact (mul_le_mul_of_nonneg_right atLeast step.le).trans_lt high
    have := (zpow_lt_zpow_iff_right₀ (by norm_num)).mp power
    omega

/-- A decimal close to a number that is kept is read as it. -/
theorem ofDecimal_of_near (negative : Bool) {m : Nat} {e : Int} (canonical : Canonical m e)
    {digits : Nat} {exponent : Int}
    (near : |(digits : ℚ) * 10 ^ exponent - m * 2 ^ e| < m * 2 ^ e / 2 ^ 54) :
    ofDecimal negative digits exponent = .finite negative m e := by
  obtain ⟨low, high⟩ := canonical.range
  obtain ⟨above, below⟩ := abs_lt.mp near
  have value_pos : (0 : ℚ) < m * 2 ^ e := by
    have : (0 : ℚ) < m := by exact_mod_cast canonical.positive
    positivity
  have some : digits ≠ 0 := by
    rintro rfl
    rw [Nat.cast_zero, zero_mul] at above
    linarith
  have low' : (10 : ℚ) ^ (-400 : Int) ≤ digits * 10 ^ exponent :=
    low.le.trans (by linarith only [above, value_pos])
  have high' : (digits : ℚ) * 10 ^ exponent < 10 ^ (400 : Int) :=
    lt_trans (by linarith only [below, value_pos]) high
  obtain ⟨least, greatest⟩ := digitCount_add_bounds some low' high'
  have ratio := decimal_ratio digits exponent
  have rounded := ofRatio_of_near negative canonical (a := digits * Nat.pow 10 exponent.toNat)
    (b := Nat.pow 10 (-exponent).toNat) (Nat.pow_pos (by decide)) (by rw [ratio]; exact near)
  have notSmall := Int.not_lt.mpr least
  have notLarge := Int.not_lt.mpr greatest
  unfold digitCount at notSmall notLarge
  unfold ofDecimal
  simp only [some, notSmall, notLarge, or_self, if_false, rounded]

/-! ## The search -/

/-- The first digit of a quotient stands where its scale says. -/
theorem pow_scale_le {a b : Nat} (positive : a ≠ 0) (positive' : b ≠ 0) :
    (10 : ℚ) ^ (scale a b - 1) ≤ a / b := by
  have a_pos : (0 : ℚ) < a := by exact_mod_cast Nat.pos_of_ne_zero positive
  have b_pos : (0 : ℚ) < b := by exact_mod_cast Nat.pos_of_ne_zero positive'
  unfold scale
  split_ifs with large
  · have quotient : a / b ≠ 0 := (Nat.div_pos large (Nat.pos_of_ne_zero positive')).ne'
    have low := pow_digitCount_le quotient
    have count := digitCount_pos (a / b)
    have digits : ((digitCount (a / b) : Int) - 1) = ((digitCount (a / b) - 1 : Nat) : Int) := by
      omega
    rw [digits, zpow_natCast, le_div_iff₀ b_pos]
    exact_mod_cast (Nat.le_div_iff_mul_le (Nat.pos_of_ne_zero positive')).mp low
  · -- the quotient is the inverse of one that is not below one
    have high := lt_pow_digitCount ((b - 1) / a)
    rw [Nat.div_lt_iff_lt_mul (Nat.pos_of_ne_zero positive)] at high
    have high' : b ≤ 10 ^ digitCount ((b - 1) / a) * a := by omega
    have digits : (1 - (digitCount ((b - 1) / a) : Int) - 1) = -(digitCount ((b - 1) / a) : Int) := by
      omega
    rw [digits, zpow_neg, zpow_natCast, inv_le_comm₀ (by positivity) (by positivity), inv_div,
      div_le_iff₀ a_pos]
    exact_mod_cast high'

theorem abs_roundQuotient_sub_le {n d : Nat} (positive : 0 < d) :
    |(roundQuotient n d : ℚ) - n / d| ≤ 1 / 2 := by
  have d_pos : (0 : ℚ) < d := by exact_mod_cast positive
  -- the distance is that of the remainder to zero or to the divisor
  have distance : ∀ m : Nat, 2 * n ≤ (2 * m + 1) * d → 2 * m * d ≤ 2 * n + d →
      |(m : ℚ) - n / d| ≤ 1 / 2 := by
    intro m below above
    have below' : (2 * n : ℚ) ≤ (2 * m + 1) * d := by exact_mod_cast below
    have above' : (2 * m * d : ℚ) ≤ 2 * n + d := by exact_mod_cast above
    rw [abs_le]
    constructor
    · have : (n : ℚ) / d ≤ m + 1 / 2 := by
        rw [div_le_iff₀ d_pos]
        linarith
      linarith
    · have : (m : ℚ) - 1 / 2 ≤ n / d := by
        rw [le_div_iff₀ d_pos]
        linarith
      linarith
  have parts : d * (n / d) + n % d = n := Nat.div_add_mod n d
  have rest : n % d < d := Nat.mod_lt n positive
  unfold roundQuotient
  generalize n / d = q at *
  generalize n % d = r at *
  split_ifs <;> apply distance <;> nlinarith

/-- With seventeen digits the rounded decimal comes close to the quotient. -/
theorem round_near {a b : Nat} (positive : a ≠ 0) (positive' : b ≠ 0) :
    let g : Int := scale a b - (17 : Nat)
    |(roundQuotient (a * Nat.pow 10 (-g).toNat) (b * Nat.pow 10 g.toNat) : ℚ) * 10 ^ g - a / b| <
      a / b / 2 ^ 54 := by
  intro g
  have b_pos : 0 < b := Nat.pos_of_ne_zero positive'
  have step : (0 : ℚ) < 10 ^ g := by positivity
  have d_pos : 0 < b * Nat.pow 10 g.toNat := Nat.mul_pos b_pos (Nat.pow_pos (by decide))
  have value : ((a * Nat.pow 10 (-g).toNat : Nat) : ℚ) / (b * Nat.pow 10 g.toNat : Nat) * 10 ^ g =
      a / b := by
    simp only [Nat.pow_eq, Nat.cast_mul, Nat.cast_pow, Nat.cast_ofNat,
      zpow_eq_div (by norm_num : (10 : ℚ) ≠ 0) g]
    field_simp
  have rounded := abs_roundQuotient_sub_le (n := a * Nat.pow 10 (-g).toNat) d_pos
  have low : (10 : ℚ) ^ 16 * 10 ^ g ≤ a / b := by
    have power : (10 : ℚ) ^ (scale a b - 1) = 10 ^ 16 * 10 ^ g := by
      rw [← zpow_natCast, ← zpow_add₀ (by norm_num)]
      congr 1
      simp only [g]
      omega
    rw [← power]
    exact pow_scale_le positive positive'
  calc |(roundQuotient (a * Nat.pow 10 (-g).toNat) (b * Nat.pow 10 g.toNat) : ℚ) * 10 ^ g - a / b|
      = |(roundQuotient (a * Nat.pow 10 (-g).toNat) (b * Nat.pow 10 g.toNat) : ℚ) -
          (a * Nat.pow 10 (-g).toNat : Nat) / (b * Nat.pow 10 g.toNat : Nat)| * 10 ^ g := by
        rw [← abs_of_pos step, ← abs_mul, abs_of_pos step, sub_mul, value]
    _ ≤ 1 / 2 * 10 ^ g := by gcongr
    _ < a / b / 2 ^ 54 := by
        rw [lt_div_iff₀ (by positivity)]
        linarith

/-- The nearer one of two neighbours is the rounded one. -/
theorem round_mem_neighbours (a b n : Nat) :
    let g : Int := scale a b - n
    ⟨roundQuotient (a * Nat.pow 10 (-g).toNat) (b * Nat.pow 10 g.toNat), g⟩ ∈ neighbours a b n := by
  intro g
  have next : ∀ n d : Nat, roundQuotient n d = n / d ∨ roundQuotient n d = n / d + 1 := by
    intro n d
    unfold roundQuotient
    split_ifs <;> simp
  unfold neighbours
  dsimp only
  split_ifs with same
  · rw [← same]
    exact List.mem_cons_self
  · rw [← (next _ _).resolve_left same]
    exact List.mem_cons_self

/-! ## The shortest decimal -/

theorem ofDecimal_strip (negative : Bool) (n : Nat) (x : Decimal) :
    ofDecimal negative (x.strip n).digits (x.strip n).exponent =
      ofDecimal negative x.digits x.exponent := by
  induction n generalizing x with
  | zero => rfl
  | succ n ih =>
    unfold strip
    split_ifs with zero
    · have shifted := ofDecimal_shift negative (x.digits / 10) 1 (x.exponent + 1)
      rw [Nat.pow_one, Nat.div_mul_cancel (Nat.dvd_of_mod_eq_zero zero.2)] at shifted
      rw [ih, ← shifted]
      congr 1
      omega
    · rfl

/-- The decimal that the search ends with reads back. -/
theorem ofDecimal_shortest (negative : Bool) {m : Nat} {e : Int} (canonical : Canonical m e) :
    ofDecimal negative (shortest m e).digits (shortest m e).exponent = .finite negative m e := by
  suffices unsigned : ofDecimal false (shortest m e).digits (shortest m e).exponent =
      .finite false m e by
    cases negative with
    | false => exact unsigned
    | true => rw [← Bool.not_false, ofDecimal_not, unsigned, neg]
  unfold shortest
  dsimp only
  have ratio := rescale_ratio m 1 (-e)
  have d_pos := rescale_snd_pos (a := m) Nat.one_pos (-e)
  have n_pos : (rescale m 1 (-e)).1 ≠ 0 :=
    (Nat.mul_pos canonical.positive (Nat.pow_pos (by decide))).ne'
  have value : (m : ℚ) / (1 : Nat) / 2 ^ (-e) = m * 2 ^ e := by
    rw [Nat.cast_one, div_one, zpow_neg, div_inv_eq_mul]
  rw [value] at ratio
  generalize rescale m 1 (-e) = parts at *
  obtain ⟨a, b⟩ := parts
  dsimp only at *
  rw [ofDecimal_strip]
  have near := round_near n_pos d_pos.ne'
  rw [ratio] at near
  have reads := ofDecimal_of_near false canonical near
  have mem := round_mem_neighbours a b 17
  dsimp only at mem
  generalize search : (List.range 17).findSome? _ = found
  cases found with
  | none =>
    -- the decimal with seventeen digits would have been found
    have missing := List.findSome?_eq_none_iff.mp search 16 (by decide)
    rw [List.find?_eq_none] at missing
    exact absurd (by simpa using reads) (missing _ mem)
  | some x =>
    obtain ⟨i, -, found⟩ := List.exists_of_findSome?_eq_some search
    simpa using List.find?_some found

theorem shortest_digits_ne_zero {m : Nat} {e : Int} (canonical : Canonical m e) :
    (shortest m e).digits ≠ 0 := by
  intro none
  have reads := ofDecimal_shortest false canonical
  rw [none, ofDecimal, if_pos (.inl rfl)] at reads
  have positive := canonical.positive
  obtain ⟨-, zero, -⟩ := Binary64.finite.inj reads
  omega

end Binary64

end SearchDesk
