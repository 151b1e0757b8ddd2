import Mathlib.Tactic.SplitIfs
import SearchDesk.Json.Printer
import SearchDesk.Json.Reader
import SearchDesk.Proofs.Number.ReadBack

/-!
# Numbers in JSON text

What is written for a number is read as that number, whatever follows it.

* `EndsNumber` holds of what may follow: characters that do not go on with the number;
* `number_append` reads a number in three parts: digits, a fraction and an exponent;
* `Unsigned` says that a text without a sign stands for a number of either sign, and
  `scalar_of_unsigned` puts the sign before it;
* `scalar_integerText` and `scalar_render` are the results for integers and floating-point numbers.
-/

namespace SearchDesk.Json.Reader

/-! ## Rows of digits -/

/-- A row of decimal digits. -/
def Digits (ds : List Char) : Prop := ∀ c ∈ ds, c.isDigit = true

theorem Digits.append {ds es : List Char} (row : Digits ds) (row' : Digits es) :
    Digits (ds ++ es) := by
  intro c mem
  rcases List.mem_append.mp mem with mem | mem
  · exact row c mem
  · exact row' c mem

theorem digits_zeros (n : Nat) : Digits (List.replicate n '0') := by
  intro c mem
  rw [List.eq_of_mem_replicate mem]
  decide

theorem digits_decimalDigits (n : Nat) : Digits (decimalDigits n) :=
  fun _ mem => Nat.isDigit_of_mem_toDigits (by decide) (by decide) mem

theorem digits_append {ds rest : List Char} (row : Digits ds)
    (stop : ∀ c ∈ rest.head?, c.isDigit = false) : digits (ds ++ rest) = (ds, rest) := by
  unfold digits
  rw [List.takeWhile_append_of_pos row, List.dropWhile_append_of_pos row]
  cases rest with
  | nil => simp
  | cons c tail =>
    have c_stop : c.isDigit = false := stop c rfl
    simp [c_stop]

theorem digitsValue_eq (ds : List Char) : digitsValue ds = Nat.ofDigitChars 10 ds 0 := by
  rw [digitsValue, ofDecimalDigits, ofDigits, List.foldl_map]
  rfl

theorem digitsValue_decimalDigits (n : Nat) : digitsValue (decimalDigits n) = n := by
  rw [digitsValue_eq]
  exact Nat.ofDigitChars_toDigits (by decide) (by decide)

theorem digitsValue_zeros_append (n : Nat) (ds : List Char) :
    digitsValue (List.replicate n '0' ++ ds) = digitsValue ds := by
  rw [digitsValue_eq, digitsValue_eq, Nat.ofDigitChars_append, Nat.ofDigitChars_replicate_zero,
    Nat.mul_zero]

theorem digitsValue_append_zeros (ds : List Char) (n : Nat) :
    digitsValue (ds ++ List.replicate n '0') = digitsValue ds * 10 ^ n := by
  rw [digitsValue_eq, digitsValue_eq, Nat.ofDigitChars_append, Nat.ofDigitChars_replicate_zero,
    Nat.mul_comm]

theorem decimalDigits_ne_nil (n : Nat) : decimalDigits n ≠ [] := Nat.toDigits_ne_nil

/-- The digits of a number other than zero do not start with a zero. -/
theorem head?_decimalDigits {n : Nat} (positive : n ≠ 0) : (decimalDigits n).head? ≠ some '0' := by
  induction n using Nat.strongRecOn with
  | ind n ih =>
    unfold decimalDigits at *
    by_cases small : n < 10
    · have digit : ∀ d < 10, d ≠ 0 → [d.digitChar].head? ≠ some '0' := by decide
      rw [Nat.toDigits_of_lt_base small]
      exact digit n small positive
    · rw [Nat.toDigits_of_base_le (by decide) (by omega),
        List.head?_append_of_ne_nil _ Nat.toDigits_ne_nil]
      exact ih (n / 10) (by omega) (by omega)

/-! ## The three parts -/

/-- Nothing that goes on with a number. -/
def EndsNumber (rest : List Char) : Prop :=
  ∀ c ∈ rest.head?, c.isDigit = false ∧ c ≠ '.' ∧ c ≠ 'e' ∧ c ≠ 'E'

theorem fraction_of_not_point {s : List Char} (stop : ∀ c ∈ s.head?, c ≠ '.') :
    fraction s = ([], s) := by
  unfold fraction
  split
  · exact absurd rfl (stop '.' rfl)
  · rfl

theorem fraction_append {ds rest : List Char} (row : Digits ds) (some : ds ≠ [])
    (stop : ∀ c ∈ rest.head?, c.isDigit = false) :
    fraction ('.' :: (ds ++ rest)) = (ds, rest) := by
  cases ds with
  | nil => exact absurd rfl some
  | cons d tail => simp only [fraction, digits_append row stop]

theorem exponent_of_not_mark {s : List Char} (stop : ∀ c ∈ s.head?, c ≠ 'e' ∧ c ≠ 'E') :
    exponent s = (none, s) := by
  cases s with
  | nil => rfl
  | cons c tail =>
    obtain ⟨notLower, notUpper⟩ := stop c rfl
    unfold exponent
    dsimp only
    rw [if_neg (by simp [notLower, notUpper])]

theorem exponent_append (negative : Bool) {ds rest : List Char} (row : Digits ds) (some : ds ≠ [])
    (stop : ∀ c ∈ rest.head?, c.isDigit = false) :
    exponent ('e' :: (if negative then '-' else '+') :: (ds ++ rest)) =
      (.some (if negative then -(digitsValue ds : Int) else digitsValue ds), rest) := by
  have parts := digits_append row stop
  generalize ds ++ rest = s at *
  cases ds with
  | nil => exact absurd rfl some
  | cons => cases negative <;> simp [exponent, parts]

/-- The digits before the point: a zero alone, or no zero at the start. -/
structure Whole (ds : List Char) : Prop where
  row : Digits ds
  some : ds ≠ []
  lone : ds.head? = .some '0' → ds = ['0']

theorem whole_decimalDigits (n : Nat) : Whole (decimalDigits n) where
  row := digits_decimalDigits n
  some := decimalDigits_ne_nil n
  lone zero := by
    by_cases none : n = 0
    · subst none
      rfl
    · exact absurd zero (head?_decimalDigits none)

/-- A number is read in three parts, and is an integer if only the first one is there. -/
theorem number_append (start : List Char) (negative : Bool) {ds fs s s' rest : List Char}
    {e : Option Int} (whole : Whole ds) (stop : ∀ c ∈ s.head?, c.isDigit = false)
    (fractional : fraction s = (fs, s')) (scaled : exponent s' = (e, rest)) :
    number start negative (ds ++ s) =
      if fs.isEmpty && e.isNone then
        if digitLimit < ds.length then .error (.tooManyDigits ds.length)
        else .ok (.int (if negative then -(digitsValue ds : Int) else digitsValue ds), rest)
      else .ok (.float (Binary64.ofDecimal negative (digitsValue (ds ++ fs))
        (e.getD 0 - fs.length)), rest) := by
  obtain ⟨row, some, lone⟩ := whole
  have parts := digits_append row stop
  unfold number
  cases ds with
  | nil => exact absurd rfl some
  | cons d tail =>
    by_cases zero : d = '0'
    · subst zero
      obtain rfl : tail = [] := by simpa using lone rfl
      simp only [List.cons_append, List.nil_append, fractional, scaled]
    · rw [List.cons_append] at parts ⊢
      have notZero : ∀ r, d :: (tail ++ s) = '0' :: r → False :=
        fun r same => zero (List.cons.inj same).1
      simp only [parts, fractional, scaled]

/-! ## Texts without a sign -/

/-- A text stands for a number of either sign, when the sign has been read. -/
structure Unsigned (body : List Char) (x : Bool → Json) : Prop where
  head : ∀ c ∈ body.head?, c.isDigit = true
  some : body ≠ []
  read : ∀ start negative rest, EndsNumber rest →
    number start negative (body ++ rest) = .ok (x negative, rest)

theorem unsigned_natural {n : Nat} (short : (decimalDigits n).length ≤ digitLimit) :
    Unsigned (decimalDigits n) fun negative => .int (if negative then -(n : Int) else n) where
  head c mem := digits_decimalDigits n c (List.mem_of_mem_head? mem)
  some := decimalDigits_ne_nil n
  read start negative rest ends := by
    rw [number_append start negative (whole_decimalDigits n) (fun c mem => (ends c mem).1)
      (fraction_of_not_point fun c mem => (ends c mem).2.1)
      (exponent_of_not_mark fun c mem => (ends c mem).2.2),
      digitsValue_decimalDigits]
    simp only [List.isEmpty_nil, Option.isNone_none, Bool.and_self, if_true,
      if_neg (Nat.not_lt.mpr short)]

/-- A text with a fraction. -/
theorem unsigned_fraction {ds fs : List Char} (whole : Whole ds) (row : Digits fs) (some : fs ≠ []) :
    Unsigned (ds ++ '.' :: fs) fun negative =>
      .float (Binary64.ofDecimal negative (digitsValue (ds ++ fs)) (-fs.length)) where
  head c mem := by
    rw [List.head?_append_of_ne_nil _ whole.some] at mem
    exact whole.row c (List.mem_of_mem_head? mem)
  some := by simp
  read start negative rest ends := by
    rw [List.append_assoc, List.cons_append, number_append start negative whole (by simp)
      (fraction_append row some fun c mem => (ends c mem).1)
      (exponent_of_not_mark fun c mem => (ends c mem).2.2)]
    have given : fs.isEmpty = false := by simpa using some
    simp only [given, Bool.false_and, Bool.false_eq_true, if_false, Option.getD_none, Int.zero_sub]

/-- A fraction, if there are digits for one. -/
def pointed : List Char → List Char
  | [] => []
  | fs => '.' :: fs

/-- A text with an exponent, and with a fraction if there are digits for one. -/
theorem unsigned_exponent (below : Bool) {ds fs es : List Char} (whole : Whole ds) (row : Digits fs)
    (row' : Digits es) (some' : es ≠ []) :
    Unsigned (ds ++ pointed fs ++ 'e' :: (if below then '-' else '+') :: es) fun negative =>
      .float (Binary64.ofDecimal negative (digitsValue (ds ++ fs))
        ((if below then -(digitsValue es : Int) else digitsValue es) - fs.length)) where
  head c mem := by
    rw [List.append_assoc, List.head?_append_of_ne_nil _ whole.some] at mem
    exact whole.row c (List.mem_of_mem_head? mem)
  some := by simp
  read start negative rest ends := by
    have scaled := exponent_append below row' some' fun c mem => (ends c mem).1
    have stop : ∀ c ∈ ('e' :: (if below then '-' else '+') :: (es ++ rest)).head?,
        c.isDigit = false ∧ c ≠ '.' := by
      simp
    cases fs with
    | nil =>
      simp only [pointed, List.append_assoc, List.nil_append, List.cons_append]
      rw [number_append start negative whole (fun c mem => (stop c mem).1)
        (fraction_of_not_point fun c mem => (stop c mem).2) scaled]
      simp
    | cons f tail =>
      simp only [pointed, List.append_assoc, List.cons_append]
      have fractional := fraction_append row (List.cons_ne_nil f tail) fun c mem => (stop c mem).1
      rw [List.cons_append] at fractional
      rw [number_append start negative whole (by simp) fractional scaled]
      simp

/-! ## The layouts -/

theorem digits_paddedDigits (width n : Nat) : Digits (paddedDigits width n) :=
  (digits_zeros _).append (digits_decimalDigits n)

theorem paddedDigits_ne_nil (width n : Nat) : paddedDigits width n ≠ [] :=
  List.append_ne_nil_of_right_ne_nil _ (decimalDigits_ne_nil n)

theorem digitsValue_paddedDigits (width n : Nat) : digitsValue (paddedDigits width n) = n := by
  rw [paddedDigits, digitsValue_zeros_append, digitsValue_decimalDigits]

theorem Unsigned.congr {body : List Char} {x y : Bool → Json} (text : Unsigned body x)
    (same : ∀ negative, x negative = y negative) : Unsigned body y :=
  (funext same : x = y) ▸ text

/-- A decimal is read back in the positional layout: with zeros after the point, with zeros before
the point, or with the point between its digits. -/
theorem unsigned_positional {x : Decimal} (some : x.digits ≠ 0) :
    Unsigned (Layout.positional (decimalDigits x.digits)
        (x.exponent + (decimalDigits x.digits).length)) fun negative =>
      .float (Binary64.ofDecimal negative x.digits x.exponent) := by
  have row := digits_decimalDigits x.digits
  have given := decimalDigits_ne_nil x.digits
  have first := head?_decimalDigits some
  have value := digitsValue_decimalDigits x.digits
  generalize decimalDigits x.digits = ds at *
  have length_pos : 0 < ds.length := List.length_pos_iff.mpr given
  have whole : ∀ more : List Char, Digits more → ∀ n : Nat, 0 < n → Whole (ds.take n ++ more) := by
    intro more row' n positive
    have left : ds.take n ≠ [] := by simp [given, positive.ne']
    refine ⟨Digits.append (fun c mem => row c (List.mem_of_mem_take mem)) row', by simp [left], ?_⟩
    intro zero
    rw [List.head?_append_of_ne_nil _ left, List.head?_take, if_neg positive.ne'] at zero
    exact absurd zero first
  unfold Layout.positional
  split_ifs with behind
  · -- all digits stand behind the point, after a zero and more zeros that count for nothing
    have zero : Whole ['0'] := ⟨by simp [Digits], by simp, fun _ => rfl⟩
    refine (unsigned_fraction zero ((digits_zeros (-(x.exponent + ds.length)).toNat).append row)
      (by simp [given])).congr fun negative => ?_
    have digits := digitsValue_zeros_append (1 + (-(x.exponent + ds.length)).toNat) ds
    rw [List.replicate_add, List.append_assoc, List.replicate_one] at digits
    rw [digits, value]
    congr 2
    simp
    omega
  · dsimp only
    split_ifs with fits
    · -- all digits stand before the point, and each zero after them shifts them once
      have split : (x.exponent + ds.length).toNat - ds.length = x.exponent.toNat := by omega
      have shifted := fun negative => Binary64.ofDecimal_shift negative x.digits
        (x.exponent.toNat + 1) x.exponent
      have digits : digitsValue (ds ++ List.replicate x.exponent.toNat '0' ++ ['0']) =
          x.digits * 10 ^ (x.exponent.toNat + 1) := by
        rw [← value, ← digitsValue_append_zeros, List.replicate_succ', List.append_assoc]
      have front := whole (List.replicate x.exponent.toNat '0') (digits_zeros _) ds.length length_pos
      rw [List.take_length] at front
      rw [split]
      refine (unsigned_fraction front (digits_zeros 1) (by simp)).congr fun negative => ?_
      rw [List.replicate_one, digits, ← shifted]
      congr 2
      simp
      omega
    · have front := whole [] (by simp [Digits]) (x.exponent + ds.length).toNat (by omega)
      rw [List.append_nil] at front
      refine (unsigned_fraction front (fun c mem => row c (List.mem_of_mem_drop mem))
        (by simpa using fits)).congr fun negative => ?_
      rw [List.take_append_drop, value]
      congr 2
      rw [List.length_drop]
      omega

theorem unsigned_scientific {x : Decimal} (some : x.digits ≠ 0) :
    Unsigned (Layout.json.scientific (decimalDigits x.digits)
        (x.exponent + (decimalDigits x.digits).length - 1)) fun negative =>
      .float (Binary64.ofDecimal negative x.digits x.exponent) := by
  have row := digits_decimalDigits x.digits
  have given := decimalDigits_ne_nil x.digits
  have first := head?_decimalDigits some
  have value := digitsValue_decimalDigits x.digits
  generalize decimalDigits x.digits = ds at *
  cases ds with
  | nil => exact absurd rfl given
  | cons d tail =>
    have whole : Whole [d] := by
      refine ⟨fun c mem => row c (List.mem_cons.mpr (.inl (List.mem_singleton.mp mem))), by simp, ?_⟩
      intro zero
      exact absurd zero first
    generalize scale : x.exponent + (d :: tail).length - 1 = exponent
    have layout : Layout.json.scientific (d :: tail) exponent = [d] ++ pointed tail ++
        'e' :: (if decide (exponent < 0) then '-' else '+') :: paddedDigits 2 exponent.natAbs := by
      cases tail <;> simp [Layout.scientific, pointed, Layout.json]
    rw [layout]
    refine (unsigned_exponent (decide (exponent < 0)) whole
      (fun c mem => row c (List.mem_cons_of_mem d mem)) (digits_paddedDigits 2 exponent.natAbs)
      (paddedDigits_ne_nil 2 _)).congr fun negative => ?_
    rw [List.singleton_append, value, digitsValue_paddedDigits]
    congr 2
    rw [List.length_cons] at scale
    split_ifs with below <;> simp only [decide_eq_true_eq] at below <;> omega

theorem unsigned_decimal {x : Decimal} (some : x.digits ≠ 0) :
    Unsigned (Layout.json.decimal x) fun negative =>
      .float (Binary64.ofDecimal negative x.digits x.exponent) := by
  unfold Layout.decimal
  dsimp only
  split_ifs
  · rw [Int.sub_add_cancel]
    exact unsigned_positional some
  · exact unsigned_scientific some

/-! ## Numbers as values -/

/-- The words that are values. -/
def scalarWords : List String := ["null", "true", "false", "NaN", "Infinity", "-Infinity"]

/-- Where no word stands, a number is read. -/
theorem scalar_of_no_word {s : List Char} :
    (∀ word ∈ scalarWords, word.toList.isPrefixOf s = false) → scalar s = match s with
      | '-' :: rest => number s true rest
      | _ => number s false s := by
  intro none
  have missing : ∀ word ∈ scalarWords, after? word s = .none := by
    intro word mem
    rw [after?, none word mem, if_neg (by decide)]
  simp only [scalarWords, List.forall_mem_cons] at missing
  obtain ⟨noNull, noTrue, noFalse, noNan, noInfinity, noMinusInfinity, -⟩ := missing
  unfold scalar
  dsimp only
  split
  · rename_i found
    simp [noNull, noTrue, noFalse, noNan, noInfinity, noMinusInfinity] at found
  · rfl

theorem scalar_of_digit {c : Char} (digit : c.isDigit = true) (tail : List Char) :
    scalar (c :: tail) = number (c :: tail) false (c :: tail) := by
  have other : ∀ letter : Char, letter.isDigit = false → (letter == c) = false := by
    rintro letter notDigit
    rw [beq_eq_false_iff_ne]
    rintro rfl
    rw [digit] at notDigit
    cases notDigit
  rw [scalar_of_no_word]
  · split
    · rename_i same
      rw [(List.cons.inj same).1] at digit
      exact absurd digit (by decide)
    · rfl
  · simp [scalarWords, List.isPrefixOf, other]

theorem scalar_of_minus {c : Char} (digit : c.isDigit = true) (tail : List Char) :
    scalar ('-' :: c :: tail) = number ('-' :: c :: tail) true (c :: tail) := by
  have other : ('I' == c) = false := by
    rw [beq_eq_false_iff_ne]
    rintro rfl
    exact absurd digit (by decide)
  rw [scalar_of_no_word]
  · rfl
  · simp [scalarWords, List.isPrefixOf, other]

/-- The sign comes before the text. -/
theorem scalar_of_unsigned {body rest : List Char} {x : Bool → Json} (text : Unsigned body x)
    (negative : Bool) (ends : EndsNumber rest) :
    scalar ((if negative then '-' :: body else body) ++ rest) = .ok (x negative, rest) := by
  obtain ⟨head, some, read⟩ := text
  cases body with
  | nil => exact absurd rfl some
  | cons c tail =>
    have digit := head c rfl
    cases negative with
    | false =>
      show scalar (c :: (tail ++ rest)) = _
      rw [scalar_of_digit digit]
      exact read _ _ _ ends
    | true =>
      show scalar ('-' :: c :: (tail ++ rest)) = _
      rw [scalar_of_minus digit]
      exact read _ _ _ ends

theorem scalar_integerText {n : Int} (short : (decimalDigits n.natAbs).length ≤ digitLimit)
    {rest : List Char} (ends : EndsNumber rest) :
    scalar ((integerText n).toList ++ rest) = .ok (.int n, rest) := by
  have text : (integerText n).toList = if decide (n < 0) then '-' :: decimalDigits n.natAbs
      else decimalDigits n.natAbs := by
    unfold integerText naturalText
    by_cases below : n < 0 <;> simp [below]
  rw [text, scalar_of_unsigned (unsigned_natural short) _ ends]
  congr 3
  split_ifs with below <;> simp only [decide_eq_true_eq] at below <;> omega

/-- Zero and the shortest decimal read back. -/
theorem scalar_render {x : Binary64} (formed : x.WellFormed) {rest : List Char}
    (ends : EndsNumber rest) :
    scalar ((Layout.json.render x).toList ++ rest) = .ok (.float x, rest) := by
  cases x with
  | nan => rfl
  | infinite negative => cases negative <;> rfl
  | finite negative m e =>
    rw [Layout.render, String.toList_ofList]
    rcases formed with ⟨rfl, rfl⟩ | canonical
    · have zero : Whole ['0'] := ⟨by simp [Digits], by simp, fun _ => rfl⟩
      have text := unsigned_fraction zero (digits_zeros 1) (by simp)
      exact scalar_of_unsigned (text.congr fun negative => rfl) negative ends
    · rw [if_neg canonical.positive.ne',
        scalar_of_unsigned (unsigned_decimal (Binary64.shortest_digits_ne_zero canonical)) _ ends,
        Binary64.ofDecimal_shortest negative canonical]

end SearchDesk.Json.Reader
