import Mathlib.Data.List.Basic
import SearchDesk.Json.Printer
import SearchDesk.Json.Reader

/-!
# Texts in JSON

What is written for a text, between quotes and with escapes, is read as that text.

* `fourHex?_hexDigits`: four hexadecimal digits give back the unit they were written for;
* `textTail_writeChar`: one written character is read as it, whatever follows;
* `textTail_writeText`: so a written text is read as a whole, up to its closing quote.
-/

namespace SearchDesk.Json.Reader

/-! ## Hexadecimal digits -/

/-- One more digit in the value of a row of hexadecimal digits. -/
theorem hexNumber?_append_digit {ds : List Char} {n d : Nat} (value : hexNumber? ds = some n)
    (small : d < 16) : hexNumber? (ds ++ [d.digitChar]) = some (16 * n + d) := by
  have digit : ∀ d < 16, hexValue? d.digitChar = some d := by decide
  unfold hexNumber? at *
  rw [List.foldlM_append, value]
  simp [digit d small]

theorem hexNumber?_toDigits (n : Nat) : hexNumber? (Nat.toDigits 16 n) = some n := by
  induction n using Nat.strongRecOn with
  | ind n ih =>
    by_cases small : n < 16
    · rw [Nat.toDigits_of_lt_base small]
      have empty : hexNumber? [] = some 0 := rfl
      simpa using hexNumber?_append_digit empty small
    · rw [Nat.toDigits_of_base_le (by decide) (by omega),
        hexNumber?_append_digit (ih (n / 16) (by omega)) (by omega)]
      congr 1
      omega

theorem hexNumber?_hexDigits (width n : Nat) : hexNumber? (hexDigits width n) = some n := by
  have zeros : ∀ k : Nat, List.foldlM (fun n c => (hexValue? c).map (16 * n + ·)) 0
      (List.replicate k '0') = some 0 := by
    intro k
    induction k with
    | zero => rfl
    | succ k ih => rw [List.replicate_succ, List.foldlM_cons]; exact ih
  rw [hexDigits, hexNumber?, List.foldlM_append, zeros]
  exact hexNumber?_toDigits n

theorem length_hexDigits {n : Nat} (small : n < 0x10000) : (hexDigits 4 n).length = 4 := by
  have fits : (Nat.toDigits 16 n).length ≤ 4 :=
    (Nat.length_toDigits_le_iff (by decide) (by decide)).mpr small
  rw [hexDigits, List.length_append, List.length_replicate]
  omega

theorem fourHex?_hexDigits {n : Nat} (small : n < 0x10000) (tail : List Char) :
    fourHex? (hexDigits 4 n ++ tail) = some n := by
  have value := hexNumber?_hexDigits 4 n
  have length := length_hexDigits small
  generalize hexDigits 4 n = ds at *
  match ds, length with
  | [a, b, c, d], _ => exact value

/-! ## Escapes -/

/-- The characters of an escape are passed over. -/
theorem textTail_skip (start acc : List Char) (escaped tail : List Char) :
    textTail start escaped.length acc (escaped ++ tail) = textTail start 0 acc tail := by
  induction escaped with
  | nil => rfl
  | cons c rest ih => rw [List.length_cons, List.cons_append, textTail, ih]

theorem textTail_escape {start acc tail : List Char} {c : Char} {escaped : List Char}
    (read : escape start (escaped ++ tail) = .ok (c, escaped.length)) :
    textTail start 0 acc ('\\' :: (escaped ++ tail)) = textTail start 0 (c :: acc) tail := by
  rw [textTail, if_neg (by decide), if_pos rfl, read]
  exact textTail_skip start (c :: acc) escaped tail

theorem drop_hexDigits {n : Nat} (small : n < 0x10000) (tail : List Char) :
    (hexDigits 4 n ++ tail).drop 4 = tail := by
  have length := length_hexDigits small
  rw [List.drop_append_of_le_length (by omega), List.drop_eq_nil_of_le (by omega), List.nil_append]

/-- A unit that is no leading half is read by itself. -/
theorem unicodeEscape_unit {n : Nat} (small : n < 0x10000) (notLeading : isLeadingHalf n = false)
    {tail : List Char} (more : tail ≠ []) :
    unicodeEscape (hexDigits 4 n ++ tail) = escapedWhole n := by
  unfold unicodeEscape
  rw [drop_hexDigits small, fourHex?_hexDigits small]
  cases tail with
  | nil => exact absurd rfl more
  | cons c tail =>
    dsimp only
    split
    · rw [notLeading]
      rfl
    · rfl

/-- A leading half joins with the trailing half after it. -/
theorem unicodeEscape_pair {high low : Nat} (leading : isLeadingHalf high = true)
    (trailing : isTrailingHalf low = true) {tail : List Char} (more : tail ≠ []) :
    unicodeEscape (hexDigits 4 high ++ '\\' :: 'u' :: (hexDigits 4 low ++ tail)) =
      .ok (joined high low, 10) := by
  have smallHigh : high < 0x10000 := by
    simp only [isLeadingHalf, Bool.and_eq_true, decide_eq_true_eq] at leading
    omega
  have smallLow : low < 0x10000 := by
    simp only [isTrailingHalf, Bool.and_eq_true, decide_eq_true_eq] at trailing
    omega
  have given : tail.isEmpty = false := by simpa using more
  unfold unicodeEscape
  rw [drop_hexDigits smallHigh, fourHex?_hexDigits smallHigh]
  simp [drop_hexDigits smallLow, fourHex?_hexDigits smallLow, leading, trailing, given]

/-- A character is no half. -/
theorem isLeadingHalf_toNat (c : Char) : isLeadingHalf c.toNat = false := by
  have valid : c.toNat < 0xD800 ∨ 0xDFFF < c.toNat ∧ c.toNat < 0x110000 := c.valid
  simp only [isLeadingHalf, Bool.and_eq_false_iff, decide_eq_false_iff_not]
  omega

theorem escapedWhole_toNat (c : Char) : escapedWhole c.toNat = .ok (c, 4) := by
  have valid : c.toNat < 0xD800 ∨ 0xDFFF < c.toNat ∧ c.toNat < 0x110000 := c.valid
  have notTrailing : isTrailingHalf c.toNat = false := by
    simp only [isTrailingHalf, Bool.and_eq_false_iff, decide_eq_false_iff_not]
    omega
  rw [escapedWhole, wholeCharacter?, isLeadingHalf_toNat, notTrailing, Char.ofNat_toNat]
  rfl

/-- The two halves of a character above U+FFFF. -/
theorem halves_of_large {c : Char} (large : 0x10000 ≤ c.toNat) :
    isLeadingHalf (0xD800 + (c.toNat - 0x10000) / 0x400) = true ∧
      isTrailingHalf (0xDC00 + (c.toNat - 0x10000) % 0x400) = true ∧
      joined (0xD800 + (c.toNat - 0x10000) / 0x400) (0xDC00 + (c.toNat - 0x10000) % 0x400) = c := by
  have valid : c.toNat < 0xD800 ∨ 0xDFFF < c.toNat ∧ c.toNat < 0x110000 := c.valid
  have code : 0x10000 + (0xD800 + (c.toNat - 0x10000) / 0x400 - 0xD800) * 0x400 +
      (0xDC00 + (c.toNat - 0x10000) % 0x400 - 0xDC00) = c.toNat := by
    omega
  refine ⟨?_, ?_, ?_⟩
  · simp only [isLeadingHalf, Bool.and_eq_true, decide_eq_true_eq]
    omega
  · simp only [isTrailingHalf, Bool.and_eq_true, decide_eq_true_eq]
    omega
  · rw [joined, code, Char.ofNat_toNat]

/-! ## Characters -/

theorem textTail_unit (start acc : List Char) {c : Char} (unit : c.toNat < 0x10000)
    {tail : List Char} (more : tail ≠ []) :
    textTail start 0 acc (unitEscape c.toNat ++ tail) = textTail start 0 (c :: acc) tail := by
  have read := unicodeEscape_unit unit (isLeadingHalf_toNat c) more
  have length : ('u' :: hexDigits 4 c.toNat).length = 5 := by
    rw [List.length_cons, length_hexDigits unit]
  rw [escapedWhole_toNat] at read
  rw [unitEscape, List.cons_append]
  apply textTail_escape
  rw [List.cons_append, escape, read, length]
  rfl

theorem textTail_pair (start acc : List Char) {c : Char} {high low : Nat}
    (leading : isLeadingHalf high = true) (trailing : isTrailingHalf low = true)
    (whole : joined high low = c) {tail : List Char} (more : tail ≠ []) :
    textTail start 0 acc (unitEscape high ++ unitEscape low ++ tail) =
      textTail start 0 (c :: acc) tail := by
  have read := unicodeEscape_pair leading trailing more
  have small : high < 0x10000 ∧ low < 0x10000 := by
    simp only [isLeadingHalf, isTrailingHalf, Bool.and_eq_true, decide_eq_true_eq] at *
    omega
  have length : ('u' :: (hexDigits 4 high ++ '\\' :: 'u' :: hexDigits 4 low)).length = 11 := by
    simp [length_hexDigits small.1, length_hexDigits small.2]
  -- the second escape is passed over with the first one
  have escapes : unitEscape high ++ unitEscape low ++ tail =
      '\\' :: ('u' :: (hexDigits 4 high ++ '\\' :: 'u' :: hexDigits 4 low) ++ tail) := by
    simp [unitEscape]
  rw [escapes]
  apply textTail_escape
  rw [List.cons_append, List.append_assoc, List.cons_append, List.cons_append, escape, read, length,
    whole]
  rfl

/-- A written character is read as it. Something has to follow: at least the closing quote. -/
theorem textTail_writeChar (start acc : List Char) (c : Char) {tail : List Char}
    (more : tail ≠ []) :
    textTail start 0 acc (writeChar c ++ tail) = textTail start 0 (c :: acc) tail := by
  unfold writeChar
  dsimp only
  split_ifs with marked lineFeed carriageReturn tab backspace formFeed graphic unit
  · rcases marked with rfl | rfl <;> rfl
  · subst lineFeed
    rfl
  · subst carriageReturn
    rfl
  · subst tab
    rfl
  · obtain rfl : c = Char.ofNat 8 := by rw [← backspace, Char.ofNat_toNat]
    rfl
  · obtain rfl : c = Char.ofNat 12 := by rw [← formFeed, Char.ofNat_toNat]
    rfl
  · obtain ⟨notQuote, notBackslash⟩ := not_or.mp marked
    rw [List.singleton_append, textTail, if_neg notQuote, if_neg notBackslash, if_neg (by omega)]
  · exact textTail_unit start acc unit more
  · obtain ⟨leading, trailing, whole⟩ := halves_of_large (Nat.not_lt.mp unit)
    exact textTail_pair start acc leading trailing whole more

/-- A written text is read up to its closing quote. -/
theorem textTail_writeText (start : List Char) (s : String) (rest : List Char) :
    textTail start 0 [] (s.toList.flatMap writeChar ++ '"' :: rest) = .ok (s, rest) := by
  -- the characters read so far are kept in reverse, so they vary along the induction
  have each : ∀ (cs acc : List Char), textTail start 0 acc (cs.flatMap writeChar ++ '"' :: rest) =
      .ok (String.ofList (acc.reverse ++ cs), rest) := by
    intro cs
    induction cs with
    | nil =>
      intro acc
      rw [List.append_nil]
      rfl
    | cons c cs ih =>
      intro acc
      rw [List.flatMap_cons, List.append_assoc, textTail_writeChar start acc c (by simp), ih]
      simp
  rw [each, List.reverse_nil, List.nil_append, String.ofList_toList]

end SearchDesk.Json.Reader
