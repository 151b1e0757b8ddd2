import Mathlib.Data.List.Infix
import SearchDesk.Schema.Suggestion

/-!
# The forms of a text that decide how it is stored

Whether a text is stored as a date or as markup is told by its form:

* `BeginsWithDatetime`: a date and a time of day (`Datetime`) stand at its beginning;
* `HasMarkup`: a `<` with a letter right behind it, and a `>` behind both.

The scan for a date takes the text apart piece by piece, and each piece has a law that says
what may stand before the rest. It drops a separator as soon as it sees one, while the form
leaves a choice; they agree because no separator is a digit (`not_isDecimalDigit_of_blank`).

`suggestFor_text` says that the storage type of a text is decided by these forms, dates first.
A date takes up sixteen characters at most, so nothing behind them has an influence on it, and
markup stays markup wherever the text is put in (`StoredByForm`).
-/

namespace SearchDesk.Schema

/-! ## Dates -/

/-- So many decimal digits. -/
structure Digits (n : Nat) (ds : List Char) : Prop where
  length : ds.length = n
  digits : ∀ d ∈ ds, isDecimalDigit d = true

/-- What may stand between a date and a time of day. -/
inductive Separator : List Char → Prop
  | missing : Separator []
  | letter : Separator ['T']
  | blank {c : Char} (blank : isBlank c = true) : Separator [c]

/-- A date and a time of day. -/
inductive Datetime : List Char → Prop
  | mk {year month day separator hour minute : List Char} :
      Digits 4 year → Digits 2 month → Digits 2 day → Separator separator → Digits 2 hour →
      Digits 2 minute →
      Datetime (year ++ '-' :: month ++ '-' :: day ++ separator ++ hour ++ ':' :: minute)

/-- The text begins with a date and a time of day. -/
def BeginsWithDatetime (s : List Char) : Prop := ∃ d, Datetime d ∧ d <+: s

theorem digits_cons_iff {n : Nat} {c : Char} {ds : List Char} :
    Digits (n + 1) (c :: ds) ↔ isDecimalDigit c = true ∧ Digits n ds := by
  constructor
  · rintro ⟨length, digits⟩
    obtain ⟨first, later⟩ := List.forall_mem_cons.mp digits
    exact ⟨first, Nat.succ.inj length, later⟩
  · rintro ⟨first, length, later⟩
    exact ⟨congrArg Nat.succ length, List.forall_mem_cons.mpr ⟨first, later⟩⟩

/-- A scan over digits succeeds if so many of them stand before the rest. -/
theorem afterDigits?_eq_some_iff {n : Nat} {s rest : List Char} :
    afterDigits? n s = some rest ↔ ∃ ds, Digits n ds ∧ s = ds ++ rest := by
  induction n generalizing s with
  | zero =>
    constructor
    · intro same
      exact ⟨[], ⟨rfl, by simp⟩, Option.some.inj same⟩
    · rintro ⟨ds, ⟨length, -⟩, rfl⟩
      rw [List.eq_nil_of_length_eq_zero length]
      rfl
  | succ n ih =>
    cases s with
    | nil =>
      constructor
      · intro no
        cases no
      · rintro ⟨ds, ⟨length, -⟩, same⟩
        obtain ⟨rfl, -⟩ := List.append_eq_nil_iff.mp same.symm
        cases length
    | cons c s =>
      rw [afterDigits?]
      constructor
      · intro found
        split at found
        case isTrue digit =>
          obtain ⟨ds, digits, rfl⟩ := ih.mp found
          exact ⟨c :: ds, digits_cons_iff.mpr ⟨digit, digits⟩, rfl⟩
        case isFalse => cases found
      · rintro ⟨ds, digits, same⟩
        cases ds with
        | nil => cases digits.length
        | cons d ds =>
          obtain ⟨rfl, rfl⟩ := List.cons.inj same
          obtain ⟨digit, digits⟩ := digits_cons_iff.mp digits
          rw [if_pos digit]
          exact ih.mpr ⟨ds, digits, rfl⟩

theorem afterChar?_eq_some_iff {c : Char} {s rest : List Char} :
    afterChar? c s = some rest ↔ s = c :: rest := by
  cases s with
  | nil => simp [afterChar?]
  | cons d s => simp [afterChar?]

/-- A blank is no digit. -/
theorem not_isDecimalDigit_of_blank {c : Char} (blank : isBlank c = true) :
    isDecimalDigit c = false :=
  CodePoints.has_eq_false_of_apart (by decide) blank

/-- Before digits a separator is dropped if there is one. -/
theorem skipSeparator_eq_iff {s hour rest : List Char} (digits : Digits 2 hour) :
    skipSeparator s = hour ++ rest ↔
      ∃ separator, Separator separator ∧ s = separator ++ (hour ++ rest) := by
  constructor
  · intro same
    cases s with
    | nil => exact ⟨[], .missing, same⟩
    | cons c s =>
      rw [skipSeparator] at same
      split at same
      case isTrue separates =>
        rw [← same]
        rcases separates with rfl | blank
        · exact ⟨['T'], .letter, rfl⟩
        · exact ⟨[c], .blank blank, rfl⟩
      case isFalse => exact ⟨[], .missing, same⟩
  · rintro ⟨separator, separates, rfl⟩
    cases separates with
    | missing =>
      -- the first digit is no separator, so nothing is dropped
      cases hour with
      | nil => cases digits.length
      | cons d hour =>
        have digit := (digits_cons_iff.mp digits).1
        have stays : ¬(d = 'T' ∨ isBlank d = true) := by
          rintro (rfl | blank)
          · exact absurd digit (by decide)
          · rw [not_isDecimalDigit_of_blank blank] at digit
            cases digit
        show skipSeparator (d :: (hour ++ rest)) = d :: (hour ++ rest)
        rw [skipSeparator, if_neg stays]
    | letter => rfl
    | blank blank =>
      show skipSeparator (_ :: (hour ++ rest)) = hour ++ rest
      rw [skipSeparator, if_pos (.inr blank)]

/-- The scan for a date succeeds if one stands before the rest. -/
theorem afterDatetime?_eq_some_iff {s rest : List Char} :
    afterDatetime? s = some rest ↔ ∃ d, Datetime d ∧ s = d ++ rest := by
  unfold afterDatetime?
  simp only [bind, Option.bind_eq_some_iff, afterDigits?_eq_some_iff, afterChar?_eq_some_iff]
  constructor
  · rintro ⟨afterDay, ⟨_, ⟨_, ⟨_, ⟨_, ⟨year, isYear, rfl⟩, rfl⟩, month, isMonth, rfl⟩, rfl⟩, day,
      isDay, rfl⟩, _, ⟨_, ⟨hour, isHour, time⟩, rfl⟩, minute, isMinute, rfl⟩
    obtain ⟨separator, separates, rfl⟩ := (skipSeparator_eq_iff isHour).mp time
    exact ⟨_, .mk isYear isMonth isDay separates isHour isMinute, by simp⟩
  · rintro ⟨_, ⟨isYear, isMonth, isDay, separates, isHour, isMinute⟩, rfl⟩
    refine ⟨_, ⟨_, ⟨_, ⟨_, ⟨_, ⟨_, isYear, ?_⟩, rfl⟩, _, isMonth, rfl⟩, rfl⟩, _, isDay, rfl⟩,
      _, ⟨_, ⟨_, isHour, (skipSeparator_eq_iff isHour).mpr ⟨_, separates, rfl⟩⟩, rfl⟩, _, isMinute,
      rfl⟩
    simp

theorem startsWithDatetime_iff {s : List Char} :
    startsWithDatetime s = true ↔ BeginsWithDatetime s := by
  rw [startsWithDatetime, Option.isSome_iff_exists]
  constructor
  · rintro ⟨rest, found⟩
    obtain ⟨d, datetime, rfl⟩ := afterDatetime?_eq_some_iff.mp found
    exact ⟨d, datetime, List.prefix_append d rest⟩
  · rintro ⟨d, datetime, rest, rfl⟩
    exact ⟨rest, afterDatetime?_eq_some_iff.mpr ⟨d, datetime, rfl⟩⟩

theorem Separator.length_le {s : List Char} (separates : Separator s) : s.length ≤ 1 := by
  cases separates <;> simp

/-- A date and a time of day have sixteen characters at most. -/
theorem Datetime.length_le {d : List Char} (datetime : Datetime d) : d.length ≤ 16 := by
  obtain ⟨year, month, day, separates, hour, minute⟩ := datetime
  have one := separates.length_le
  simp only [List.length_append, List.length_cons, year.length, month.length, day.length,
    hour.length, minute.length]
  omega

/-- What stands behind the first sixteen characters has no influence. -/
theorem beginsWithDatetime_take_iff {s : List Char} :
    BeginsWithDatetime (s.take 16) ↔ BeginsWithDatetime s := by
  refine exists_congr fun d => and_congr_right fun datetime => ?_
  rw [List.prefix_take_iff]
  exact and_iff_left datetime.length_le

theorem BeginsWithDatetime.append {s : List Char} (begins : BeginsWithDatetime s)
    (t : List Char) : BeginsWithDatetime (s ++ t) := by
  obtain ⟨d, datetime, inFront⟩ := begins
  exact ⟨d, datetime, inFront.trans (List.prefix_append s t)⟩

/-! ## Markup -/

/-- An ASCII letter, or one of the four characters that become one when case is ignored. -/
def TagLetter (c : Char) : Prop :=
  'a' ≤ c ∧ c ≤ 'z' ∨ 'A' ≤ c ∧ c ≤ 'Z' ∨
    c ∈ ['\u0130', '\u0131', '\u017f', '\u212a']

/-- A `<` with a letter right behind it, and a `>` behind both. -/
def HasMarkup (s : List Char) : Prop :=
  ∃ i j, s[i]? = some '<' ∧ (∃ c, s[i + 1]? = some c ∧ TagLetter c) ∧ s[j]? = some '>' ∧ i + 2 ≤ j

theorem isTagLetter_iff {c : Char} : isTagLetter c = true ↔ TagLetter c := by
  have upper : c.isUpper = true ↔ 'A' ≤ c ∧ c ≤ 'Z' := decide_eq_true_iff
  have lower : c.isLower = true ↔ 'a' ≤ c ∧ c ≤ 'z' := by
    show (decide ('a' ≤ c) && decide (c ≤ 'z')) = true ↔ _
    rw [Bool.and_eq_true, decide_eq_true_eq, decide_eq_true_eq]
  have ascii : c.isAlpha = true ↔ 'a' ≤ c ∧ c ≤ 'z' ∨ 'A' ≤ c ∧ c ≤ 'Z' := by
    show (c.isUpper || c.isLower) = true ↔ _
    rw [Bool.or_eq_true, upper, lower, or_comm]
  simp only [isTagLetter, TagLetter, Bool.or_eq_true, decide_eq_true_eq, ascii, or_assoc,
    List.mem_cons, List.not_mem_nil, or_false, ← Char.toNat_inj]
  exact Iff.rfl

/-- Markup opens at the first character, or it lies behind it. -/
theorem hasMarkup_cons_iff {a : Char} {s : List Char} :
    HasMarkup (a :: s) ↔
      (a = '<' ∧ ∃ b rest, s = b :: rest ∧ TagLetter b ∧ '>' ∈ rest) ∨ HasMarkup s := by
  constructor
  · rintro ⟨i, j, opens, ⟨c, next, letter⟩, closes, apart⟩
    cases i with
    | zero =>
      cases s with
      | nil => cases next
      | cons b rest =>
        obtain rfl : b = c := Option.some.inj next
        obtain ⟨k, rfl⟩ : ∃ k, j = k + 2 := ⟨j - 2, by omega⟩
        exact .inl ⟨Option.some.inj opens, b, rest, rfl, letter, List.mem_of_getElem? closes⟩
    | succ i =>
      obtain ⟨k, rfl⟩ : ∃ k, j = k + 1 := ⟨j - 1, by omega⟩
      exact .inr ⟨i, k, opens, ⟨c, next, letter⟩, closes, by omega⟩
  · rintro (⟨rfl, b, rest, rfl, letter, closes⟩ | ⟨i, j, opens, next, closes, apart⟩)
    · obtain ⟨k, here⟩ := List.mem_iff_getElem?.mp closes
      exact ⟨0, k + 2, rfl, ⟨b, rfl, letter⟩, here, by omega⟩
    · exact ⟨i + 1, j + 1, opens, next, closes, by omega⟩

theorem hasTag_iff {s : List Char} : hasTag s = true ↔ HasMarkup s := by
  induction s with
  | nil =>
    refine iff_of_false Bool.false_ne_true ?_
    rintro ⟨i, j, opens, -⟩
    cases opens
  | cons a s ih =>
    rw [hasMarkup_cons_iff, ← ih]
    cases s with
    | nil => simp [hasTag]
    | cons b rest => simp [hasTag, isTagLetter_iff, and_assoc]

/-- Markup stays markup wherever the text is put in. -/
theorem HasMarkup.within {s : List Char} (markup : HasMarkup s) (p t : List Char) :
    HasMarkup (p ++ s ++ t) := by
  have moved : ∀ {i : Nat} {c : Char}, s[i]? = some c → (p ++ s ++ t)[p.length + i]? = some c := by
    intro i c here
    have inside : i < s.length := (List.getElem?_eq_some_iff.mp here).1
    rw [List.append_assoc, List.getElem?_append_right (Nat.le_add_right _ _),
      Nat.add_sub_cancel_left, List.getElem?_append_left inside, here]
  obtain ⟨i, j, opens, ⟨c, next, letter⟩, closes, apart⟩ := markup
  refine ⟨p.length + i, p.length + j, moved opens, ⟨c, moved next, letter⟩, moved closes, ?_⟩
  omega

/-! ## The storage type -/

/-- The storage types of texts are decided by their forms. -/
structure StoredByForm (answer : String → List StorageType) : Prop where
  datetime : ∀ s, answer s = [.datetime] ↔ BeginsWithDatetime s.toList
  html : ∀ s, answer s = [.html] ↔ ¬BeginsWithDatetime s.toList ∧ HasMarkup s.toList
  text : ∀ s, answer s = [.text] ↔ ¬BeginsWithDatetime s.toList ∧ ¬HasMarkup s.toList
  /-- Sixteen characters tell whether a text is a date. -/
  sixteen : ∀ s t : String, s.toList.take 16 = t.toList.take 16 →
    (answer s = [.datetime] ↔ answer t = [.datetime])
  /-- A date may be followed by anything. -/
  followed : ∀ s t, answer s = [.datetime] → answer (s ++ t) = [.datetime]
  /-- Around markup there may be anything, but what comes before it may begin with a date. -/
  within : ∀ p s t, answer s = [.html] →
    answer (p ++ s ++ t) = [.html] ∨ answer (p ++ s ++ t) = [.datetime]

theorem ofText_eq_iff (s : String) :
    (ofText s = .datetime ↔ BeginsWithDatetime s.toList) ∧
      (ofText s = .html ↔ ¬BeginsWithDatetime s.toList ∧ HasMarkup s.toList) ∧
        (ofText s = .text ↔ ¬BeginsWithDatetime s.toList ∧ ¬HasMarkup s.toList) := by
  rw [ofText]
  by_cases dated : BeginsWithDatetime s.toList
  · rw [if_pos (startsWithDatetime_iff.mpr dated)]
    simp [dated]
  · rw [if_neg (mt startsWithDatetime_iff.mp dated)]
    by_cases markup : HasMarkup s.toList
    · rw [if_pos (hasTag_iff.mpr markup)]
      simp [dated, markup]
    · rw [if_neg (mt hasTag_iff.mp markup)]
      simp [dated, markup]

theorem storedByForm_ofText : StoredByForm fun s => [ofText s] := by
  have only : ∀ s t, [ofText s] = [t] ↔ ofText s = t := fun s t => List.singleton_inj
  have datetime : ∀ s, [ofText s] = [.datetime] ↔ BeginsWithDatetime s.toList := by
    intro s
    rw [only, (ofText_eq_iff s).1]
  have html : ∀ s, [ofText s] = [.html] ↔ ¬BeginsWithDatetime s.toList ∧ HasMarkup s.toList := by
    intro s
    rw [only, (ofText_eq_iff s).2.1]
  have text : ∀ s, [ofText s] = [.text] ↔ ¬BeginsWithDatetime s.toList ∧ ¬HasMarkup s.toList := by
    intro s
    rw [only, (ofText_eq_iff s).2.2]
  refine ⟨datetime, html, text, ?_, ?_, ?_⟩
  · intro s t same
    rw [datetime, datetime, ← beginsWithDatetime_take_iff, same, beginsWithDatetime_take_iff]
  · intro s t dated
    rw [datetime] at dated ⊢
    rw [String.toList_append]
    exact dated.append t.toList
  · intro p s t isMarkup
    obtain ⟨-, markup⟩ := (html s).mp isMarkup
    rw [datetime, html, String.toList_append, String.toList_append]
    have inside := markup.within p.toList t.toList
    by_cases dated : BeginsWithDatetime (p.toList ++ s.toList ++ t.toList)
    · exact .inr dated
    · exact .inl ⟨dated, inside⟩

/-- The names of the kinds whose fields are stored in one way, whatever they hold. -/
def settledKinds : List String := ["number", "boolean", "array", "object"]

theorem kindOfJson?_of_unsettled {kind : Json}
    (other : ∀ name ∈ settledKinds, kind ≠ .str name) :
    (Kind.ofJson? kind).getD .string = .string := by
  cases found : Kind.ofJson? kind with
  | none => rfl
  | some k =>
    cases kind with
    | str name =>
      have named : k.name = name := by
        have named := List.find?_some found
        exact of_decide_eq_true named
      have unsettled : k.name ∉ settledKinds := by
        intro settled
        exact other k.name settled (congrArg Json.str named.symm)
      cases k with
      | string => rfl
      | _ => exact absurd (by decide) unsettled
    | _ => cases found

/-- **Forms of texts.** For a text under a kind that does not settle how it is stored, the storage
type is decided by the form of the text: a date and a time of day at its beginning, or else
markup in it, or else neither. -/
theorem suggestFor_text {kind : Json} (other : ∀ name ∈ settledKinds, kind ≠ .str name) :
    StoredByForm fun s => suggestFor kind (.str s) := by
  have asString : ∀ s, suggestFor kind (.str s) = [ofText s] := by
    intro s
    rw [suggestFor, kindOfJson?_of_unsettled other]
    rfl
  rw [funext asString]
  exact storedByForm_ofText

/-- A kind of no known name leaves it to the text; a date in front takes the place of markup. -/
theorem suggestFor_text_datedMarkup :
    (∀ name ∈ settledKinds, Json.str "moment" ≠ .str name) ∧
      suggestFor (.str "moment") (.str "<b>now</b>") = [.html] ∧
      HasMarkup "<b>now</b>".toList ∧
      suggestFor (.str "moment") (.str ("2024-01-0510:30" ++ " " ++ "<b>now</b>")) =
        [.datetime] := by
  have other : ∀ name ∈ settledKinds, Json.str "moment" ≠ .str name := by simp [settledKinds]
  have forms := suggestFor_text other
  have html : suggestFor (.str "moment") (.str "<b>now</b>") = [.html] := by decide
  have dated : suggestFor (.str "moment") (.str "2024-01-0510:30") = [.datetime] := by decide
  refine ⟨other, html, ((forms.html _).mp html).2, ?_⟩
  exact forms.followed _ _ (forms.followed _ _ dated)

end SearchDesk.Schema
