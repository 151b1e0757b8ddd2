import Mathlib.Data.List.Infix
import SearchDesk.Cli.Screen
import SearchDesk.Json.Reader

/-!
# What the commands show on a screen

The words of the program are `Bare`: no bracket opens in them. Next to bare words a text closes
markup only if it does so by itself (`Bare.append_unmarked`, `Unmarked.append_bare`), so of a note
or a listing only what comes from the user counts: the path in a note, and in a listing the kind of
the documents, the names of the fields and what is shown of their examples (`Legible`).
-/

namespace SearchDesk.Cli

variable {s t : String}

/-! ## Texts without brackets -/

/-- No bracket opens in the text. -/
def Bare (s : String) : Prop := '[' ∉ s.toList

instance (s : String) : Decidable (Bare s) := inferInstanceAs (Decidable (_ ∉ _))

namespace Bare

theorem append (left : Bare s) (right : Bare t) : Bare (s ++ t) := by
  rw [Bare, String.toList_append, List.mem_append, not_or]
  exact ⟨left, right⟩

theorem intercalate {words : List String} (between : Bare s) (bare : ∀ w ∈ words, Bare w) :
    Bare (s.intercalate words) := by
  induction words with
  | nil => rw [String.intercalate_nil]; decide
  | cons w rest ih =>
    obtain ⟨first, others⟩ := List.forall_mem_cons.mp bare
    cases rest with
    | nil =>
      rw [String.intercalate_singleton]
      exact first
    | cons =>
      rw [String.intercalate_cons_cons]
      exact (first.append between).append (ih others)

theorem ofDigits (n : Nat) : Bare (String.ofList (Nat.toDigits 10 n)) := by
  intro mem
  rw [String.toList_ofList] at mem
  exact absurd (Nat.isDigit_of_mem_toDigits (by decide) (by decide) mem) (by decide)

theorem natRepr (n : Nat) : Bare (Nat.repr n) := by
  have digits := ofDigits n
  rwa [Bare, String.toList_ofList, ← Nat.toList_repr] at digits

end Bare

/-! ## Texts without closing markup -/

theorem Bare.unmarked (bare : Bare s) : Unmarked s :=
  fun closes => bare (closes.subset List.mem_cons_self)

/-- Two texts together close markup only if one of them does, or if one ends where a bracket opens
and the other goes on with a slash. -/
theorem Unmarked.append (left : Unmarked s) (right : Unmarked t)
    (apart : Bare s ∨ t.toList.head? ≠ some '/') : Unmarked (s ++ t) := by
  rw [Unmarked, String.toList_append, List.infix_append_iff]
  rintro (closes | closes | ⟨first, second, whole, ends, starts⟩)
  · exact left closes
  · exact right closes
  rcases List.cons_eq_append_iff.mp whole with ⟨rfl, rfl⟩ | ⟨rest, rfl, slash⟩
  · exact right starts.isInfix
  rcases List.cons_eq_append_iff.mp slash with ⟨rfl, rfl⟩ | ⟨rest, rfl, none⟩
  · -- the bracket is the end of `s`, and the slash the head of `t`
    rcases apart with bare | apart
    · exact bare (ends.subset List.mem_cons_self)
    · obtain ⟨rest, starts⟩ := starts
      rw [← starts] at apart
      exact apart rfl
  · obtain ⟨rfl, rfl⟩ := List.append_eq_nil_iff.mp none.symm
    exact left ends.isInfix

theorem Bare.append_unmarked (bare : Bare s) (unmarked : Unmarked t) : Unmarked (s ++ t) :=
  bare.unmarked.append unmarked (.inl bare)

theorem Unmarked.append_bare {words : String} {c : Char} (unmarked : Unmarked s)
    (bare : Bare (words ++ t)) (starts : words.toList.head? = some c) (apart : c ≠ '/') :
    Unmarked (s ++ (words ++ t)) := by
  refine unmarked.append bare.unmarked (.inr ?_)
  rw [String.toList_append, List.head?_append, starts]
  simpa using apart

/-- A screen on which no markup is open, so that it shows no text in which some is closed. -/
def Screen.strict : Screen where
  line text := if Unmarked text then .ok text else .error ⟨"closing tag doesn't match any open tag"⟩
  listing l :=
    if ∀ text ∈ cells l, Unmarked text then .ok l.line
    else .error ⟨"closing tag doesn't match any open tag"⟩

theorem Screen.showsUnmarked_strict : Screen.strict.ShowsUnmarked where
  line text unmarked := ⟨text, if_pos unmarked⟩
  listing l unmarked := ⟨l.line, if_pos unmarked⟩

/-! ## Notes -/

theorem bare_message {f : Json.ReadFault} (malformed : f.IsMalformed) : Bare f.message := by
  cases f with
  | malformed cause line column position =>
    have words : Bare cause.message := by cases cause <;> decide
    have inLine := (words.append (by decide : Bare ": line ")).append (.natRepr line)
    have inColumn := (inLine.append (by decide : Bare " column ")).append (.natRepr column)
    have atPosition := (inColumn.append (by decide : Bare " (char ")).append (.natRepr position)
    exact atPosition.append (by decide)
  | tooManyDigits => exact malformed.elim
  | loneHalf => exact malformed.elim

/-- Of the note on a text that is malformed only the path may close markup. -/
theorem unmarked_malformedNote {path : String} {f : Json.ReadFault} (named : Unmarked path)
    (malformed : f.IsMalformed) :
    Unmarked ("❌ Invalid JSON in " ++ path ++ ": " ++ f.message) := by
  have head : Bare "❌ Invalid JSON in " := by decide
  have tail : Bare (": " ++ f.message) := .append (by decide) (bare_message malformed)
  rw [String.append_assoc, String.append_assoc]
  exact head.append_unmarked (named.append_bare tail (by decide : _ = some ':') (by decide))

/-! ## Listings -/

/-- What a listing of the report would show of the documents closes no markup. -/
structure Legible (r : Schema.Report) : Prop where
  kinds : ∀ g ∈ r.groups, Unmarked g.kindName
  names : ∀ g ∈ r.groups, ∀ f ∈ g.fields, Unmarked f.name
  examples : ∀ g ∈ r.groups, ∀ f ∈ g.fields,
    Unmarked (Schema.preview Schema.exampleWidth f.exampleValue)

theorem bare_naturalText (n : Nat) : Bare (naturalText n) := .ofDigits n

theorem bare_percentText (x : Binary64) : Bare (percentText x) := by
  have percent : Bare "%" := by decide
  unfold percentText
  generalize x.hundredfold = y
  cases y with
  | nan =>
    have word : Bare (Layout.plain.render .nan) := by decide
    exact word.append percent
  | infinite negative =>
    have word : Bare (Layout.plain.render (.infinite negative)) := by cases negative <;> decide
    exact word.append percent
  | finite negative mantissa exponent =>
    dsimp only
    -- of the quotient only its digits matter, and it must not be computed
    generalize Binary64.rescale mantissa 1 (-exponent) = ratio
    obtain ⟨n, d⟩ := ratio
    have sign : Bare (if negative then "-" else "") := by cases negative <;> decide
    exact (sign.append (bare_naturalText _)).append percent

theorem bare_suggestionsText (f : Schema.Field) : Bare f.suggestionsText := by
  unfold Schema.Field.suggestionsText
  split
  · decide
  · refine .intercalate (by decide) fun name mem => ?_
    obtain ⟨t, -, rfl⟩ := List.mem_map.mp mem
    cases t <;> decide

theorem Legible.unmarked_of_mem_cells {r : Schema.Report} {g : Schema.Group} (legible : Legible r)
    (mem : g ∈ r.groups) : ∀ text ∈ cells g.listing, Unmarked text := by
  have title : Unmarked g.listing.title := by
    have count : Bare (" (" ++ (Nat.repr g.docCount ++ " documents)")) :=
      .append (by decide) (.append (.natRepr _) (by decide))
    show Unmarked (g.kindName ++ " (" ++ Nat.repr g.docCount ++ " documents)")
    rw [String.append_assoc, String.append_assoc]
    exact (legible.kinds g mem).append_bare count (by decide : _ = some ' ') (by decide)
  have columns : ∀ head ∈ g.listing.columns, Unmarked head := by
    have bare : ∀ head ∈ ["Field", "Type", "Frequency", "Suggested", "Example"], Bare head := by
      decide
    exact fun head mem => (bare head mem).unmarked
  have rows : ∀ f ∈ g.fields, ∀ text ∈ f.row, Unmarked text := by
    intro f field
    have kind : Bare f.kind.name := by cases f.kind <;> decide
    simp only [Schema.Field.row, List.forall_mem_cons]
    exact ⟨legible.names g mem f field, kind.unmarked, (bare_percentText _).unmarked,
      (bare_suggestionsText f).unmarked, legible.examples g mem f field, by simp⟩
  intro text among
  rcases List.mem_cons.mp among with rfl | among
  · exact title
  rcases List.mem_append.mp among with among | among
  · exact columns text among
  · obtain ⟨row, mem, among⟩ := List.mem_flatten.mp among
    obtain ⟨f, field, rfl⟩ := List.mem_map.mp mem
    exact rows f field text among

end SearchDesk.Cli
