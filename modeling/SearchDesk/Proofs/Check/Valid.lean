import Mathlib.Data.List.Forall2
import SearchDesk.Check.Value

/-!
# Checks that find nothing wrong

When the outcome of a check is a valid value. A check is put together from smaller ones, and
there is one law for each way of doing that: a combined check is valid exactly if its parts
are, and the value is made from theirs.

* `seq_eq_valid_iff`, `map_eq_valid_iff`, `andThen_eq_valid_iff`, `under_eq_valid_iff` and
  `elements_eq_valid_iff` are the laws of `Checked`;
* `required_eq_valid_iff` and `defaulted_eq_valid_iff` are those of the fields of a record.
-/

namespace SearchDesk.Check

namespace Checked

variable {α β : Type}

theorem map_eq_valid_iff {f : α → β} {x : Checked α} {b : β} :
    f <$> x = .valid b ↔ ∃ a, x = .valid a ∧ f a = b := by
  show x.map f = .valid b ↔ _
  cases x <;> simp [map]

/-- Two checks side by side are valid if both are. -/
theorem seq_eq_valid_iff {f : Checked (α → β)} {x : Checked α} {b : β} :
    f <*> x = .valid b ↔ ∃ g a, f = .valid g ∧ x = .valid a ∧ g a = b := by
  show f.seq x = .valid b ↔ _
  cases f <;> cases x <;> simp [seq]

theorem andThen_eq_valid_iff {x : Checked α} {f : α → Checked β} {b : β} :
    x.andThen f = .valid b ↔ ∃ a, x = .valid a ∧ f a = .valid b := by
  cases x <;> simp [andThen]

/-- The place of a check has no influence on a valid value. -/
theorem under_eq_valid_iff {x : Checked α} {step : String} {a : α} :
    x.under step = .valid a ↔ x = .valid a := by
  cases x <;> simp [under]

/-- A list is valid if all its elements are. -/
theorem elements_eq_valid_iff {check : α → Checked β} {start : Nat} {items : List α}
    {values : List β} :
    elements check start items = .valid values ↔
      List.Forall₂ (fun a b => check a = .valid b) items values := by
  induction items generalizing start values with
  | nil => cases values <;> simp [elements]
  | cons a rest ih =>
    have head : elements check start (a :: rest) =
        ((check a).under (Nat.repr start)).map List.cons <*> elements check (start + 1) rest := rfl
    rw [head, seq_eq_valid_iff]
    constructor
    · rintro ⟨g, bs, first, later, rfl⟩
      obtain ⟨b, here, rfl⟩ := map_eq_valid_iff.mp first
      exact .cons (under_eq_valid_iff.mp here) (ih.mp later)
    · intro both
      cases both with
      | cons here later =>
        exact ⟨_, _, map_eq_valid_iff.mpr ⟨_, under_eq_valid_iff.mpr here, rfl⟩, ih.mpr later, rfl⟩

theorem exists_valid_of_mem {check : α → Checked β} {items : List α} {values : List β}
    (both : List.Forall₂ (fun a b => check a = .valid b) items values) {b : β}
    (here : b ∈ values) : ∃ a, check a = .valid b := by
  induction both with
  | nil => cases here
  | cons valid _ ih =>
    rcases List.mem_cons.mp here with rfl | later
    · exact ⟨_, valid⟩
    · exact ih later

end Checked

section
variable {α β : Type}

/-- A field that has to be present is valid if its value is there and valid. -/
theorem required_eq_valid_iff {name : FieldName} {check : α → Checked β} {ms : Entries α}
    {b : β} :
    required name check ms = .valid b ↔ ∃ v, name.find? ms = some v ∧ check v = .valid b := by
  rw [required, Checked.under_eq_valid_iff]
  cases name.find? ms <;> simp [Checked.fail]

/-- A field with a default is valid if its value is, or if it is missing. -/
theorem defaulted_eq_valid_iff {name : FieldName} {absent b : β} {check : α → Checked β}
    {ms : Entries α} :
    defaulted name absent check ms = .valid b ↔
      (∃ v, name.find? ms = some v ∧ check v = .valid b) ∨ name.find? ms = none ∧ absent = b := by
  rw [defaulted]
  cases name.find? ms <;> simp [Checked.under_eq_valid_iff]

end

/-- A list is read from its items. -/
theorem list_eq_valid_iff {β : Type} {check : Json → Checked β} {v : Json} {values : List β} :
    list check v = .valid values ↔
      ∃ items, v = .arr items ∧ List.Forall₂ (fun a b => check a = .valid b) items values := by
  cases v with
  | arr items =>
    show Checked.elements check 0 items = .valid values ↔ _
    rw [Checked.elements_eq_valid_iff]
    simp
  | _ => simp [list, viewJson, view, Checked.fail]

/-- A record is read from its members. -/
theorem record_eq_valid_iff {name : String} {v : Json} {ms : Members} :
    record name v = .valid ms ↔ v = .obj ms := by
  cases v <;> simp [record, viewJson, view, Checked.fail]

end SearchDesk.Check
