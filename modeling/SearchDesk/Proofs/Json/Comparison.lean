import Mathlib.Data.List.Forall2
import SearchDesk.Proofs.Json.Reordered

/-!
# Ways to compare JSON values

`Comparison` says what every way to compare JSON values has in common, whether or not it heeds the
order of keys or tells numbers of the same value apart: null is like nothing else, lists that are
alike have the same length, and objects that are alike have the same keys and can be compared key
by key. Equality is a comparison, and so is equality up to the order of keys.

Objects over the same possible keys, some of which are missing, are then alike exactly if key by
key both lack the key or have values that are alike (`Comparison.obj_valued_iff`).
-/

namespace SearchDesk

/-- The entries that have a value. -/
def Entries.valued {α : Type} (es : Entries (Option α)) : Entries α :=
  es.filterMap fun e => e.2.map fun v => (e.1, v)

theorem Entries.keys_valued_subset {α : Type} (es : Entries (Option α)) :
    es.valued.keys ⊆ es.keys := by
  intro key mem
  simp only [keys, valued, List.mem_map, List.mem_filterMap, Option.map_eq_some_iff] at mem ⊢
  obtain ⟨-, ⟨e, mem, v, -, rfl⟩, rfl⟩ := mem
  exact ⟨e, mem, rfl⟩

end SearchDesk

namespace SearchDesk.Json

/-- What holds of every way to compare values. -/
structure Comparison (alike : Json → Json → Prop) : Prop where
  null_left : ∀ v, alike .null v ↔ v = .null
  null_right : ∀ v, alike v .null ↔ v = .null
  arr_nil : alike (.arr []) (.arr [])
  arr_length : ∀ {as bs}, alike (.arr as) (.arr bs) → as.length = bs.length
  obj_nil : alike (.obj []) (.obj [])
  obj_keys : ∀ {ms ns : Members}, alike (.obj ms) (.obj ns) → ∀ key, key ∈ ms.keys ↔ key ∈ ns.keys
  obj_cons : ∀ {key : String} {v w : Json} {ms ns : Members}, key ∉ ms.keys → key ∉ ns.keys →
    (alike (.obj ((key, v) :: ms)) (.obj ((key, w) :: ns)) ↔
      alike v w ∧ alike (.obj ms) (.obj ns))

theorem comparison_eq : Comparison (· = ·) where
  null_left _ := eq_comm
  null_right _ := Iff.rfl
  arr_nil := rfl
  arr_length same := congrArg List.length (Json.arr.inj same)
  obj_nil := rfl
  obj_keys same key := by rw [Json.obj.inj same]
  obj_cons _ _ := by simp

theorem comparison_reordered : Comparison Reordered where
  null_left v := by
    constructor
    · rintro ⟨⟩
      rfl
    · rintro rfl
      exact .same _
  null_right v := by
    constructor
    · rintro ⟨⟩
      rfl
    · rintro rfl
      exact .same _
  arr_nil := .same _
  arr_length reordered := (reordered_arr_iff.mp reordered).length
  obj_nil := .same _
  obj_keys reordered key := (reordered_obj_iff.mp reordered).keys.mem_iff
  obj_cons {key v w ms ns} fresh fresh' := by
    rw [reordered_obj_iff, reordered_obj_iff]
    constructor
    · rintro ⟨keys, values⟩
      refine ⟨values key v w (if_pos rfl) (if_pos rfl), keys.cons_inv, fun k a b atA atB => ?_⟩
      have apart : key ≠ k := by
        rintro rfl
        exact fresh (List.mem_map_of_mem (Entries.mem_of_get? atA))
      exact values k a b (by rwa [Entries.get?, if_neg apart]) (by rwa [Entries.get?, if_neg apart])
    · rintro ⟨reordered, keys, values⟩
      refine ⟨keys.cons key, fun k a b atA atB => ?_⟩
      by_cases own : key = k
      · rw [Entries.get?, if_pos own, Option.some.injEq] at atA atB
        exact atA ▸ atB ▸ reordered
      · rw [Entries.get?, if_neg own] at atA atB
        exact values k a b atA atB

namespace Comparison

variable {alike : Json → Json → Prop}

/-- Objects over the same possible keys are compared key by key. -/
theorem obj_valued_iff (comparison : Comparison alike) {es fs : Entries (Option Json)}
    (keys : es.keys = fs.keys) (distinct : es.keys.Nodup) :
    alike (.obj es.valued) (.obj fs.valued) ↔
      List.Forall₂ (fun e f => Option.Rel alike e.2 f.2) es fs := by
  induction es generalizing fs with
  | nil =>
    have none : fs = [] := List.map_eq_nil_iff.mp keys.symm
    rw [none]
    exact iff_of_true comparison.obj_nil .nil
  | cons e es ih =>
    obtain ⟨key, v⟩ := e
    cases fs with
    | nil => cases keys
    | cons f fs =>
      obtain ⟨key', w⟩ := f
      obtain ⟨rfl, later⟩ : key = key' ∧ Entries.keys es = Entries.keys fs := List.cons.inj keys
      obtain ⟨fresh, distinct⟩ : key ∉ Entries.keys es ∧ (Entries.keys es).Nodup :=
        List.nodup_cons.mp distinct
      have absent : key ∉ (Entries.valued es).keys := fun mem =>
        fresh (Entries.keys_valued_subset es mem)
      have absent' : key ∉ (Entries.valued fs).keys := fun mem =>
        fresh (later ▸ Entries.keys_valued_subset fs mem)
      rw [List.forall₂_cons, ← ih later distinct]
      cases v with
      | none =>
        cases w with
        | none => exact (and_iff_right .none).symm
        | some w =>
          refine iff_of_false (fun same => absent ?_) (by rintro ⟨⟨⟩, -⟩)
          exact (comparison.obj_keys same key).mpr List.mem_cons_self
      | some v =>
        cases w with
        | none =>
          refine iff_of_false (fun same => absent' ?_) (by rintro ⟨⟨⟩, -⟩)
          exact (comparison.obj_keys same key).mp List.mem_cons_self
        | some w =>
          have values : Option.Rel alike (some v) (some w) ↔ alike v w :=
            ⟨fun | .some same => same, .some⟩
          rw [values]
          exact comparison.obj_cons absent absent'

end Comparison

end SearchDesk.Json
