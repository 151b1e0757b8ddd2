import SearchDesk.Json.Basic

/-!
# Values up to the order of keys

`Reordered` relates two JSON values that are equal up to the order of the keys in their objects,
at every level: lists keep their order, and an object has the same keys in any order, each over a
value that is reordered in turn.

`ReorderedItems` and `ReorderedMembers` are the relation between the parts of lists and objects.
The operations on dictionaries respect it, `put` also where one object has the key already and
stands in another order: a key is replaced in place or added at the end, and neither shows.
-/

namespace SearchDesk

/-- Entries in another order are found under the same keys. -/
theorem Entries.get?_eq_of_perm {α : Type} {es fs : Entries α} (distinct : es.keys.Nodup)
    (perm : es.Perm fs) (key : String) : es.get? key = fs.get? key := by
  have distinct' : fs.keys.Nodup := (perm.map _).nodup_iff.mp distinct
  cases value : es.get? key with
  | none =>
    have absent : key ∉ es.keys := (Entries.get?_eq_none_iff key es).mp value
    refine ((Entries.get?_eq_none_iff key fs).mpr fun here => absent ?_).symm
    exact (perm.map _).mem_iff.mpr here
  | some v =>
    exact (Entries.get?_of_mem distinct' (perm.mem_iff.mp (Entries.mem_of_get? value))).symm

end SearchDesk

namespace SearchDesk.Json

/-- Two values that are equal up to the order of the keys of objects, at every level. -/
inductive Reordered : Json → Json → Prop
  | same (v : Json) : Reordered v v
  | arr {as bs : List Json} (length : as.length = bs.length)
      (items : ∀ (i : Nat) (a b : Json), as[i]? = some a → bs[i]? = some b → Reordered a b) :
      Reordered (.arr as) (.arr bs)
  | obj {ms ns : Members} (keys : ms.keys.Perm ns.keys)
      (values : ∀ (key : String) (v w : Json), ms.get? key = some v → ns.get? key = some w →
        Reordered v w) :
      Reordered (.obj ms) (.obj ns)

/-- Lists of values that are reordered item by item. -/
structure ReorderedItems (as bs : List Json) : Prop where
  length : as.length = bs.length
  items : ∀ (i : Nat) (a b : Json), as[i]? = some a → bs[i]? = some b → Reordered a b

/-- Members under the same keys, in any order, over reordered values. -/
structure ReorderedMembers (ms ns : Members) : Prop where
  keys : ms.keys.Perm ns.keys
  values : ∀ (key : String) (v w : Json), ms.get? key = some v → ns.get? key = some w →
    Reordered v w

theorem ReorderedItems.refl (as : List Json) : ReorderedItems as as where
  length := rfl
  items i a b atA atB := by
    rw [atA, Option.some.injEq] at atB
    exact atB ▸ .same a

theorem ReorderedMembers.refl (ms : Members) : ReorderedMembers ms ms where
  keys := .refl _
  values key v w value value' := by
    rw [value, Option.some.injEq] at value'
    exact value' ▸ .same v

theorem reordered_arr_iff {as bs : List Json} :
    Reordered (.arr as) (.arr bs) ↔ ReorderedItems as bs := by
  constructor
  · intro reordered
    cases reordered with
    | same => exact .refl as
    | arr length items => exact ⟨length, items⟩
  · rintro ⟨length, items⟩
    exact .arr length items

theorem reordered_obj_iff {ms ns : Members} :
    Reordered (.obj ms) (.obj ns) ↔ ReorderedMembers ms ns := by
  constructor
  · intro reordered
    cases reordered with
    | same => exact .refl ms
    | obj keys values => exact ⟨keys, values⟩
  · rintro ⟨keys, values⟩
    exact .obj keys values

/-! ## Lists -/

theorem ReorderedItems.map {f : Json → Json}
    (respects : ∀ v w, Reordered v w → Reordered (f v) (f w)) {as bs : List Json}
    (same : ReorderedItems as bs) : ReorderedItems (as.map f) (bs.map f) where
  length := by rw [List.length_map, List.length_map, same.length]
  items i a b atA atB := by
    rw [List.getElem?_map, Option.map_eq_some_iff] at atA atB
    obtain ⟨v, atV, rfl⟩ := atA
    obtain ⟨w, atW, rfl⟩ := atB
    exact respects v w (same.items i v w atV atW)

theorem ReorderedItems.singleton {v w : Json} (same : Reordered v w) : ReorderedItems [v] [w] where
  length := rfl
  items i a b atA atB := by
    cases i with
    | zero =>
      rw [List.getElem?_cons_zero, Option.some.injEq] at atA atB
      exact atA ▸ atB ▸ same
    | succ i => cases atA

/-- Something holds of an item of one list exactly if it does of an item of the other, if it holds
of the items in the same place together. -/
theorem exists_item_iff {P : Json → Prop} {as bs : List Json} (length : as.length = bs.length)
    (each : ∀ (i : Nat) (a b : Json), as[i]? = some a → bs[i]? = some b → (P a ↔ P b)) :
    (∃ a ∈ as, P a) ↔ ∃ b ∈ bs, P b := by
  constructor
  · rintro ⟨a, mem, holds⟩
    obtain ⟨i, inside, rfl⟩ := List.mem_iff_getElem.mp mem
    have atA : as[i]? = some as[i] := List.getElem?_eq_getElem inside
    have atB : bs[i]? = some bs[i] := List.getElem?_eq_getElem (length ▸ inside)
    exact ⟨_, List.mem_of_getElem? atB, (each i _ _ atA atB).mp holds⟩
  · rintro ⟨b, mem, holds⟩
    obtain ⟨i, inside, rfl⟩ := List.mem_iff_getElem.mp mem
    have atA : as[i]? = some as[i] := List.getElem?_eq_getElem (length ▸ inside)
    have atB : bs[i]? = some bs[i] := List.getElem?_eq_getElem inside
    exact ⟨_, List.mem_of_getElem? atA, (each i _ _ atA atB).mpr holds⟩

/-! ## Members -/

namespace ReorderedMembers

variable {ms ns : Members}

theorem get?_eq_none_iff (same : ReorderedMembers ms ns) (key : String) :
    ms.get? key = none ↔ ns.get? key = none := by
  rw [Entries.get?_eq_none_iff, Entries.get?_eq_none_iff, same.keys.mem_iff]

theorem has_eq (same : ReorderedMembers ms ns) (key : String) : ms.has key = ns.has key := by
  rw [Entries.has_iff_get?_isSome, Entries.has_iff_get?_isSome, Bool.eq_iff_iff,
    Option.isSome_iff_ne_none, Option.isSome_iff_ne_none, Ne, Ne, same.get?_eq_none_iff]

/-- A key is missing on both sides, or it has reordered values. -/
theorem get?_cases (same : ReorderedMembers ms ns) (key : String) :
    (ms.get? key = none ∧ ns.get? key = none) ∨
      ∃ v w, ms.get? key = some v ∧ ns.get? key = some w ∧ Reordered v w := by
  cases value : ms.get? key with
  | none => exact .inl ⟨rfl, (same.get?_eq_none_iff key).mp value⟩
  | some v =>
    cases value' : ns.get? key with
    | none =>
      rw [(same.get?_eq_none_iff key).mpr value'] at value
      cases value
    | some w => exact .inr ⟨v, w, rfl, rfl, same.values key v w value value'⟩

/-- As `exists_item_iff`, for the values under the keys. -/
theorem exists_value_iff {P : String → Json → Prop} (same : ReorderedMembers ms ns)
    (each : ∀ (key : String) (v w : Json), ms.get? key = some v → ns.get? key = some w →
      (P key v ↔ P key w)) :
    (∃ key v, ms.get? key = some v ∧ P key v) ↔ ∃ key w, ns.get? key = some w ∧ P key w := by
  constructor
  · rintro ⟨key, v, value, holds⟩
    rcases same.get?_cases key with ⟨missing, -⟩ | ⟨v', w, atV, atW, -⟩
    · rw [missing] at value
      cases value
    · obtain rfl := Option.some.inj (value.symm.trans atV)
      exact ⟨key, w, atW, (each key v w atV atW).mp holds⟩
  · rintro ⟨key, w, value, holds⟩
    rcases same.get?_cases key with ⟨-, missing⟩ | ⟨v, w', atV, atW, -⟩
    · rw [missing] at value
      cases value
    · obtain rfl := Option.some.inj (value.symm.trans atW)
      exact ⟨key, v, atV, (each key v w atV atW).mpr holds⟩

theorem erase (same : ReorderedMembers ms ns) (key : String) :
    ReorderedMembers (ms.erase key) (ns.erase key) where
  keys := by
    rw [Entries.keys_erase, Entries.keys_erase]
    exact same.keys.filter _
  values k v w value value' := by
    by_cases here : k = key
    · rw [here, Entries.get?_erase_self] at value
      cases value
    · rw [Entries.get?_erase_of_ne here] at value value'
      exact same.values k v w value value'

theorem put (same : ReorderedMembers ms ns) (key : String) {v w : Json} (reordered : Reordered v w) :
    ReorderedMembers (ms.put key v) (ns.put key w) where
  keys := by
    by_cases present : key ∈ ms.keys
    · rw [Entries.keys_put_of_mem present, Entries.keys_put_of_mem (same.keys.mem_iff.mp present)]
      exact same.keys
    · rw [Entries.keys_put_of_not_mem present,
        Entries.keys_put_of_not_mem fun present' => present (same.keys.mem_iff.mpr present')]
      exact same.keys.append_right _
  values k a b value value' := by
    by_cases here : k = key
    · rw [here, Entries.get?_put_self, Option.some.injEq] at value value'
      exact value ▸ value' ▸ reordered
    · rw [Entries.get?_put_of_ne here] at value value'
      exact same.values k a b value value'

theorem map {f : String → Json → Json}
    (respects : ∀ key v w, Reordered v w → Reordered (f key v) (f key w))
    (same : ReorderedMembers ms ns) :
    ReorderedMembers (ms.map fun e => (e.1, f e.1 e.2)) (ns.map fun e => (e.1, f e.1 e.2)) where
  keys := by
    rw [Entries.keys_map, Entries.keys_map]
    exact same.keys
  values key a b value value' := by
    rw [Entries.get?_map, Option.map_eq_some_iff] at value value'
    obtain ⟨v, atV, rfl⟩ := value
    obtain ⟨w, atW, rfl⟩ := value'
    exact respects key v w (same.values key v w atV atW)

/-- The members of an object in another order. -/
theorem of_perm (distinct : ms.keys.Nodup) (perm : ms.Perm ns) : ReorderedMembers ms ns where
  keys := perm.map _
  values key v w value value' := by
    rw [← Entries.get?_eq_of_perm distinct perm, value, Option.some.injEq] at value'
    exact value' ▸ .same v

end ReorderedMembers

end SearchDesk.Json
