import SearchDesk.Proofs.Json.Everywhere
import SearchDesk.Proofs.Query.SimplifiedKeys

/-!
# Where the search for a simplified key looks

`usesSimplified` searches an object and what is below it. It goes on through the values of objects
and through the items of lists, but it does not enter a list that stands right inside a list.

* `InSight` relates a value to those that the search comes to, and `usedWithin_iff_showsSimplified`
  says that it finds exactly the objects in sight; the induction is over all values, since a member
  may hold a list;
* `inSight_or_nested` sorts out what the search misses: a value that stands somewhere in another is
  in sight, or it stands in a list right inside a list;
* `usesSimplified_finds_iff` says from this when the search answers for all descendants.
-/

namespace SearchDesk.Query

open Json (Occurs)

/-- The first value stands somewhere in the second one, and no list on the way to it stands right
inside a list. -/
inductive InSight (w : Json) : Json → Prop
  | here : InSight w w
  | item {v : Json} {items : List Json} (mem : v ∈ items) (entered : ∀ inner, v ≠ .arr inner)
      (inside : InSight w v) : InSight w (.arr items)
  | member {e : String × Json} {ms : Members} (mem : e ∈ ms) (inside : InSight w e.2) :
      InSight w (.obj ms)

/-- An object that stands somewhere in the value carries a simplified key. -/
def HoldsSimplified (v : Json) : Prop :=
  ∃ ms, Occurs (.obj ms) v ∧ hasSimplifiedKey ms = true

/-- An object in sight carries a simplified key. -/
def ShowsSimplified (v : Json) : Prop :=
  ∃ ms, InSight (.obj ms) v ∧ hasSimplifiedKey ms = true

/-- An object with a simplified key stands in a list that stands right inside a list in sight. -/
def HidesSimplified (v : Json) : Prop :=
  ∃ outer inner, InSight (.arr outer) v ∧ .arr inner ∈ outer ∧ HoldsSimplified (.arr inner)

/-! ## What the search finds -/

theorem showsSimplified_arr_iff (items : List Json) :
    ShowsSimplified (.arr items) ↔
      ∃ v ∈ items, (∀ inner, v ≠ .arr inner) ∧ ShowsSimplified v := by
  constructor
  · rintro ⟨ms, inSight, simplified⟩
    cases inSight with
    | item mem entered inside => exact ⟨_, mem, entered, ms, inside, simplified⟩
  · rintro ⟨v, mem, entered, ms, inside, simplified⟩
    exact ⟨ms, .item mem entered inside, simplified⟩

theorem showsSimplified_obj_iff (ms : Members) :
    ShowsSimplified (.obj ms) ↔ hasSimplifiedKey ms = true ∨ ∃ e ∈ ms, ShowsSimplified e.2 := by
  constructor
  · rintro ⟨ns, inSight, simplified⟩
    cases inSight with
    | here => exact .inl simplified
    | member mem inside => exact .inr ⟨_, mem, ns, inside, simplified⟩
  · rintro (simplified | ⟨e, mem, ns, inside, simplified⟩)
    · exact ⟨ms, .here, simplified⟩
    · exact ⟨ns, .member mem inside, simplified⟩

/-- In a value without parts no object is in sight. -/
theorem not_showsSimplified_of_no_parts {v : Json} (noArray : ∀ items, v ≠ .arr items)
    (noObject : ∀ ms, v ≠ .obj ms) : ¬ShowsSimplified v := by
  rintro ⟨ms, inSight, -⟩
  cases inSight with
  | here => exact noObject ms rfl
  | item => exact noArray _ rfl
  | member => exact noObject _ rfl

theorem usesSimplified_iff_usedWithin (v : Json) :
    usesSimplified v = true ↔ v.isObject = true ∧ UsedWithin v := by
  cases v <;> simp [usesSimplified, Json.isObject, UsedWithin]

/-- An item that is no list is searched, whether it is an object or not. -/
theorem usedWithin_of_no_list {v : Json} (noArray : ∀ items, v ≠ .arr items) :
    UsedWithin v ↔ usesSimplified v = true := by
  constructor
  · rintro (used | ⟨items, rfl, -⟩)
    · exact used
    · exact absurd rfl (noArray items)
  · exact .inl

/-- The search finds a simplified key in a value, or in an item of it, exactly if one is in
sight. -/
theorem usedWithin_iff_showsSimplified (v : Json) : UsedWithin v ↔ ShowsSimplified v := by
  have nothing : ∀ {v : Json}, (∀ items, v ≠ .arr items) → (∀ ms, v ≠ .obj ms) →
      usesSimplified v = false → (UsedWithin v ↔ ShowsSimplified v) := by
    intro v noArray noObject unused
    refine iff_of_false ?_ (not_showsSimplified_of_no_parts noArray noObject)
    rw [usedWithin_of_no_list noArray, unused]
    exact Bool.false_ne_true
  induction v with
  | null => exact nothing (by simp) (by simp) rfl
  | bool b => exact nothing (by simp) (by simp) rfl
  | int n => exact nothing (by simp) (by simp) rfl
  | float x => exact nothing (by simp) (by simp) rfl
  | str s => exact nothing (by simp) (by simp) rfl
  | arr items ih =>
    rw [usedWithin_arr_iff, showsSimplified_arr_iff]
    constructor
    · rintro ⟨v, mem, used⟩
      -- a list is no object, so the search ends there
      have entered : ∀ inner, v ≠ .arr inner := by
        rintro inner rfl
        cases used
      exact ⟨v, mem, entered, (ih v mem).mp (.inl used)⟩
    · rintro ⟨v, mem, entered, shows⟩
      exact ⟨v, mem, (usedWithin_of_no_list entered).mp ((ih v mem).mpr shows)⟩
  | obj ms ih =>
    rw [usedWithin_of_object rfl, usesSimplified, Bool.or_eq_true, someMemberUses_iff,
      showsSimplified_obj_iff]
    refine or_congr_right ⟨?_, ?_⟩
    · rintro ⟨e, mem, used⟩
      exact ⟨e, mem, (ih e mem).mp used⟩
    · rintro ⟨e, mem, shows⟩
      exact ⟨e, mem, (ih e mem).mpr shows⟩

theorem usesSimplified_iff_showsSimplified (v : Json) :
    usesSimplified v = true ↔ v.isObject = true ∧ ShowsSimplified v := by
  rw [usesSimplified_iff_usedWithin, usedWithin_iff_showsSimplified]

/-! ## What the search misses -/

theorem InSight.occurs {w v : Json} (inSight : InSight w v) : Occurs w v := by
  induction inSight with
  | here => exact .here
  | item mem _ _ ih => exact .item mem ih
  | member mem _ ih => exact .member mem ih

/-- A value that stands in another one is in sight, or it stands in a list that stands right
inside a list in sight. -/
theorem inSight_or_nested {w v : Json} (occurs : Occurs w v) :
    InSight w v ∨
      ∃ outer inner, InSight (.arr outer) v ∧ .arr inner ∈ outer ∧ Occurs w (.arr inner) := by
  induction occurs with
  | here => exact .inl .here
  | @item v items mem inside ih =>
    by_cases list : ∃ inner, v = .arr inner
    · -- the first list that is not entered
      obtain ⟨inner, rfl⟩ := list
      exact .inr ⟨items, inner, .here, mem, inside⟩
    · have entered : ∀ inner, v ≠ .arr inner := fun inner same => list ⟨inner, same⟩
      rcases ih with inSight | ⟨outer, inner, inSight, nested, within⟩
      · exact .inl (.item mem entered inSight)
      · exact .inr ⟨outer, inner, .item mem entered inSight, nested, within⟩
  | member mem _ ih =>
    rcases ih with inSight | ⟨outer, inner, inSight, nested, within⟩
    · exact .inl (.member mem inSight)
    · exact .inr ⟨outer, inner, .member mem inSight, nested, within⟩

theorem holdsSimplified_iff (v : Json) :
    HoldsSimplified v ↔ ShowsSimplified v ∨ HidesSimplified v := by
  constructor
  · rintro ⟨ms, occurs, simplified⟩
    rcases inSight_or_nested occurs with inSight | ⟨outer, inner, inSight, nested, within⟩
    · exact .inl ⟨ms, inSight, simplified⟩
    · exact .inr ⟨outer, inner, inSight, nested, ms, within, simplified⟩
  · rintro (⟨ms, inSight, simplified⟩ | ⟨outer, inner, inSight, nested, ms, within, simplified⟩)
    · exact ⟨ms, inSight.occurs, simplified⟩
    · exact ⟨ms, (Occurs.item nested within).trans inSight.occurs, simplified⟩

/-- Unless simplified keys stand only in lists right inside lists, one that stands anywhere is in
sight. -/
theorem showsSimplified_iff_holdsSimplified {v : Json}
    (seen : HidesSimplified v → ShowsSimplified v) : ShowsSimplified v ↔ HoldsSimplified v := by
  rw [holdsSimplified_iff]
  exact ⟨.inl, fun either => either.elim id seen⟩

/-! ## When the search answers for all descendants -/

/-- **Search for a simplified key.** The search is successful exactly for an object with a
simplified key in sight. So it answers for everything that stands in a value, whatever the nesting,
unless the value is an object whose only objects with a simplified key stand in lists right inside
lists. -/
theorem usesSimplified_finds_iff (v : Json) :
    (usesSimplified v = true ↔ v.isObject = true ∧ ShowsSimplified v) ∧
      ((usesSimplified v = true ↔ v.isObject = true ∧ HoldsSimplified v) ↔
        ¬(v.isObject = true ∧ HidesSimplified v ∧ ¬ShowsSimplified v)) := by
  have found := usesSimplified_iff_showsSimplified v
  refine ⟨found, ?_⟩
  rw [found, holdsSimplified_iff]
  constructor
  · rintro answers ⟨object, hides, unseen⟩
    exact unseen (answers.mpr ⟨object, .inr hides⟩).2
  · intro notMissed
    refine ⟨fun ⟨object, shows⟩ => ⟨object, .inl shows⟩, ?_⟩
    rintro ⟨object, shows | hides⟩
    · exact ⟨object, shows⟩
    · have seen : ShowsSimplified v := Classical.byContradiction fun unseen =>
        notMissed ⟨object, hides, unseen⟩
      exact ⟨object, seen⟩

/-- A negation in a list that stands right inside a list. -/
def nestedLists : Json := .obj [("ids", .arr [.arr [.str "a", .obj [("not", .obj [])]]])]

/-- The negation stands in the object, and the search does not find it. -/
theorem usesSimplified_misses_nestedLists :
    ¬(usesSimplified nestedLists = true ↔
      nestedLists.isObject = true ∧ HoldsSimplified nestedLists) := by
  have missed : usesSimplified nestedLists = false := by decide
  have held : HoldsSimplified nestedLists := by
    refine ⟨[("not", .obj [])], ?_, by decide⟩
    exact .member List.mem_cons_self (.item List.mem_cons_self
      (.item (List.mem_cons_of_mem _ List.mem_cons_self) .here))
  rw [missed]
  exact fun answers => Bool.false_ne_true (answers.mpr ⟨rfl, held⟩)

end SearchDesk.Query
