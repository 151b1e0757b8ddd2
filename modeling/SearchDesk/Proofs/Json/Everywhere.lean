import SearchDesk.Json.Basic

/-!
# Values inside a value

* `induction` passes from the items of an array and the members of an object to the whole;
* `Occurs` is the relation between a value and those that it is made of, itself among them;
* `Everywhere P` says that all of them have a property, and is taken apart by `everywhere_arr_iff`
  and `everywhere_obj_iff`;
* `Inherited P` says that a property passes from a value to its parts, and `inherited_levels` that
  a bound of the levels does.
-/

namespace SearchDesk.Json

/-- What holds of values without parts and passes from the parts of a value to the whole holds of
all values. -/
@[elab_as_elim, induction_eliminator]
theorem induction {motive : Json → Prop} (null : motive .null) (bool : ∀ b, motive (.bool b))
    (int : ∀ n, motive (.int n)) (float : ∀ x, motive (.float x)) (str : ∀ s, motive (.str s))
    (arr : ∀ items, (∀ v ∈ items, motive v) → motive (.arr items))
    (obj : ∀ ms, (∀ e ∈ ms, motive e.2) → motive (.obj ms)) (v : Json) : motive v :=
  match v with
  | .null => null
  | .bool b => bool b
  | .int n => int n
  | .float x => float x
  | .str s => str s
  | .arr items => arr items fun v _ => induction null bool int float str arr obj v
  | .obj ms => obj ms fun e _ => induction null bool int float str arr obj e.2
termination_by v
decreasing_by
  · have := List.sizeOf_lt_of_mem ‹v ∈ items›
    simp only [Json.arr.sizeOf_spec]
    omega
  · have := List.sizeOf_lt_of_mem ‹e ∈ ms›
    cases e
    simp only [Json.obj.sizeOf_spec, Prod.mk.sizeOf_spec] at *
    omega

/-- The first value stands somewhere in the second one. -/
inductive Occurs (w : Json) : Json → Prop
  | here : Occurs w w
  | item {v : Json} {items : List Json} (mem : v ∈ items) (inside : Occurs w v) :
      Occurs w (.arr items)
  | member {e : String × Json} {ms : Members} (mem : e ∈ ms) (inside : Occurs w e.2) :
      Occurs w (.obj ms)

/-- What stands in a value stands wherever the value does. -/
theorem Occurs.trans {u v w : Json} (inner : Occurs u w) (outer : Occurs w v) : Occurs u v := by
  induction outer with
  | here => exact inner
  | item mem _ ih => exact .item mem ih
  | member mem _ ih => exact .member mem ih

/-- All values in a value have a property. -/
def Everywhere (P : Json → Prop) (v : Json) : Prop := ∀ w, Occurs w v → P w

variable {P : Json → Prop}

theorem Everywhere.self {v : Json} (all : Everywhere P v) : P v := all v .here

theorem everywhere_arr_iff {items : List Json} :
    Everywhere P (.arr items) ↔ P (.arr items) ∧ ∀ v ∈ items, Everywhere P v := by
  constructor
  · intro all
    exact ⟨all.self, fun v mem w inside => all w (.item mem inside)⟩
  · rintro ⟨own, each⟩ w inside
    cases inside with
    | here => exact own
    | item mem inside => exact each _ mem w inside

theorem everywhere_obj_iff {ms : Members} :
    Everywhere P (.obj ms) ↔ P (.obj ms) ∧ ∀ e ∈ ms, Everywhere P e.2 := by
  constructor
  · intro all
    exact ⟨all.self, fun e mem w inside => all w (.member mem inside)⟩
  · rintro ⟨own, each⟩ w inside
    cases inside with
    | here => exact own
    | member mem inside => exact each _ mem w inside

/-- In a value without parts there is nothing but the value. -/
theorem everywhere_of_no_parts {v : Json} (noArray : ∀ items, v ≠ .arr items)
    (noObject : ∀ ms, v ≠ .obj ms) (own : P v) : Everywhere P v := by
  intro w inside
  cases inside with
  | here => exact own
  | item => exact absurd rfl (noArray _)
  | member => exact absurd rfl (noObject _)

/-! ## Properties that parts inherit -/

/-- The property passes from a value to its parts, and null has it. -/
structure Inherited (P : Json → Prop) : Prop where
  null : P .null
  item : ∀ {items : List Json} {v : Json}, P (.arr items) → v ∈ items → P v
  member : ∀ {ms : Members} {e : String × Json}, P (.obj ms) → e ∈ ms → P e.2

theorem levels_le_itemLevels {items : List Json} {v : Json} (mem : v ∈ items) :
    v.levels ≤ itemLevels items := by
  induction items with
  | nil => cases mem
  | cons w rest ih =>
    rcases List.mem_cons.mp mem with rfl | later
    · exact Nat.le_max_left ..
    · exact Nat.le_trans (ih later) (Nat.le_max_right ..)

theorem levels_le_memberLevels {ms : Members} {e : String × Json} (mem : e ∈ ms) :
    e.2.levels ≤ memberLevels ms := by
  induction ms with
  | nil => cases mem
  | cons w rest ih =>
    rcases List.mem_cons.mp mem with rfl | later
    · exact Nat.le_max_left ..
    · exact Nat.le_trans (ih later) (Nat.le_max_right ..)

/-- A part has fewer levels than the whole. -/
theorem inherited_levels {bound : Nat} (some : 1 ≤ bound) : Inherited fun v => v.levels ≤ bound where
  null := some
  item within mem := by
    have fewer := levels_le_itemLevels mem
    simp only [levels] at within
    omega
  member within mem := by
    have fewer := levels_le_memberLevels mem
    simp only [levels] at within
    omega

end SearchDesk.Json
