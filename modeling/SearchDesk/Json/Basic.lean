import SearchDesk.Entries
import SearchDesk.Number.Binary64

/-!
# JSON values

A JSON value whose objects keep the order of their members and whose numbers are either
integers of any size or 64-bit floating-point numbers, which stay apart.

* `Members` are the members of an object, an ordered dictionary;
* `Json.Shape` is the kind of a value as messages name it;
* `Json.holds` is the truth of a value in a condition, and `Json.elements?` are the
  elements that a loop over the value visits.

`Json.DistinctKeys` says that no object anywhere in the value repeats a key; the reader
of JSON text yields such values only.
-/

namespace SearchDesk

/-- A JSON value. -/
inductive Json where
  | null
  | bool (value : Bool)
  | int (value : Int)
  | float (value : Binary64)
  | str (value : String)
  | arr (items : List Json)
  | obj (members : List (String × Json))
deriving Inhabited, Repr

/-- The members of an object, in order. -/
abbrev Members := Entries Json

namespace Json

/-- The kind of a value as messages name it. -/
inductive Shape where
  | null | bool | int | float | str | arr | obj
deriving DecidableEq, Repr

/-- The word for a kind of value in messages. -/
def Shape.name : Shape → String
  | .null => "NoneType"
  | .bool => "bool"
  | .int => "int"
  | .float => "float"
  | .str => "str"
  | .arr => "list"
  | .obj => "dict"

/-- The kind of a value. -/
def shape : Json → Shape
  | .null => .null
  | .bool _ => .bool
  | .int _ => .int
  | .float _ => .float
  | .str _ => .str
  | .arr _ => .arr
  | .obj _ => .obj

/-- Whether the value is null. -/
def isNull : Json → Bool
  | .null => true
  | _ => false

/-- Whether the value is an object. -/
def isObject : Json → Bool
  | .obj _ => true
  | _ => false

/-- The truth of a value in a condition: null, false, zero and everything empty is false. -/
def holds : Json → Bool
  | .null => false
  | .bool b => b
  | .int n => n ≠ 0
  | .float x => !x.isZero
  | .str s => s ≠ ""
  | .arr items => !items.isEmpty
  | .obj members => !members.isEmpty

/-- The elements that a loop over the value visits: the items of an array, the keys of an
object, the characters of a text. -/
def elements? : Json → Option (List Json)
  | .arr items => some items
  | .obj members => some (members.map fun m => .str m.1)
  | .str s => some (s.toList.map fun c => .str (String.singleton c))
  | _ => none

mutual

/-- The value with every number that is not finite replaced by null. -/
def finiteOnly : Json → Json
  | .float x => if x.isFinite then .float x else .null
  | .arr items => .arr (finiteItems items)
  | .obj members => .obj (finiteMembers members)
  | v => v

/-- `finiteOnly` on every item. -/
def finiteItems : List Json → List Json
  | [] => []
  | v :: rest => finiteOnly v :: finiteItems rest

/-- `finiteOnly` on the value of every member. -/
def finiteMembers : List (String × Json) → List (String × Json)
  | [] => []
  | (k, v) :: rest => (k, finiteOnly v) :: finiteMembers rest

end

mutual

/-- The number of levels of a value: one for what has no parts, and one more for what has. -/
def levels : Json → Nat
  | .arr items => itemLevels items + 1
  | .obj members => memberLevels members + 1
  | _ => 1

/-- The most levels of an item. -/
def itemLevels : List Json → Nat
  | [] => 0
  | v :: rest => max (levels v) (itemLevels rest)

/-- The most levels of the value of a member. -/
def memberLevels : List (String × Json) → Nat
  | [] => 0
  | (_, v) :: rest => max (levels v) (memberLevels rest)

end

mutual

/-- Whether two values are the same: same numbers as data, same members in the same order. -/
def same : Json → Json → Bool
  | .null, .null => true
  | .bool a, .bool b => a = b
  | .int a, .int b => a = b
  | .float a, .float b => a = b
  | .str a, .str b => a = b
  | .arr as, .arr bs => sameItems as bs
  | .obj as, .obj bs => sameMembers as bs
  | _, _ => false

/-- `same` item by item. -/
def sameItems : List Json → List Json → Bool
  | [], [] => true
  | a :: as, b :: bs => same a b && sameItems as bs
  | _, _ => false

/-- `same` member by member, keys included. -/
def sameMembers : List (String × Json) → List (String × Json) → Bool
  | [], [] => true
  | (k, a) :: as, (l, b) :: bs => k = l && same a b && sameMembers as bs
  | _, _ => false

end

mutual

/-- No object in the value repeats a key. -/
def DistinctKeys : Json → Prop
  | .arr items => DistinctItems items
  | .obj members => (members.map (·.1)).Nodup ∧ DistinctMembers members
  | _ => True

/-- `DistinctKeys` of every item. -/
def DistinctItems : List Json → Prop
  | [] => True
  | v :: rest => DistinctKeys v ∧ DistinctItems rest

/-- `DistinctKeys` of the value of every member. -/
def DistinctMembers : List (String × Json) → Prop
  | [] => True
  | (_, v) :: rest => DistinctKeys v ∧ DistinctMembers rest

end

theorem distinctKeys_of_mem_items {items : List Json} (distinct : DistinctItems items) {v : Json}
    (h : v ∈ items) : v.DistinctKeys := by
  induction items with
  | nil => cases h
  | cons w rest ih =>
    rcases List.mem_cons.mp h with rfl | later
    · exact distinct.1
    · exact ih distinct.2 later

theorem distinctKeys_of_mem_members {ms : Members} (distinct : DistinctMembers ms) {key : String}
    {v : Json} (h : (key, v) ∈ ms) : v.DistinctKeys := by
  induction ms with
  | nil => cases h
  | cons e rest ih =>
    rcases List.mem_cons.mp h with rfl | later
    · exact distinct.1
    · exact ih distinct.2 later

end Json

end SearchDesk
