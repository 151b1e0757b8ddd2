import SearchDesk.Json.Basic

/-!
# What a check sees of a value

Records are checked in JSON documents and in configuration files, whose values are of
different types. A check looks at a value through its `View`, so that the same rules hold
for both. A text may be given as bytes; what is none of the forms below is `other`.
-/

namespace SearchDesk.Check

/-- What a check sees of a value whose parts are of the given type. -/
inductive View (α : Type) where
  | other
  | bool (value : Bool)
  | int (value : Int)
  | float (value : Binary64)
  | text (value : String)
  | bytes (value : List UInt8)
  | list (items : List α)
  | record (members : Entries α)

/-- Values that can be checked. -/
class Viewable (α : Type) where
  /-- What a check sees of a value. -/
  view : α → View α

export Viewable (view)

/-- What a check sees of a JSON value. -/
def viewJson : Json → View Json
  | .null => .other
  | .bool b => .bool b
  | .int n => .int n
  | .float x => .float x
  | .str s => .text s
  | .arr items => .list items
  | .obj members => .record members

instance : Viewable Json := ⟨viewJson⟩

end SearchDesk.Check
