import SearchDesk.Json.Basic

/-!
# Kinds of JSON values

The kind of a field is the kind of a value that it held. Null has no kind of its own and
counts as a string, and integers and floating-point numbers are one kind.
-/

namespace SearchDesk.Schema

/-- The kind of a JSON value. -/
inductive Kind where
  | string | number | boolean | object | array
deriving DecidableEq, Repr, Inhabited

namespace Kind

/-- All kinds, in the order in which messages list them. -/
def all : List Kind := [string, number, boolean, object, array]

/-- The name of a kind in a schema. -/
def name : Kind → String
  | string => "string"
  | number => "number"
  | boolean => "boolean"
  | object => "object"
  | array => "array"

/-- The kind with a name. -/
def ofName? (name : String) : Option Kind := all.find? fun k => k.name = name

/-- The kind that a value names. -/
def ofJson? : Json → Option Kind
  | .str s => ofName? s
  | _ => none

end Kind

/-- The kind of a value. -/
def classify : Json → Kind
  | .null => .string
  | .bool _ => .boolean
  | .int _ => .number
  | .float _ => .number
  | .str _ => .string
  | .arr _ => .array
  | .obj _ => .object

end SearchDesk.Schema
