import SearchDesk.Check.View
import SearchDesk.Json.Printer
import SearchDesk.Text.Utf8
import SearchDesk.Yaml.Document

/-!
# The values of a configuration text

A `Value` is a document written out as a tree.

* `Document.valueTo` writes a document out to a given depth, which can always be done;
* `Document.value` writes out all of it, unless a collection contains itself;
* `Value.toJson` is a value as JSON, and the checks see values through `Viewable`.
-/

namespace SearchDesk.Yaml

open Check (View Viewable)

/-- A configuration value. -/
inductive Value where
  | scalar (value : Scalar)
  | seq (items : List Value)
  | map (pairs : List (Scalar × Value))
  | set (keys : List Scalar)
deriving Inhabited, Repr

/-! ## Writing documents out -/

namespace Document

/-- The value at a number, to a depth; collections that lie deeper are shown empty. -/
def valueTo (d : Document) : Nat → Nat → Value
  | 0, id =>
    match d.cell id with
    | .scalar v => .scalar v
    | .set keys => .set (keys.map (·.value))
    | .map _ => .map []
    | _ => .seq []
  | n + 1, id =>
    match d.cell id with
    | .scalar v => .scalar v
    | .set keys => .set (keys.map (·.value))
    | .map pairs => .map (pairs.map fun p => (p.1.value, d.valueTo n p.2))
    | .seq items => .seq (items.map (d.valueTo n))
    | .pairs entries => .seq (entries.map fun p => .seq [d.valueTo n p.1, d.valueTo n p.2])

/-- The numbers of the parts of a cell. -/
def parts (d : Document) (id : Nat) : List Nat :=
  match d.cell id with
  | .map pairs => pairs.map (·.2)
  | .seq items => items
  | .pairs entries => entries.flatMap fun p => [p.1, p.2]
  | _ => []

/-- Whether the value at a number has at most the given depth. -/
def endsWithin (d : Document) : Nat → Nat → Bool
  | 0, id => (d.parts id).isEmpty
  | n + 1, id => (d.parts id).all (d.endsWithin n)

/-- The value of a document. One that is deeper than it has cells contains itself. -/
def value (d : Document) : Except Fault Value :=
  let bound := d.cells.size
  if d.endsWithin bound d.root then .ok (d.valueTo bound d.root) else .error .circular

end Document

/-! ## Values as JSON -/

/-- A scalar as JSON: a date as its text, and bytes as the text that they encode. -/
def Scalar.toJson : Scalar → Json
  | .null => .null
  | .bool b => .bool b
  | .int n => .int n
  | .float x => .float x
  | .str s => .str s
  | .bytes bs => .str ((decodeUtf8 bs).toOption.getD "")
  | .date t => .str t.text

/-- A scalar as the key of a JSON object. -/
def Scalar.keyText (v : Scalar) : String :=
  match v.toJson with
  | .str s => s
  | j => j.writeScalar

mutual

/-- A value as JSON. -/
def Value.toJson : Value → Json
  | .scalar s => s.toJson
  | .seq items => .arr (itemsJson items)
  | .map pairs => .obj (pairsJson pairs)
  | .set keys => .arr (keys.map Scalar.toJson)

/-- The items of a sequence as JSON. -/
def itemsJson : List Value → List Json
  | [] => []
  | v :: rest => v.toJson :: itemsJson rest

/-- The pairs of a mapping as JSON. -/
def pairsJson : List (Scalar × Value) → List (String × Json)
  | [] => []
  | (k, v) :: rest => (k.keyText, v.toJson) :: pairsJson rest

end

/-! ## Values in checks -/

namespace Value

/-- The truth of a value in a condition. -/
def holds : Value → Bool
  | .scalar s => s.holds
  | .seq items => !items.isEmpty
  | .map pairs => !pairs.isEmpty
  | .set keys => !keys.isEmpty

/-- The word for the kind of a value in messages. -/
def typeName : Value → String
  | .scalar s => s.typeName
  | .seq _ => "list"
  | .map _ => "dict"
  | .set _ => "set"

/-- The pairs whose keys are texts. -/
def named (pairs : List (Scalar × Value)) : Entries Value :=
  pairs.filterMap fun p =>
    match p.1 with
    | .str name => some (name, p.2)
    | _ => none

/-- What a check sees of a value. -/
def view : Value → View Value
  | .scalar .null => .other
  | .scalar (.bool b) => .bool b
  | .scalar (.int n) => .int n
  | .scalar (.float x) => .float x
  | .scalar (.str s) => .text s
  | .scalar (.bytes bs) => .bytes bs
  | .scalar (.date _) => .other
  | .seq items => .list items
  | .map pairs => .record (named pairs)
  | .set keys => .list (keys.map .scalar)

instance : Viewable Value := ⟨view⟩

end Value

end SearchDesk.Yaml
