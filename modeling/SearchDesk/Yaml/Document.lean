import SearchDesk.Yaml.Merge
import SearchDesk.Yaml.Scalar

/-!
# Documents

A `Document` holds what the nodes of a configuration text stand for. Like the nodes, its
collections name their parts by number, so that a collection may contain itself.

`Document.ofText` makes the document of a text:

* a scalar is given its value as soon as a collection names it, and a collection is filled
  when it is its turn, in the order in which collections are named. Of two faults the one
  that is met first counts;
* the keys of a mapping and of a set are scalars. A repeated key keeps its first place and
  its last value;
* an ordered mapping and a list of pairs are sequences of mappings with one pair;
* a mapping that has to be a scalar stands for the value of its key `=`.
-/

namespace SearchDesk.Yaml

/-- What a node stands for. -/
inductive Cell where
  | scalar (value : Scalar)
  | seq (items : List Nat)
  | map (pairs : List (Key × Nat))
  | set (keys : List Key)
  | pairs (entries : List (Nat × Nat))
deriving DecidableEq, Repr, Inhabited

/-- What the nodes of a text stand for, and the number of the outermost one. -/
structure Document where
  cells : Array Cell
  root : Nat
deriving DecidableEq, Repr, Inhabited

/-- Give a key a value: in place if the key is present, else at the end. -/
def putPair {α : Type} (key : Key) (value : α) : List (Key × α) → List (Key × α)
  | [] => [(key, value)]
  | (k, v) :: rest => if k.same key then (k, value) :: rest else (k, v) :: putPair key value rest

/-- The state of making a document. -/
structure Build where
  nodes : Nodes
  /-- What the nodes that were named so far stand for. -/
  cells : Array (Option Cell)
  /-- The collections that were named, in order. -/
  named : Array Nat := #[]
deriving Inhabited

/-- A step of making a document, which may find a fault. -/
abbrev BuildM := StateT Build (Except Fault)

namespace Build

/-- The text of a node that has to be a scalar. A mapping stands for the value of its first
key `=`. The first argument bounds the number of mappings. -/
def textOf (ns : Nodes) : Nat → Nat → Except Fault String
  | 0, _ => .error .endless
  | n + 1, id =>
    match (ns.node id).body with
    | .scalar text => .ok text
    | .seq _ => .error .malformed
    | .map pairs =>
      match pairs.find? fun p => ns.keyTag p = .value with
      | some (_, value) => textOf ns n value
      | none => .error .malformed

/-- The value of a node that has to be a scalar. -/
def scalarOf (ns : Nodes) (id : Nat) : Except Fault Scalar := do
  let text ← textOf ns (ns.size + 1) id
  match (ns.node id).tag with
  | .null => return .null
  | .bool => return .bool (← Scalar.truth text)
  | .int => return .int (← Scalar.integer text)
  | .float => return .float (← Scalar.number text)
  | .binary => return .bytes (← Scalar.binary text)
  | .timestamp =>
    match (ns.node id).body with
    | .map _ => throw .dateOfMapping
    | _ => return .date (← Scalar.date? text)
  | _ => return .str text

/-- What a collection with a tag is before it is filled; nothing for a scalar. -/
def emptyCell : Tag → Option Cell
  | .seq => some (.seq [])
  | .map => some (.map [])
  | .set => some (.set [])
  | .orderedMap => some (.pairs [])
  | .pairs => some (.pairs [])
  | _ => none

/-- Whether a tag has no value of its own. -/
def isValueless (t : Tag) : Bool := t = .merge || t = .value || t = .unknown

/-- Let a node stand for a cell. -/
def put (id : Nat) (cell : Cell) : BuildM Unit :=
  modify fun s => { s with cells := s.cells.setIfInBounds id (some cell) }

/-- Name a node: a scalar gets its value, and a collection will be filled later. -/
def name (id : Nat) : BuildM Unit := do
  let s ← get
  if (s.cells[id]?.getD none).isSome then return
  let tag := (s.nodes.node id).tag
  if isValueless tag then throw .malformed
  match emptyCell tag with
  | some cell =>
    put id cell
    modify fun s => { s with named := s.named.push id }
  | none => put id (.scalar (← scalarOf s.nodes id))

/-- The key that a node stands for; only a scalar can be a key. The word for what is no
number is one key, however often it occurs. -/
def key (id : Nat) : BuildM Key := do
  name id
  let s ← get
  match s.cells[id]?.getD none with
  | some (.scalar value) =>
    let isWord := match textOf s.nodes (s.nodes.size + 1) id with
      | .ok text => Scalar.isNanWord text
      | .error _ => false
    return ⟨value, if isWord then 0 else id + 1⟩
  | _ => throw .malformed

/-- The pairs of a mapping after merging; a repeated key keeps its first place. -/
def pairsOf (id : Nat) : BuildM (List (Key × Nat)) := do
  let s ← get
  if (s.nodes.pairs? id).isNone then throw .malformed
  let nodes ← s.nodes.merge id
  set { s with nodes := nodes }
  (nodes.pairs id).foldlM (fun found p => do
    let k ← key p.1
    name p.2
    return putPair k p.2 found) []

/-- The items of a sequence. -/
def itemsOf (id : Nat) : BuildM (List Nat) := do
  match ((← get).nodes.node id).body with
  | .seq items => return items
  | _ => throw .malformed

/-- The only pair of a mapping. -/
def onlyPair (id : Nat) : BuildM (Nat × Nat) := do
  match (← get).nodes.pairs? id with
  | some [p] =>
    name p.1
    name p.2
    return p
  | _ => throw .malformed

/-- What a collection with its parts is. -/
def filled (id : Nat) : BuildM Cell := do
  match ((← get).nodes.node id).tag with
  | .map => return .map (← pairsOf id)
  | .set => return .set ((← pairsOf id).map (·.1))
  | .seq =>
    let items ← itemsOf id
    items.forM name
    return .seq items
  | _ => return .pairs (← (← itemsOf id).mapM onlyPair)

/-- Fill the collections that were named, from the one with the given place on. The first
argument bounds their number. -/
def fillFrom : Nat → Nat → BuildM Unit
  | 0, _ => pure ()
  | n + 1, place => do
    match (← get).named[place]? with
    | none => pure ()
    | some id =>
      put id (← filled id)
      fillFrom n (place + 1)

end Build

namespace Document

/-- The document of the nodes of a text. -/
def ofGraph (g : Graph) : Except Fault Document := do
  let start : Build := { nodes := g.nodes, cells := g.nodes.map fun _ => none }
  let build : BuildM Unit := do
    Build.name g.root
    Build.fillFrom (g.nodes.size + 1) 0
  let (_, s) ← build.run start
  return ⟨s.cells.map fun c => c.getD (.scalar .null), g.root⟩

/-- The document of an empty text. -/
def empty : Document := ⟨#[.scalar .null], 0⟩

/-- The document that is a mapping without pairs. -/
def noPairs : Document := ⟨#[.map []], 0⟩

/-- The document of a configuration text. Escapes of the two halves of a character stand for that
character, and an escape of one half alone for the replacement character, since a text holds whole
characters only. -/
def ofText (text : String) : Except Fault Document := do
  match ← Graph.ofText text with
  | none => return empty
  | some g => ofGraph g

/-- What stands at a number. -/
def cell (d : Document) (id : Nat) : Cell := d.cells[id]?.getD (.scalar .null)

end Document

end SearchDesk.Yaml
