import SearchDesk.Yaml.Node

/-!
# Merging mappings

A key `<<` merges other mappings into its own: a mapping, or the mappings of a sequence.

* `Nodes.merge` takes the pairs with such a key out of a mapping and puts the pairs that
  they bring before all others. What is merged is merged itself before;
* of the mappings of a sequence the last one comes first, so that of two equal keys the one
  of the earlier mapping wins;
* a key `=` that is not used otherwise is a text.

A mapping may merge itself, directly or through others: each pair is taken out before what
it brings is looked at, so that merging comes to an end.
-/

namespace SearchDesk.Yaml

namespace Nodes

/-- The pairs of a mapping; nothing if the node is no mapping. -/
def pairs? (ns : Nodes) (id : Nat) : Option (List (Nat × Nat)) :=
  match (ns.node id).body with
  | .map pairs => some pairs
  | _ => none

/-- The pairs of a mapping; what is no mapping has none. -/
def pairs (ns : Nodes) (id : Nat) : List (Nat × Nat) := (ns.pairs? id).getD []

/-- The number of all pairs. -/
def pairCount (ns : Nodes) : Nat :=
  ns.foldl (fun count n => count + match n.body with
    | .map pairs => pairs.length
    | _ => 0) 0

/-- The tag of the key of a pair. -/
def keyTag (ns : Nodes) (p : Nat × Nat) : Tag := (ns.node p.1).tag

/-- The keys `=` of a mapping as texts. -/
def settleKeys (ns : Nodes) (id : Nat) : Nodes :=
  ((ns.pairs id).filter fun p => ns.keyTag p = .value).foldl (fun ns p => ns.setTag p.1 .str) ns

/-- Take the first pair that merges out of a mapping; gives what it merges. -/
def takeMerging (ns : Nodes) (id : Nat) : Option (Nat × Nodes) :=
  let before := (ns.pairs id).takeWhile fun p => ns.keyTag p ≠ .merge
  match (ns.pairs id).drop before.length with
  | [] => none
  | p :: after => some (p.2, ns.setBody id (.map (before ++ after)))

/-- The pairs of mappings, each of them merged before. -/
def bringAll (settle : Nodes → Nat → Except Fault Nodes) (ns : Nodes) :
    List Nat → Except Fault (List (List (Nat × Nat)) × Nodes)
  | [] => .ok ([], ns)
  | item :: rest =>
    if (ns.pairs? item).isNone then .error .malformed
    else do
      let ns ← settle ns item
      let part := ns.pairs item
      let (parts, ns) ← bringAll settle ns rest
      return (part :: parts, ns)

/-- The pairs that a source brings: a mapping, or the mappings of a sequence. -/
def bring (settle : Nodes → Nat → Except Fault Nodes) (ns : Nodes) (source : Nat) :
    Except Fault (List (Nat × Nat) × Nodes) :=
  match (ns.node source).body with
  | .map _ => do
    let ns ← settle ns source
    return (ns.pairs source, ns)
  | .seq items => do
    let (parts, ns) ← bringAll settle ns items
    return (parts.reverse.flatten, ns)
  | .scalar _ => .error .malformed

/-- Take out the pairs of a mapping that merge, one after the other; gives the pairs that
they bring. The first number bounds how many pairs are taken out. -/
def gather (settle : Nodes → Nat → Except Fault Nodes) :
    Nat → Nodes → Nat → Except Fault (List (Nat × Nat) × Nodes)
  | 0, ns, _ => .ok ([], ns)
  | n + 1, ns, id =>
    match ns.takeMerging id with
    | none => .ok ([], ns)
    | some (source, ns) => do
      let (first, ns) ← bring settle ns source
      let (rest, ns) ← gather settle n ns id
      return (first ++ rest, ns)

/-- Merge what a mapping asks for: take out the pairs that merge, and put what they bring
before the pairs that are left. The first number bounds how deep mappings are merged within
mappings. -/
def mergeWithin : Nat → Nodes → Nat → Except Fault Nodes
  | 0, _, _ => .error .malformed
  | n + 1, ns, id => do
    let (brought, ns) ← gather (mergeWithin n) (ns.pairs id).length ns id
    let ns := ns.settleKeys id
    return ns.setBody id (.map (brought ++ ns.pairs id))

/-- Merge what a mapping asks for. Each mapping within a mapping is looked at for a pair of
its own, so their depth is bounded by the number of pairs. -/
def merge (ns : Nodes) (id : Nat) : Except Fault Nodes := mergeWithin (ns.pairCount + 1) ns id

end Nodes

end SearchDesk.Yaml
