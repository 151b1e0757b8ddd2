import SearchDesk.Json.Basic

/-!
# One level of a query tree

A boolean query is a JSON object whose form is decided by the compound key that it
carries. There are two dialects:

* the **simplified** dialect has `and`, `or` and `not`, and is what an agent writes;
* the **canonical** dialect has `conjuncts`, `disjuncts`, `must`, `should` and
  `must_not`, and is what the search engine reads.

`Node.ofJson` reads one level of an object into a `Node`. The children stay JSON, so
that whoever walks the tree decides how deep to go. Of several simplified keys in one
object `and` wins over `or`, and `or` over `not`; the other members are kept.
-/

namespace SearchDesk.Query

namespace Key

/-- The simplified conjunction. -/
def and : String := "and"
/-- The simplified disjunction. -/
def or : String := "or"
/-- The simplified negation. -/
def not : String := "not"
/-- The canonical conjunction. -/
def conjuncts : String := "conjuncts"
/-- The canonical disjunction. -/
def disjuncts : String := "disjuncts"
/-- The clause that has to hold. -/
def must : String := "must"
/-- The clause that may hold. -/
def should : String := "should"
/-- The clause that must not hold. -/
def mustNot : String := "must_not"

/-- The compound keys of the simplified dialect. -/
def simplified : List String := [and, or, not]

/-- The canonical keys whose value is a list of queries. -/
def lists : List String := [conjuncts, disjuncts]

/-- The canonical keys whose value is one query. -/
def clauses : List String := [must, should, mustNot]

/-- The compound keys of both dialects. -/
def structural : List String := simplified ++ lists ++ clauses

end Key

/-- One level of a query tree; the other members of a simplified node are its `extra`. -/
inductive Node where
  | empty
  | and (children : List Json) (extra : Members)
  | or (children : List Json) (extra : Members)
  | not (inner : Json) (extra : Members)
  | canonical (entries : Members)
deriving Inhabited

/-- The children of a list of queries; a value that is no array has none. -/
def childrenOf : Json → List Json
  | .arr items => items
  | _ => []

/-- One level of the members of an object. -/
def Node.ofMembers (ms : Members) : Node :=
  match ms.get? Key.and with
  | some v => .and (childrenOf v) (ms.erase Key.and)
  | none =>
    match ms.get? Key.or with
    | some v => .or (childrenOf v) (ms.erase Key.or)
    | none =>
      match ms.get? Key.not with
      | some v => .not v (ms.erase Key.not)
      | none => .canonical ms

/-- One level of a query tree; what is no object is empty. -/
def Node.ofJson : Json → Node
  | .obj ms => .ofMembers ms
  | _ => .empty

end SearchDesk.Query
