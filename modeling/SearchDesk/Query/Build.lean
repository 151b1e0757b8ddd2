import SearchDesk.Query.Canonical
import SearchDesk.Text.Quoted

/-!
# Constructors of canonical queries

One function for each form of query that the search engine knows, from the term query to
the boolean one. A parameter that is null is omitted, and field names and values are not
checked: the engine decides whether a query is valid.

* Leaves (`term`, `matchText`, `dateRange`, …) are objects of their attributes.
* `conjunction`, `disjunction` and `boolean` combine queries. A clause list of `boolean`
  that is empty is the same as none.

A parameter that has to be a list may be any value that a loop can visit; a value that
cannot be visited, and a bounding box without its corners, are faults.
-/

namespace SearchDesk.Query

/-- Why a query cannot be built. -/
inductive BuildFault where
  | notIterable (shape : Json.Shape)
  | notIndexable (shape : Json.Shape)
  | missingKey (key : String)
deriving DecidableEq, Repr

/-- The message for a fault. -/
def BuildFault.message : BuildFault → String
  | .notIterable shape => "'" ++ shape.name ++ "' object is not iterable"
  | .notIndexable .str => "string indices must be integers, not 'str'"
  | .notIndexable .arr => "list indices must be integers or slices, not str"
  | .notIndexable shape => "'" ++ shape.name ++ "' object is not subscriptable"
  | .missingKey key => quoted key

/-- The elements of a list parameter. -/
def listed (v : Json) : Except BuildFault (List Json) :=
  match v.elements? with
  | some vs => .ok vs
  | none => .error (.notIterable v.shape)

/-- A part of a parameter that has to be an object. -/
def part (key : String) (v : Json) : Except BuildFault Json :=
  match v with
  | .obj ms =>
    match Entries.get? key ms with
    | some w => .ok w
    | none => .error (.missingKey key)
  | _ => .error (.notIndexable v.shape)

/-- The attributes that are not null. -/
def present (attributes : List (String × Json)) : Members := attributes.filter fun a => !a.2.isNull

/-- An object of the attributes that are not null. -/
def compact (attributes : List (String × Json)) : Json := .obj (present attributes)

/-! ## Leaves -/

/-- A query in the syntax of query strings. -/
def queryString (query boost : Json) : Json := compact [("query", query), ("boost", boost)]

/-- An exact term. -/
def term (term field boost : Json) : Json :=
  compact [("term", term), ("field", field), ("boost", boost)]

/-- Analyzed text. -/
def matchText (text field analyzer boost prefixLength fuzziness operator : Json) : Json :=
  compact [("match", text), ("field", field), ("analyzer", analyzer), ("boost", boost),
    ("prefix_length", prefixLength), ("fuzziness", fuzziness), ("operator", operator)]

/-- A phrase. -/
def matchPhrase (phrase field analyzer boost fuzziness : Json) : Json :=
  compact [("match_phrase", phrase), ("field", field), ("analyzer", analyzer), ("boost", boost),
    ("fuzziness", fuzziness)]

/-- Terms that begin with a text. -/
def startsWith (text field boost : Json) : Json :=
  compact [("prefix", text), ("field", field), ("boost", boost)]

/-- A term with spelling errors allowed. -/
def fuzzy (term field fuzziness prefixLength boost : Json) : Json :=
  compact [("term", term), ("field", field), ("fuzziness", fuzziness),
    ("prefix_length", prefixLength), ("boost", boost)]

/-- A range of numbers; either bound may be left open. -/
def numericRange (field min max inclusiveMin inclusiveMax boost : Json) : Json :=
  compact [("field", field), ("min", min), ("max", max), ("inclusive_min", inclusiveMin),
    ("inclusive_max", inclusiveMax), ("boost", boost)]

/-- A range of dates; either bound may be left open. -/
def dateRange (field start stop inclusiveStart inclusiveStop parser boost : Json) : Json :=
  compact [("field", field), ("start", start), ("end", stop),
    ("inclusive_start", inclusiveStart), ("inclusive_end", inclusiveStop),
    ("datetime_parser", parser), ("boost", boost)]

/-- Every document. -/
def matchAll (boost : Json) : Json := compact [("match_all", .obj []), ("boost", boost)]

/-- No document. -/
def matchNone (boost : Json) : Json := compact [("match_none", .obj []), ("boost", boost)]

/-- Documents by their identifiers. -/
def docIds (ids boost : Json) : Except BuildFault Json := do
  let ids ← listed ids
  return compact [("ids", .arr ids), ("boost", boost)]

/-- Points within a distance of a place. -/
def geoDistance (field location distance boost : Json) : Json :=
  compact [("field", field), ("location", location), ("distance", distance), ("boost", boost)]

/-- Points within a box. -/
def geoBoundingBox (field bounds boost : Json) : Except BuildFault Json := do
  let topLeft ← part "top_left" bounds
  let bottomRight ← part "bottom_right" bounds
  return compact [("field", field), ("top_left", topLeft), ("bottom_right", bottomRight),
    ("boost", boost)]

/-! ## Compounds -/

/-- All of the queries. -/
def conjunctionOf (queries : List Json) : Json := .obj [(Key.conjuncts, .arr queries)]

/-- At least `min` of the queries. -/
def disjunctionOf (queries : List Json) (min : Json) : Json :=
  compact [(Key.disjuncts, .arr queries), ("min", min)]

/-- All of the queries. -/
def conjunction (queries : Json) : Except BuildFault Json := do
  return conjunctionOf (← listed queries)

/-- At least `min` of the queries; the engine has a default for null. -/
def disjunction (queries min : Json) : Except BuildFault Json := do
  return disjunctionOf (← listed queries) min

/-- The parameters of a boolean query. -/
structure Clauses where
  /-- The queries that all have to match. -/
  must : Json := .null
  /-- The queries of which some have to match. -/
  should : Json := .null
  /-- The queries that must not match. -/
  mustNot : Json := .null
  /-- A restriction that does not count for the score. -/
  filter : Json := .null
  /-- The weight of the whole query. -/
  boost : Json := .null
  /-- How many of the `should` queries have to match. -/
  minShouldMatch : Json := .null
deriving Inhabited

/-- A clause of a boolean query: nothing if the parameter is false. -/
def clause (key : String) (v : Json) (build : Json → Except BuildFault Json) :
    Except BuildFault Members :=
  if v.holds then do return [(key, ← build v)] else .ok []

/-- A boolean combination. Only clause lists that are not empty leave a member, so an empty
list and a missing one give the same query. -/
def boolean (c : Clauses) : Except BuildFault Json := do
  let must ← clause Key.must c.must conjunction
  let should ← clause Key.should c.should fun v => disjunction v c.minShouldMatch
  let mustNot ← clause Key.mustNot c.mustNot fun v => disjunction v .null
  return .obj (present [("boost", c.boost)] ++ must ++ should ++ mustNot
    ++ present [("filter", c.filter)])

end SearchDesk.Query
