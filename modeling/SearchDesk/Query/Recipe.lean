import SearchDesk.Query.Build

/-!
# Recipes: queries built from data

A recipe is an object that names one of the sixteen forms of query and gives its parameters
by position and by name. A recipe inside a parameter stands for the query that it builds.
Under which keys a recipe holds its parts is up to the caller.

`Form` lists the forms with their parameters in order; `Form.build` builds a query from
the parameters, and `Recipe.resolve` replaces all recipes inside a value, the innermost
ones first.
-/

namespace SearchDesk.Query

/-- The forms of query. -/
inductive Form where
  | boolean | conjunction | dateRange | disjunction | docIds | fuzzy | geoBoundingBox
  | geoDistance | matchText | matchAll | matchNone | matchPhrase | numericRange | startsWith
  | queryString | term
deriving DecidableEq, Repr, Inhabited

namespace Form

/-- All forms. -/
def all : List Form :=
  [boolean, conjunction, dateRange, disjunction, docIds, fuzzy, geoBoundingBox, geoDistance,
    matchText, matchAll, matchNone, matchPhrase, numericRange, startsWith, queryString, term]

/-- The name of a form in a recipe. -/
def name : Form → String
  | boolean => "boolean"
  | conjunction => "conjunction"
  | dateRange => "date_range"
  | disjunction => "disjunction"
  | docIds => "doc_ids"
  | fuzzy => "fuzzy"
  | geoBoundingBox => "geo_bounding_box"
  | geoDistance => "geo_distance"
  | matchText => "match"
  | matchAll => "match_all"
  | matchNone => "match_none"
  | matchPhrase => "match_phrase"
  | numericRange => "numeric_range"
  | startsWith => "prefix"
  | queryString => "query_string"
  | term => "term"

/-- The form with a name. -/
def ofName? (name : String) : Option Form := all.find? fun f => f.name = name

/-- The parameters of a form, in order. -/
def parameters : Form → List String
  | boolean => ["must", "should", "must_not", "filter", "boost", "min_should_match"]
  | conjunction => ["queries"]
  | dateRange =>
    ["field", "start", "end", "inclusive_start", "inclusive_end", "datetime_parser", "boost"]
  | disjunction => ["queries", "min"]
  | docIds => ["ids", "boost"]
  | fuzzy => ["term", "field", "fuzziness", "prefix_length", "boost"]
  | geoBoundingBox => ["field", "bounds", "boost"]
  | geoDistance => ["field", "location", "distance", "boost"]
  | matchText =>
    ["match", "field", "analyzer", "boost", "prefix_length", "fuzziness", "operator"]
  | matchAll => ["boost"]
  | matchNone => ["boost"]
  | matchPhrase => ["match_phrase", "field", "analyzer", "boost", "fuzziness"]
  | numericRange => ["field", "min", "max", "inclusive_min", "inclusive_max", "boost"]
  | startsWith => ["prefix", "field", "boost"]
  | queryString => ["query", "boost"]
  | term => ["term", "field", "boost"]

/-- The query of a form, from the values of its parameters. -/
def build (form : Form) (value : String → Json) : Except BuildFault Json :=
  match form with
  | boolean =>
    Query.boolean {
      must := value "must", should := value "should", mustNot := value "must_not"
      filter := value "filter", boost := value "boost"
      minShouldMatch := value "min_should_match" }
  | conjunction => Query.conjunction (value "queries")
  | dateRange =>
    .ok (Query.dateRange (value "field") (value "start") (value "end") (value "inclusive_start")
      (value "inclusive_end") (value "datetime_parser") (value "boost"))
  | disjunction => Query.disjunction (value "queries") (value "min")
  | docIds => Query.docIds (value "ids") (value "boost")
  | fuzzy =>
    .ok (Query.fuzzy (value "term") (value "field") (value "fuzziness") (value "prefix_length")
      (value "boost"))
  | geoBoundingBox => Query.geoBoundingBox (value "field") (value "bounds") (value "boost")
  | geoDistance =>
    .ok (Query.geoDistance (value "field") (value "location") (value "distance") (value "boost"))
  | matchText =>
    .ok (Query.matchText (value "match") (value "field") (value "analyzer") (value "boost")
      (value "prefix_length") (value "fuzziness") (value "operator"))
  | matchAll => .ok (Query.matchAll (value "boost"))
  | matchNone => .ok (Query.matchNone (value "boost"))
  | matchPhrase =>
    .ok (Query.matchPhrase (value "match_phrase") (value "field") (value "analyzer")
      (value "boost") (value "fuzziness"))
  | numericRange =>
    .ok (Query.numericRange (value "field") (value "min") (value "max") (value "inclusive_min")
      (value "inclusive_max") (value "boost"))
  | startsWith => .ok (Query.startsWith (value "prefix") (value "field") (value "boost"))
  | queryString => .ok (Query.queryString (value "query") (value "boost"))
  | term => .ok (Query.term (value "term") (value "field") (value "boost"))

/-- The value of a parameter: the positional argument in its place, else the named one,
else null. -/
def argument (form : Form) (positional : List Json) (named : Members) (parameter : String) : Json :=
  match ((form.parameters.zip positional).find? fun p => p.1 = parameter) with
  | some (_, v) => v
  | none => (named.get? parameter).getD .null

/-- The query of a form, from positional and named arguments. -/
def apply (form : Form) (positional : List Json) (named : Members) : Except BuildFault Json :=
  form.build (form.argument positional named)

end Form

/-- The keys under which a recipe holds its parts. -/
structure RecipeKeys where
  form : String
  positional : String
  named : String
deriving DecidableEq, Repr, Inhabited

namespace Recipe

/-- The query of a recipe whose parameters are resolved; an unknown form leaves the object
as it is. -/
def finish (keys : RecipeKeys) (ms : Members) : Except BuildFault Json :=
  match ms.get? keys.form with
  | some (.str name) =>
    match Form.ofName? name with
    | some form =>
      let positional := ((ms.get? keys.positional).bind Json.elements?).getD []
      let named := match ms.get? keys.named with
        | some (.obj named) => named
        | _ => []
      form.apply positional named
    | none => .ok (.obj ms)
  | _ => .ok (.obj ms)

mutual

/-- The value with every recipe in it replaced by the query that it builds. -/
def resolve (keys : RecipeKeys) : Json → Except BuildFault Json
  | .arr items => do return .arr (← resolveItems keys items)
  | .obj members => do finish keys (← resolveMembers keys members)
  | v => .ok v

/-- `resolve` on every item. -/
def resolveItems (keys : RecipeKeys) : List Json → Except BuildFault (List Json)
  | [] => .ok []
  | v :: rest => do return (← resolve keys v) :: (← resolveItems keys rest)

/-- `resolve` on the value of every member. -/
def resolveMembers (keys : RecipeKeys) :
    List (String × Json) → Except BuildFault (List (String × Json))
  | [] => .ok []
  | (k, v) :: rest => do return (k, ← resolve keys v) :: (← resolveMembers keys rest)

end

end Recipe

end SearchDesk.Query
