import SearchDesk.Query.Node
import SearchDesk.Number.Layout

/-!
# The canonical form of a query

`canonicalize` turns a tree in either dialect, or a mixture of both, into the canonical
one:

* `and` becomes `conjuncts` and `or` becomes `disjuncts`, child by child;
* `not` becomes `must_not` over a disjunction with one element, because the engine
  expects a negation as an excluded disjunction;
* canonical compounds keep their keys, and what is below them becomes canonical;
* every other member is copied.

It never fails. What is no object becomes an empty one, and so does every node beyond
the ceiling; the rest of the tree is kept. Each such loss leaves a `Notice`, in the
order in which the tree is walked.

The walk is bounded by the number of levels that are left, so it is a recursion on that
number.
-/

namespace SearchDesk.Query

/-- What the canonical form leaves out. -/
inductive Notice where
  | truncated (depth ceiling : Int)
  | dropped (shape : Json.Shape)
deriving DecidableEq, Repr

/-- The message of a notice. -/
def Notice.message : Notice → String
  | .truncated depth ceiling =>
    "Query tree truncated at depth " ++ integerText depth ++ " (max " ++ integerText ceiling ++ ")"
  | .dropped shape => "Dropping non-object query node of type " ++ shape.name

/-- A value together with the notices that its making left. -/
structure Noted (α : Type) where
  value : α
  notices : List Notice

namespace Noted

/-- Change the value and keep the notices. -/
def map {α β : Type} (f : α → β) (x : Noted α) : Noted β := ⟨f x.value, x.notices⟩

/-- Many values, with the notices of all of them in order. -/
def collect {α : Type} (xs : List (Noted α)) : Noted (List α) :=
  ⟨xs.map (·.value), xs.flatMap (·.notices)⟩

@[simp] theorem value_map {α β : Type} (f : α → β) (x : Noted α) :
    (x.map f).value = f x.value := rfl

@[simp] theorem notices_map {α β : Type} (f : α → β) (x : Noted α) :
    (x.map f).notices = x.notices := rfl

@[simp] theorem value_collect {α : Type} (xs : List (Noted α)) :
    (collect xs).value = xs.map (·.value) := rfl

@[simp] theorem notices_collect {α : Type} (xs : List (Noted α)) :
    (collect xs).notices = xs.flatMap (·.notices) := rfl

end Noted

/-- The empty query. -/
def emptyQuery : Json := .obj []

/-- The negation of a canonical query. -/
def negation (q : Json) : Json := .obj [(Key.disjuncts, .arr [q])]

/-- The notices for a node that is no object; null is left out silently. -/
def dropNotices (node : Json) : List Notice :=
  if node.isNull then [] else [.dropped node.shape]

/-- One member of a canonical node, given the canonical form of the queries below it. -/
def canonicalEntry (form : Json → Noted Json) (entry : String × Json) :
    Noted (String × Json) :=
  match entry with
  | (key, value) =>
    if key ∈ Key.clauses then (form value).map fun q => (key, q)
    else
      match value with
      | .arr items =>
        if key ∈ Key.lists then
          (Noted.collect (items.map form)).map fun qs => (key, .arr qs)
        else ⟨entry, []⟩
      | _ => ⟨entry, []⟩

/-- The canonical form of a tree of which `levels` levels lie within the ceiling. -/
def canonicalForm (ceiling : Int) : Nat → Json → Noted Json
  | 0, _ => ⟨emptyQuery, [.truncated (ceiling + 1) ceiling]⟩
  | levels + 1, node =>
    match Node.ofJson node with
    | .empty => ⟨emptyQuery, dropNotices node⟩
    | .and children extra =>
      (Noted.collect (children.map (canonicalForm ceiling levels))).map fun qs =>
        .obj (extra.put Key.conjuncts (.arr qs))
    | .or children extra =>
      (Noted.collect (children.map (canonicalForm ceiling levels))).map fun qs =>
        .obj (extra.put Key.disjuncts (.arr qs))
    | .not inner extra =>
      (canonicalForm ceiling levels inner).map fun q => .obj (extra.put Key.mustNot (negation q))
    | .canonical entries =>
      (Noted.collect (entries.map (canonicalEntry (canonicalForm ceiling levels)))).map .obj

/-- The number of levels from a depth down to the ceiling. -/
def levelsLeft (depth ceiling : Int) : Nat := (ceiling + 1 - depth).toNat

/-- The canonical form of a tree whose root stands at the given depth, with the notices. -/
def canonicalizeNoted (depth ceiling : Int) (node : Json) : Noted Json :=
  if ceiling < depth then ⟨emptyQuery, [.truncated depth ceiling]⟩
  else canonicalForm ceiling (levelsLeft depth ceiling) node

/-- The canonical form of a tree whose root stands at the given depth. -/
def canonicalize (depth ceiling : Int) (node : Json) : Json :=
  (canonicalizeNoted depth ceiling node).value

/-! ## Levels -/

theorem levelsLeft_eq_zero_iff (depth ceiling : Int) :
    levelsLeft depth ceiling = 0 ↔ ceiling < depth := by
  unfold levelsLeft
  omega

/-- One level below the ceiling there is one level less. -/
theorem levelsLeft_succ {depth ceiling : Int} (h : depth ≤ ceiling) :
    levelsLeft depth ceiling = levelsLeft (depth + 1) ceiling + 1 := by
  unfold levelsLeft
  omega

/-- A node one level below the ceiling, or above it, is treated as a root at its depth. -/
theorem canonicalForm_levelsLeft {depth ceiling : Int} (h : depth ≤ ceiling + 1) (node : Json) :
    canonicalForm ceiling (levelsLeft depth ceiling) node
      = canonicalizeNoted depth ceiling node := by
  unfold canonicalizeNoted
  by_cases beyond : ceiling < depth
  · have atEdge : depth = ceiling + 1 := by omega
    rw [if_pos beyond, (levelsLeft_eq_zero_iff depth ceiling).mpr beyond, atEdge, canonicalForm]
  · rw [if_neg beyond]

end SearchDesk.Query
