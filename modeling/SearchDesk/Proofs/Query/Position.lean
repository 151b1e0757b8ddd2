import SearchDesk.Proofs.Query.Level

/-!
# Positions in a query and in its canonical form

Which queries canonicalization reaches below a root, and where it puts their canonical
forms:

* a `Step` leads from an object to a query right below it, an item of a list or the value
  of a clause, and `Reaches` follows steps;
* a `Place` is a step into any JSON value, and `Json.at?` follows places;
* `Step.places` are the places of the canonical form that answer to a step of the query;
* `formValue_at?` is the induction over paths: the form has at the places of a path the form
  of the query that the path leads to, with as many levels less as the path has steps.
-/

namespace SearchDesk

/-- A step into a JSON value. -/
inductive Json.Place where
  | member (key : String)
  | item (index : Nat)
deriving DecidableEq, Repr

/-- The value at the end of some places. -/
def Json.at? : List Json.Place → Json → Option Json
  | [], v => some v
  | .member key :: rest, .obj ms => (Entries.get? key ms).bind (Json.at? rest)
  | .item index :: rest, .arr items => items[index]?.bind (Json.at? rest)
  | _, _ => none

theorem Json.at?_append (first second : List Json.Place) (v : Json) :
    v.at? (first ++ second) = (v.at? first).bind (Json.at? second) := by
  induction first generalizing v with
  | nil => simp [Json.at?]
  | cons place rest ih =>
    cases place with
    | member key =>
      cases v <;> simp only [List.cons_append, Json.at?, Option.bind_none]
      rw [Option.bind_assoc]
      exact Option.bind_congr fun w _ => ih w
    | item index =>
      cases v <;> simp only [List.cons_append, Json.at?, Option.bind_none]
      rw [Option.bind_assoc]
      exact Option.bind_congr fun w _ => ih w

namespace Query

/-- A step from a query to one right below it. -/
inductive Step where
  | item (key : String) (index : Nat)
  | clause (key : String)
deriving DecidableEq, Repr

/-- The places of the canonical form that answer to a step of the query. -/
def Step.places : Step → List Json.Place
  | .item key index => [.member (Key.target key), .item index]
  | .clause key =>
    if key = Key.not then [.member Key.mustNot, .member Key.disjuncts, .item 0]
    else [.member key]

/-- The places of the canonical form that answer to a path of the query. -/
def places (path : List Step) : List Json.Place := path.flatMap Step.places

/-- Canonicalization of the first query goes on along the path to the second one. -/
inductive Reaches : Json → List Step → Json → Prop
  | here (q : Json) : Reaches q [] q
  | item {ms : Members} {key : String} {index : Nat} {items : List Json} {q target : Json}
      {path : List Step} (opens : Opens ms key) (kind : key ∈ Key.itemwise)
      (value : ms.get? key = some (.arr items)) (at_index : items[index]? = some q)
      (onward : Reaches q path target) : Reaches (.obj ms) (.item key index :: path) target
  | clause {ms : Members} {key : String} {q target : Json} {path : List Step}
      (opens : Opens ms key) (kind : key ∈ Key.single) (value : ms.get? key = some q)
      (onward : Reaches q path target) : Reaches (.obj ms) (.clause key :: path) target

section
variable (form : Json → Json) {ms : Members} {key : String} (opens : Opens ms key)
include opens

/-- The form of an item of a list stands in the list of the form. -/
theorem at?_places_item (kind : key ∈ Key.itemwise) {items : List Json} {q : Json} {index : Nat}
    (value : ms.get? key = some (.arr items)) (at_index : items[index]? = some q) :
    (Json.obj (formMembers form ms)).at? (Step.item key index).places = some (form q) := by
  have target := get?_formMembers_target form opens value
  rw [changed_items form kind] at target
  simp [Step.places, Json.at?, target, at_index]

/-- The form of the value of a clause stands under the clause, for `not` inside a disjunction. -/
theorem at?_places_clause (kind : key ∈ Key.single) {q : Json} (value : ms.get? key = some q) :
    (Json.obj (formMembers form ms)).at? (Step.clause key).places = some (form q) := by
  have target := get?_formMembers_target form opens value
  rw [changed_clause form kind] at target
  by_cases negated : key = Key.not
  · subst negated
    have same : Key.target Key.not = Key.mustNot := by decide
    rw [same, if_pos rfl] at target
    simp [Step.places, Json.at?, target, negation, Entries.get?]
  · have same : Key.target key = key :=
      (by decide : ∀ k ∈ Key.single, k ≠ Key.not → Key.target k = k) key kind negated
    rw [same, if_neg negated] at target
    simp [Step.places, negated, Json.at?, target]

end

/-- The form of a query has at the places of a path the form of the query that the path
leads to. -/
theorem formValue_at? (ceiling : Int) {root target : Json} {path : List Step}
    (reaches : Reaches root path target) :
    ∀ levels, path.length ≤ levels →
      (formValue ceiling levels root).at? (places path) =
        some (formValue ceiling (levels - path.length) target) := by
  -- the levels are general, since every step of the path takes one
  induction reaches with
  | here q =>
    intro levels _
    rfl
  | item opens kind value at_index _ ih =>
    intro levels long
    rw [List.length_cons] at long ⊢
    obtain ⟨n, rfl⟩ : ∃ n, levels = n + 1 := ⟨levels - 1, by omega⟩
    rw [places, List.flatMap_cons, Json.at?_append, formValue_obj,
      at?_places_item _ opens kind value at_index, Option.bind_some, Nat.add_sub_add_right]
    exact ih n (by omega)
  | clause opens kind value _ ih =>
    intro levels long
    rw [List.length_cons] at long ⊢
    obtain ⟨n, rfl⟩ : ∃ n, levels = n + 1 := ⟨levels - 1, by omega⟩
    rw [places, List.flatMap_cons, Json.at?_append, formValue_obj,
      at?_places_clause _ opens kind value, Option.bind_some, Nat.add_sub_add_right]
    exact ih n (by omega)

/-- What is reached one level below the ceiling, or above it, is canonicalized as a root at its
own depth. -/
theorem canonicalize_at? {depth ceiling : Int} {root target : Json} {path : List Step}
    (reaches : Reaches root path target) (within : depth + path.length ≤ ceiling + 1) :
    (canonicalize depth ceiling root).at? (places path) =
      some (canonicalize (depth + path.length) ceiling target) := by
  have long : path.length ≤ levelsLeft depth ceiling := by
    unfold levelsLeft
    omega
  have rest :
      levelsLeft depth ceiling - path.length = levelsLeft (depth + path.length) ceiling := by
    unfold levelsLeft
    omega
  rw [canonicalize_eq_formValue, formValue_at? ceiling reaches _ long, rest,
    ← canonicalize_eq_formValue]

end Query

end SearchDesk
