import SearchDesk.Proofs.Buckets
import SearchDesk.Schema.Detection

/-!
# What a tally knows

The tallies of a walk, described without the walk. `Tally.ofValues` is the tally of a name
from the list of its values, and the loop invariant is `foldl_add`: after any number of
entries there is one tally for each name, in the order in which the names were first seen,
and it is the tally of the values that the entries gave to the name.

`foldl_addDocument` says the same of whole documents, for which the values of a name come
from the documents that have it (`valuesOf`).
-/

namespace SearchDesk.Schema

/-- The values of a field, document by document. -/
def valuesOf (name : String) (docs : List Members) : List Json :=
  docs.filterMap fun doc => doc.get? name

/-- The names that occur in some documents, in the order in which they are first seen. -/
def namesOf (docs : List Members) : List String := (docs.flatMap Entries.keys).eraseDups

namespace Tally

/-- The tally of a name from its values in order. -/
def ofValues (name : String) (vs : List Json) : Tally where
  name := name
  kind := classify (vs.head?.getD .null)
  exampleValue := (vs.find? fun v => !v.isNull).getD .null
  count := vs.length

@[simp] theorem ofValues_name (name : String) (vs : List Json) : (ofValues name vs).name = name :=
  rfl

/-- The values that entries give to a name. -/
def entryValues (name : String) (es : Members) : List Json :=
  (es.filter fun e => e.1 = name).map (·.2)

theorem entryValues_append (name : String) (es fs : Members) :
    entryValues name (es ++ fs) = entryValues name es ++ entryValues name fs := by
  simp [entryValues]

theorem entryValues_singleton_self (name : String) (v : Json) :
    entryValues name [(name, v)] = [v] := by
  simp [entryValues]

theorem entryValues_singleton_of_ne {name other : String} (h : name ≠ other) (v : Json) :
    entryValues other [(name, v)] = [] := by
  simp [entryValues, h]

theorem entryValues_eq_nil_iff (name : String) (es : Members) :
    entryValues name es = [] ↔ name ∉ Entries.keys es := by
  rw [entryValues, List.map_eq_nil_iff, List.filter_eq_nil_iff]
  constructor
  · intro none mem
    obtain ⟨e, here, rfl⟩ := List.mem_map.mp mem
    exact none e here (by simp)
  · intro absent e here same
    exact absent (List.mem_map.mpr ⟨e, here, by simpa using same⟩)

/-! ## One more value -/

theorem isNull_iff (v : Json) : v.isNull = true ↔ v = .null := by
  cases v <;> simp [Json.isNull]

/-- The first value that is not null, of values and further values. -/
theorem example_append (vs ws : List Json) :
    ((vs ++ ws).find? fun v => !v.isNull).getD .null =
      if ((vs.find? fun v => !v.isNull).getD .null).isNull then
        (ws.find? fun v => !v.isNull).getD .null
      else (vs.find? fun v => !v.isNull).getD .null := by
  rw [List.find?_append]
  cases found : vs.find? fun v => !v.isNull with
  | some w =>
    have notNull : w.isNull = false := by simpa using List.find?_some found
    simp [notNull]
  | none => rfl

theorem example_singleton (v : Json) : (([v].find? fun v => !v.isNull).getD .null) = v := by
  cases null : v.isNull with
  | true =>
    obtain rfl := (isNull_iff v).mp null
    rfl
  | false => simp [null]

theorem ofValues_singleton (name : String) (v : Json) : ofValues name [v] = first name v := by
  rw [ofValues, example_singleton]
  rfl

theorem ofValues_concat (name : String) {vs : List Json} (h : vs ≠ []) (v : Json) :
    ofValues name (vs ++ [v]) = (ofValues name vs).again v := by
  have sameFirst : (vs ++ [v]).head? = vs.head? := List.head?_append_of_ne_nil vs h
  rw [ofValues, again, sameFirst, example_append, example_singleton, List.length_append]
  rfl

/-- Tallies are buckets of values under their names. -/
theorem add_eq_upsert (name : String) (v : Json) :
    add name v = Buckets.upsert Tally.name name (first name v) fun t => t.again v := by
  funext tallies
  induction tallies with
  | nil => rfl
  | cons t rest ih => rw [add, ih, Buckets.upsert]

/-! ## Many values -/

theorem keys_flatten (docs : List Members) :
    Entries.keys docs.flatten = docs.flatMap Entries.keys :=
  List.map_flatten

/-- One tally for each name, in first-seen order, of the values that the entries give it. -/
theorem foldl_add (es : Members) :
    es.foldl (fun acc e => add e.1 e.2 acc) [] =
      (Entries.keys es).eraseDups.map fun n => ofValues n (entryValues n es) := by
  have further : ∀ (n : String) (es : Members) (e : String × Json), es ≠ [] →
      ofValues n ((es ++ [e]).map (·.2)) = (ofValues n (es.map (·.2))).again e.2 := by
    intro n es e some
    rw [List.map_append, List.map_singleton, ofValues_concat n (mt List.map_eq_nil_iff.mp some)]
  simp only [add_eq_upsert]
  exact Buckets.foldl_upsert (fun e t => t.again e.2) (fun n es => ofValues n (es.map (·.2)))
    (fun n _ => ofValues_name n _) (fun e => ofValues_singleton e.1 e.2) further es

/-! ## Documents -/

/-- A document gives at most one value to a name. -/
theorem entryValues_of_nodup (name : String) {doc : Members} (distinct : doc.keys.Nodup) :
    entryValues name doc = (doc.get? name).toList := by
  induction doc with
  | nil => rfl
  | cons e rest ih =>
    obtain ⟨k, v⟩ := e
    obtain ⟨fresh, distinct'⟩ := List.nodup_cons.mp distinct
    have split : entryValues name ((k, v) :: rest) =
        entryValues name [(k, v)] ++ entryValues name rest :=
      entryValues_append name [(k, v)] rest
    rw [split, Entries.get?]
    by_cases same : k = name
    · subst same
      rw [if_pos rfl, entryValues_singleton_self, (entryValues_eq_nil_iff k rest).mpr fresh]
      rfl
    · rw [if_neg same, entryValues_singleton_of_ne same, List.nil_append, ih distinct']

/-- The values that all entries of the documents give to a name. -/
theorem entryValues_flatten (name : String) {docs : List Members}
    (distinct : ∀ doc ∈ docs, doc.keys.Nodup) :
    entryValues name docs.flatten = valuesOf name docs := by
  induction docs with
  | nil => rfl
  | cons doc rest ih =>
    obtain ⟨here, later⟩ := List.forall_mem_cons.mp distinct
    rw [List.flatten_cons, entryValues_append, entryValues_of_nodup name here, ih later, valuesOf,
      valuesOf, List.filterMap_cons]
    cases doc.get? name <;> rfl

/-- Leaving out entries by name does not change the values of the other names. -/
theorem entryValues_filter (p : String → Bool) {name : String} (holds : p name = true)
    (es : Members) : entryValues name (es.filter fun e => p e.1) = entryValues name es := by
  rw [entryValues, entryValues, List.filter_filter]
  congr 1
  refine List.filter_congr fun e _ => ?_
  by_cases same : e.1 = name <;> simp [same, holds]

/-- The tallies of documents: one for each name that is counted, in first-seen order. -/
theorem foldl_addDocument_eq_map (rules : Rules) (docs : List Members) :
    docs.foldl (addDocument rules) [] =
      ((namesOf docs).filter fun n => !rules.excludes n).map fun n =>
        ofValues n (entryValues n docs.flatten) := by
  have all : docs.foldl (addDocument rules) [] =
      (docs.flatten.filter fun e => !rules.excludes e.1).foldl
        (fun acc e => add e.1 e.2 acc) [] := by
    rw [List.foldl_filter, List.foldl_flatten]
    refine List.foldl_ext _ _ _ fun seen doc _ => List.foldl_ext _ _ _ fun acc e _ => ?_
    cases rules.excludes e.1 <;> rfl
  have names : Entries.keys (docs.flatten.filter fun e => !rules.excludes e.1) =
      (docs.flatMap Entries.keys).filter fun n => !rules.excludes n := by
    rw [← keys_flatten, Entries.keys, Entries.keys, List.filter_map]
    rfl
  rw [all, foldl_add, names, Order.eraseDups_filter, namesOf]
  refine List.map_congr_left fun n hn => ?_
  rw [entryValues_filter (fun n => !rules.excludes n) (List.mem_filter.mp hn).2]

/-- A document that repeats no name gives it one value. -/
theorem foldl_addDocument (rules : Rules) {docs : List Members}
    (distinct : ∀ doc ∈ docs, doc.keys.Nodup) :
    docs.foldl (addDocument rules) [] =
      ((namesOf docs).filter fun n => !rules.excludes n).map fun n =>
        ofValues n (valuesOf n docs) := by
  rw [foldl_addDocument_eq_map]
  refine List.map_congr_left fun n _ => ?_
  rw [entryValues_flatten n distinct]

end Tally

end SearchDesk.Schema
