import SearchDesk.Proofs.Query.Position

/-!
# Queries inside a query

What a query that canonicalization reaches has to do with the tree around it:

* a step names a place of the query (`Step.origin`) and answers to places of the canonical form
  (`Step.places`); `canonicalize_along_path` follows both at once, and finds every list of the
  form as long as the list that it comes from;
* `replaceAt` puts another query in the place of one that is reached. If the two have the same
  form there, the form of the whole stays the same (`canonicalize_replaceAt`).

Paths only go where canonicalization goes, so nothing is said of the members that it copies.
-/

namespace SearchDesk.Query

/-! ## The two ends of a path -/

/-- The places of the query that a step goes through. -/
def Step.origin : Step → List Json.Place
  | .item key index => [.member key, .item index]
  | .clause key => [.member key]

/-- The places of the query that a path goes through. -/
def origins (path : List Step) : List Json.Place := path.flatMap Step.origin

/-- Some places of the form of an object hold the list of the forms of these queries: the items
of a list of the object, or the one query of its negation. -/
inductive Lists (ms : Members) : List Json.Place → List Json → Prop
  | items {key : String} {items : List Json} (opens : Opens ms key) (kind : key ∈ Key.itemwise)
      (value : ms.get? key = some (.arr items)) : Lists ms [.member (Key.target key)] items
  | negated {q : Json} (opens : Opens ms Key.not) (value : ms.get? Key.not = some q) :
      Lists ms [.member Key.mustNot, .member Key.disjuncts] [q]

theorem Reaches.at?_origins {root target : Json} {path : List Step}
    (reaches : Reaches root path target) : root.at? (origins path) = some target := by
  induction reaches with
  | here q => rfl
  | item opens kind value at_index _ ih =>
    rw [origins, List.flatMap_cons, Json.at?_append]
    simpa [Step.origin, Json.at?, value, at_index, origins] using ih
  | clause opens kind value _ ih =>
    rw [origins, List.flatMap_cons, Json.at?_append]
    simpa [Step.origin, Json.at?, value, origins] using ih

theorem Lists.at?_formMembers (form : Json → Json) {ms : Members} {list : List Json.Place}
    {qs : List Json} (lists : Lists ms list qs) :
    (Json.obj (formMembers form ms)).at? list = some (.arr (qs.map form)) := by
  cases lists with
  | items opens kind value =>
    have target := get?_formMembers_target form opens value
    rw [changed_items form kind] at target
    simp [Json.at?, target]
  | negated opens value =>
    have target := get?_formMembers_target form opens value
    rw [changed_clause form (by decide), if_pos rfl] at target
    have same : Key.target Key.not = Key.mustNot := by decide
    rw [same] at target
    simp [Json.at?, target, negation, Entries.get?]

/-- **Composition.** Let a path go from a root through objects within the ceiling. The form of
the root has at the places of the path the form of the query at its end, made at the depth of
that query. Every list that is opened on the way becomes the list of the forms of its items, in
their order, and every negation a list with one form. -/
theorem canonicalize_along_path {depth ceiling : Int} {root target : Json} {path : List Step}
    (reaches : Reaches root path target) (start : depth ≤ ceiling)
    (within : ∀ before, before <+: path → before ≠ path → depth + before.length ≤ ceiling) :
    root.at? (origins path) = some target ∧
      (canonicalize depth ceiling root).at? (places path) =
        some (canonicalize (depth + path.length) ceiling target) ∧
      ∀ (before : List Step) (ms : Members) (list : List Json.Place) (qs : List Json),
        before <+: path → Reaches root before (.obj ms) → depth + before.length ≤ ceiling →
        Lists ms list qs →
          (canonicalize depth ceiling root).at? (places before ++ list) =
            some (.arr (qs.map (canonicalize (depth + before.length + 1) ceiling))) := by
  have short : depth + path.length ≤ ceiling + 1 := by
    cases empty : path with
    | nil =>
      rw [List.length_nil]
      omega
    | cons step rest =>
      -- the longest proper prefix leaves out the last step only
      have last := within path.dropLast (List.dropLast_prefix path) (by
        intro same
        have := congrArg List.length same
        rw [List.length_dropLast, empty, List.length_cons] at this
        omega)
      rw [List.length_dropLast, empty, List.length_cons] at last
      rw [List.length_cons]
      omega
  refine ⟨reaches.at?_origins, canonicalize_at? reaches short, ?_⟩
  intro before ms list qs _ there inside lists
  rw [Json.at?_append, canonicalize_at? there (by omega), Option.bind_some,
    canonicalize_obj inside]
  exact lists.at?_formMembers _

/-- A clause, a negation and a conjunction, one inside the other, with a child that is no query. -/
def nestedTree : Json :=
  .obj [("must", .obj [("not", .obj [("and", .arr [.int 5, .obj [("or", .arr [])]]),
    ("boost", .int 2)])])]

/-- The path ends one level below the ceiling, where the form is empty. -/
theorem canonicalize_along_path_nestedTree :
    let path : List Step := [.clause Key.must, .clause Key.not, .item Key.and 1]
    Reaches nestedTree path (.obj [("or", .arr [])]) ∧ (0 : Int) ≤ 2 ∧
      (∀ before, before <+: path → before ≠ path → (0 : Int) + before.length ≤ 2) ∧
      nestedTree.at? (origins path) = some (.obj [("or", .arr [])]) ∧
      (canonicalize 0 2 nestedTree).at? (places path) =
        some (canonicalize (0 + path.length) 2 (.obj [("or", .arr [])])) ∧
      ∀ (before : List Step) (ms : Members) (list : List Json.Place) (qs : List Json),
        before <+: path → Reaches nestedTree before (.obj ms) → (0 : Int) + before.length ≤ 2 →
        Lists ms list qs →
          (canonicalize 0 2 nestedTree).at? (places before ++ list) =
            some (.arr (qs.map (canonicalize (0 + before.length + 1) 2))) := by
  intro path
  have reaches : Reaches nestedTree path (.obj [("or", .arr [])]) :=
    .clause (by decide : Opens _ Key.must) (by decide) rfl
      (.clause (by decide : Opens _ Key.not) (by decide) rfl
        (.item (by decide : Opens _ Key.and) (by decide) rfl rfl (.here _)))
  have within : ∀ before, before <+: path → before ≠ path → (0 : Int) + before.length ≤ 2 := by
    intro before before_path ne
    have shorter : before.length < path.length :=
      Nat.lt_of_le_of_ne before_path.length_le fun same => ne (before_path.eq_of_length same)
    have three : path.length = 3 := rfl
    omega
  exact ⟨reaches, by omega, within, canonicalize_along_path reaches (by omega) within⟩

/-! ## Another query in the same place -/

/-- The query with another one in the place that a path leads to. -/
def replaceAt (new : Json) : List Step → Json → Json
  | [], _ => new
  | .item key index :: path, .obj ms =>
    match Entries.get? key ms with
    | some (.arr items) =>
      .obj (Entries.put key (.arr (items.modify index (replaceAt new path))) ms)
    | _ => .obj ms
  | .clause key :: path, .obj ms =>
    match Entries.get? key ms with
    | some q => .obj (Entries.put key (replaceAt new path q) ms)
    | none => .obj ms
  | _ :: _, q => q

theorem replaceAt_item (new : Json) {ms : Members} {key : String} {items : List Json}
    (value : ms.get? key = some (.arr items)) (index : Nat) (path : List Step) :
    replaceAt new (.item key index :: path) (.obj ms) =
      .obj (ms.put key (.arr (items.modify index (replaceAt new path)))) := by
  simp only [replaceAt, value]

theorem replaceAt_clause (new : Json) {ms : Members} {key : String} {q : Json}
    (value : ms.get? key = some q) (path : List Step) :
    replaceAt new (.clause key :: path) (.obj ms) = .obj (ms.put key (replaceAt new path q)) := by
  simp only [replaceAt, value]

/-- An object keeps its form if what becomes of the value of one key stays the same. -/
theorem formMembers_put (form : Json → Json) {ms : Members} {key : String} (opens : Opens ms key)
    {v w : Json} (value : ms.get? key = some v) (same : changed form key w = changed form key v) :
    formMembers form (ms.put key w) = formMembers form ms := by
  obtain ⟨before, after, all, written⟩ := Entries.exists_split value
  have found : rewrittenKey? (ms.put key w) = rewrittenKey? ms := by
    refine rewrittenKey?_congr fun k => ?_
    rw [written, all]
    simp [Entries.has]
  cases h : rewrittenKey? ms with
  | some k =>
    rw [h] at found
    rw [Opens, h] at opens
    subst opens
    have simplified := rewrittenKey?_mem h
    rw [changed, changed, if_pos simplified, if_pos simplified] at same
    have others : (ms.put key w).erase key = ms.erase key := by
      rw [written, all]
      simp [Entries.erase]
    rw [formMembers_of_rewritten form found (Entries.get?_put_self key w ms),
      formMembers_of_rewritten form h value, same, others]
  | none =>
    rw [h] at found
    have noKey := not_mem_simplified h value
    rw [changed, changed, if_neg noKey, if_neg noKey] at same
    rw [formMembers_of_unrewritten form found, formMembers_of_unrewritten form h, written, all]
    simp [same]

/-- The forms of the items of a list stay the same if the form of the changed item does. -/
theorem map_modify_eq (form g : Json → Json) {items : List Json} {index : Nat} {q : Json}
    (at_index : items[index]? = some q) (same : form (g q) = form q) :
    (items.modify index g).map form = items.map form := by
  refine List.ext_getElem? fun i => ?_
  rw [List.getElem?_map, List.getElem?_map, List.getElem?_modify]
  by_cases here : index = i
  · subst here
    simp [at_index, same]
  · simp [here]

theorem canonicalize_put {depth ceiling : Int} {ms : Members} {key : String}
    (opens : Opens ms key) {v w : Json} (value : ms.get? key = some v)
    (same : changed (canonicalize (depth + 1) ceiling) key w =
      changed (canonicalize (depth + 1) ceiling) key v) :
    canonicalize depth ceiling (.obj (ms.put key w)) = canonicalize depth ceiling (.obj ms) := by
  by_cases within : depth ≤ ceiling
  · rw [canonicalize_obj within, canonicalize_obj within, formMembers_put _ opens value same]
  · rw [canonicalize_beyond (by omega), canonicalize_beyond (by omega)]

/-- A query with another one in a place that canonicalization reaches keeps its form if the two
have the same form in that place. -/
theorem canonicalize_replaceAt {ceiling : Int} {root target new : Json} {path : List Step}
    (reaches : Reaches root path target) :
    ∀ depth, canonicalize (depth + path.length) ceiling new =
        canonicalize (depth + path.length) ceiling target →
      canonicalize depth ceiling (replaceAt new path root) = canonicalize depth ceiling root := by
  have deeper : ∀ (depth : Int) (step : Step) (path : List Step),
      depth + (step :: path).length = depth + 1 + path.length := by
    intro depth step path
    rw [List.length_cons]
    omega
  -- the depth is general, since every step of the path goes one level deeper
  induction reaches with
  | here q =>
    intro depth same
    simpa [replaceAt] using same
  | item opens kind value at_index _ ih =>
    intro depth same
    rw [deeper] at same
    rw [replaceAt_item new value]
    apply canonicalize_put opens value
    rw [changed_items _ kind, changed_items _ kind, map_modify_eq _ _ at_index (ih _ same)]
  | clause opens kind value _ ih =>
    intro depth same
    rw [deeper] at same
    rw [replaceAt_clause new value]
    apply canonicalize_put opens value
    rw [changed_clause _ kind, changed_clause _ kind, ih _ same]

end SearchDesk.Query
