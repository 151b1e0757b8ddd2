import SearchDesk.Proofs.Query.Position

/-!
# The queries that canonicalization comes to

* `heldQueries` are the queries in the value of a canonical key, and `queriesBelow` are those
  of all members of an object, in their order;
* `nextQueries` are the queries to which canonicalization goes on from an object: those in the
  value of the rewritten key, or else `queriesBelow`;
* `visited` are all queries to which it comes within a number of levels, depth first.

Where no key is rewritten the queries below the form of an object are the forms of the queries
below the object (`queriesBelow_formMembers`). What is visited within a number of levels is what
a shorter path reaches (`mem_visited_iff_reaches`).
-/

namespace SearchDesk.Query

/-- The queries in the value of a canonical key: the value of a clause, the items of a list. -/
def heldQueries (key : String) (value : Json) : List Json :=
  if key ∈ Key.clauses then [value]
  else if key ∈ Key.lists then childrenOf value
  else []

/-- The queries under the canonical keys of an object. -/
def queriesBelow (ms : Members) : List Json := ms.flatMap fun e => heldQueries e.1 e.2

/-- The queries to which canonicalization goes on from an object. -/
def nextQueries (ms : Members) : List Json :=
  match rewrittenKey? ms with
  | some key =>
    let value := (ms.get? key).getD .null
    if key = Key.not then [value] else childrenOf value
  | none => queriesBelow ms

/-- The queries to which canonicalization comes within a number of levels. -/
def visited : Nat → Json → List Json
  | 0, _ => []
  | levels + 1, .obj ms => .obj ms :: (nextQueries ms).flatMap (visited levels)
  | _ + 1, q => [q]

/-! ## The queries below an object -/

theorem mem_childrenOf {value q : Json} :
    q ∈ childrenOf value ↔ ∃ items, value = .arr items ∧ q ∈ items := by
  cases value <;> simp [childrenOf]

theorem mem_heldQueries {key : String} {value q : Json} :
    q ∈ heldQueries key value ↔
      (key ∈ Key.clauses ∧ q = value) ∨
        (key ∈ Key.lists ∧ ∃ items, value = .arr items ∧ q ∈ items) := by
  unfold heldQueries
  by_cases clause : key ∈ Key.clauses
  · have noList : key ∉ Key.lists := (by decide : ∀ k ∈ Key.clauses, k ∉ Key.lists) key clause
    simp [clause, noList]
  · by_cases list : key ∈ Key.lists <;> cases value <;> simp [clause, list, childrenOf]

theorem heldQueries_of_not_structural {key : String} (h : key ∉ Key.structural) (value : Json) :
    heldQueries key value = [] := by
  have noClause : key ∉ Key.clauses := fun m => h ((by decide : Key.clauses ⊆ Key.structural) m)
  have noList : key ∉ Key.lists := fun m => h ((by decide : Key.lists ⊆ Key.structural) m)
  rw [heldQueries, if_neg noClause, if_neg noList]

/-- The queries in a value that is kept are the forms of those that were in it. -/
theorem heldQueries_kept (form : Json → Json) (key : String) (value : Json) :
    heldQueries key (kept form key value) = (heldQueries key value).map form := by
  unfold heldQueries kept
  by_cases clause : key ∈ Key.clauses
  · simp [clause]
  · by_cases list : key ∈ Key.lists <;> cases value <;> simp [clause, list, childrenOf]

theorem queriesBelow_formMembers (form : Json → Json) {ms : Members}
    (h : rewrittenKey? ms = none) :
    queriesBelow (formMembers form ms) = (queriesBelow ms).map form := by
  rw [formMembers_of_unrewritten form h, queriesBelow, queriesBelow, List.flatMap_map,
    List.map_flatMap]
  simp only [heldQueries_kept]

/-! ## The queries that are visited -/

theorem nextQueries_of_rewritten {ms : Members} {key : String} (h : rewrittenKey? ms = some key)
    {value : Json} (present : ms.get? key = some value) :
    nextQueries ms = if key = Key.not then [value] else childrenOf value := by
  simp only [nextQueries, h, present, Option.getD_some]

theorem nextQueries_of_unrewritten {ms : Members} (h : rewrittenKey? ms = none) :
    nextQueries ms = queriesBelow ms := by
  simp only [nextQueries, h]

theorem mem_visited_self (levels : Nat) (q : Json) : q ∈ visited (levels + 1) q := by
  cases q <;> simp [visited]

/-- What is visited from a query right below an object is visited from the object. -/
theorem mem_visited_of_next {levels : Nat} {ms : Members} {q target : Json}
    (next : q ∈ nextQueries ms) (here : target ∈ visited levels q) :
    target ∈ visited (levels + 1) (.obj ms) := by
  rw [visited]
  exact List.mem_cons_of_mem _ (List.mem_flatMap.mpr ⟨q, next, here⟩)

/-! ## Visits and paths -/

theorem opens_iff_of_rewritten {ms : Members} {key : String} (h : rewrittenKey? ms = some key)
    {other : String} : Opens ms other ↔ other = key := by
  rw [Opens, h]

theorem opens_iff_of_unrewritten {ms : Members} (h : rewrittenKey? ms = none) {key : String} :
    Opens ms key ↔ key ∈ Key.lists ++ Key.clauses := by
  rw [Opens, h]

/-- A query to which canonicalization goes on is one step below the object. -/
theorem exists_step_of_next {ms : Members} (distinct : ms.keys.Nodup) {q : Json}
    (next : q ∈ nextQueries ms) : ∃ step, Reaches (.obj ms) [step] q := by
  cases found : rewrittenKey? ms with
  | some key =>
    obtain ⟨v, value⟩ := rewrittenKey?_get? found
    have opens := (opens_iff_of_rewritten found).mpr rfl
    rw [nextQueries_of_rewritten found value] at next
    by_cases negated : key = Key.not
    · rw [if_pos negated, List.mem_singleton] at next
      exact ⟨.clause key, .clause opens (negated ▸ List.mem_cons_self) (next ▸ value) (.here q)⟩
    · rw [if_neg negated] at next
      have kind : key ∈ Key.itemwise :=
        (by decide : ∀ k ∈ Key.simplified, k ≠ Key.not → k ∈ Key.itemwise) key
          (rewrittenKey?_mem found) negated
      obtain ⟨items, rfl, item⟩ := mem_childrenOf.mp next
      obtain ⟨index, place⟩ := List.mem_iff_getElem?.mp item
      exact ⟨.item key index, .item opens kind value place (.here q)⟩
  | none =>
    rw [nextQueries_of_unrewritten found, queriesBelow] at next
    obtain ⟨⟨key, v⟩, member, held⟩ := List.mem_flatMap.mp next
    have value := Entries.get?_of_mem distinct member
    rcases mem_heldQueries.mp held with ⟨clause, rfl⟩ | ⟨list, items, rfl, item⟩
    · have opens := (opens_iff_of_unrewritten found).mpr (List.mem_append_right _ clause)
      exact ⟨.clause key, .clause opens (List.mem_cons_of_mem _ clause) value (.here _)⟩
    · have opens := (opens_iff_of_unrewritten found).mpr (List.mem_append_left _ list)
      obtain ⟨index, place⟩ := List.mem_iff_getElem?.mp item
      exact ⟨.item key index, .item opens (List.mem_append_right _ list) value place (.here q)⟩

/-- A query one step below an object is one to which canonicalization goes on. -/
theorem next_of_reaches {ms : Members} {step : Step} {path : List Step} {target : Json}
    (reaches : Reaches (.obj ms) (step :: path) target) :
    ∃ q ∈ nextQueries ms, Reaches q path target := by
  cases found : rewrittenKey? ms with
  | some key =>
    cases reaches with
    | item opens kind value at_index onward =>
      obtain rfl := (opens_iff_of_rewritten found).mp opens
      have negated : Key.not ∉ Key.itemwise := by decide
      refine ⟨_, ?_, onward⟩
      rw [nextQueries_of_rewritten found value, if_neg (ne_of_mem_of_not_mem kind negated)]
      exact mem_childrenOf.mpr ⟨_, rfl, List.mem_of_getElem? at_index⟩
    | clause opens kind value onward =>
      obtain rfl := (opens_iff_of_rewritten found).mp opens
      have negated := (by decide : ∀ k ∈ Key.simplified, k ∈ Key.single → k = Key.not) _
        (rewrittenKey?_mem found) kind
      refine ⟨_, ?_, onward⟩
      rw [nextQueries_of_rewritten found value, if_pos negated]
      exact List.mem_singleton_self _
  | none =>
    rw [nextQueries_of_unrewritten found]
    cases reaches with
    | item opens kind value at_index onward =>
      have canonical := (opens_iff_of_unrewritten found).mp opens
      have list := (by decide : ∀ k ∈ Key.lists ++ Key.clauses, k ∈ Key.itemwise → k ∈ Key.lists) _
        canonical kind
      refine ⟨_, List.mem_flatMap.mpr ⟨_, Entries.mem_of_get? value, ?_⟩, onward⟩
      exact mem_heldQueries.mpr (.inr ⟨list, _, rfl, List.mem_of_getElem? at_index⟩)
    | clause opens kind value onward =>
      have canonical := (opens_iff_of_unrewritten found).mp opens
      have clause := (by decide : ∀ k ∈ Key.lists ++ Key.clauses, k ∈ Key.single → k ∈ Key.clauses)
        _ canonical kind
      refine ⟨_, List.mem_flatMap.mpr ⟨_, Entries.mem_of_get? value, ?_⟩, onward⟩
      exact mem_heldQueries.mpr (.inl ⟨clause, rfl⟩)

/-- A step and a path from where it leads make a longer path. -/
theorem Reaches.cons {root q target : Json} {step : Step} {path : List Step}
    (first : Reaches root [step] q) (onward : Reaches q path target) :
    Reaches root (step :: path) target := by
  cases first with
  | item opens kind value at_index here =>
    cases here
    exact .item opens kind value at_index onward
  | clause opens kind value here =>
    cases here
    exact .clause opens kind value onward

/-- A longer path is a step and a path from where it leads. -/
theorem Reaches.uncons {root target : Json} {step : Step} {path : List Step}
    (reaches : Reaches root (step :: path) target) :
    ∃ q, Reaches root [step] q ∧ Reaches q path target := by
  cases reaches with
  | item opens kind value place onward => exact ⟨_, .item opens kind value place (.here _), onward⟩
  | clause opens kind value onward => exact ⟨_, .clause opens kind value (.here _), onward⟩

/-- Where no object of the root repeats a key, none of a query reached from it does. -/
theorem Reaches.distinctKeys {root target : Json} {path : List Step}
    (reaches : Reaches root path target) (distinct : root.DistinctKeys) : target.DistinctKeys := by
  induction reaches with
  | here q => exact distinct
  | item _ _ value at_index _ ih =>
    have items := Json.distinctKeys_of_mem_members distinct.2 (Entries.mem_of_get? value)
    exact ih (Json.distinctKeys_of_mem_items items (List.mem_of_getElem? at_index))
  | clause _ _ value _ ih =>
    exact ih (Json.distinctKeys_of_mem_members distinct.2 (Entries.mem_of_get? value))

/-- The queries that are visited within a number of levels are those that are reached by a
shorter path, if no object repeats a key: a path only goes through the first of several equal
keys. -/
theorem mem_visited_iff_reaches {levels : Nat} {root target : Json}
    (distinct : root.DistinctKeys) :
    target ∈ visited levels root ↔ ∃ path, path.length < levels ∧ Reaches root path target := by
  -- the root is general, since the rest of a path starts at a query below it
  induction levels generalizing root with
  | zero => simp [visited]
  | succ levels ih =>
    constructor
    · intro here
      cases root with
      | obj ms =>
        rw [visited] at here
        rcases List.mem_cons.mp here with rfl | deeper
        · exact ⟨[], Nat.succ_pos _, .here _⟩
        · obtain ⟨q, next, below⟩ := List.mem_flatMap.mp deeper
          obtain ⟨step, first⟩ := exists_step_of_next distinct.1 next
          obtain ⟨path, short, onward⟩ := (ih (first.distinctKeys distinct)).mp below
          exact ⟨step :: path, Nat.succ_lt_succ short, first.cons onward⟩
      | _ =>
        obtain rfl := List.mem_singleton.mp here
        exact ⟨[], Nat.succ_pos _, .here _⟩
    · rintro ⟨path, short, reaches⟩
      cases path with
      | nil =>
        cases reaches
        exact mem_visited_self levels _
      | cons step path =>
        cases root with
        | obj ms =>
          obtain ⟨q, next, onward⟩ := next_of_reaches reaches
          obtain ⟨step', first⟩ := exists_step_of_next distinct.1 next
          exact mem_visited_of_next next ((ih (first.distinctKeys distinct)).mpr
            ⟨path, Nat.lt_of_succ_lt_succ short, onward⟩)
        | _ => cases reaches

end SearchDesk.Query
