import SearchDesk.Proofs.Query.Subtree

/-!
# Queries cut off at the ceiling

The ceiling of canonicalization can be taken out of it: `prune` cuts a query where the ceiling
would, and the rest has the same canonical form under every ceiling that is high enough.

* `mapNext` changes the queries to which canonicalization goes on from an object, in place, and
  `formMembers_mapNext` says that making the form and changing these queries are one step;
* `prune` cuts the queries that are more levels down than a budget allows; it and `canonicalize`
  take the same steps, so `canonicalize_prune` is one induction over the levels that are left;
* `truncation_exact` adds what follows: the form depends on the budget only, and what stands
  beyond the ceiling does not matter to what stands around it.
-/

namespace SearchDesk.Query

/-- The value of a key with the queries in it changed: the value of a clause or of `not`, the
items of a list. A list of queries that is no list stays. -/
def mapQueries (f : Json → Json) (key : String) (value : Json) : Json :=
  if key ∈ Key.single then f value
  else
    match value with
    | .arr items => .arr (items.map f)
    | v => v

/-- The members of an object with the queries changed to which canonicalization goes on. -/
def mapNext (f : Json → Json) (ms : Members) : Members :=
  ms.map fun e => (e.1, if Opens ms e.1 then mapQueries f e.1 e.2 else e.2)

/-- A query of which a number of levels are kept. -/
def keepLevels : Nat → Json → Json
  | 0, _ => emptyQuery
  | levels + 1, .obj ms => .obj (mapNext (keepLevels levels) ms)
  | _ + 1, q => q

/-- A query with an empty object for everything that is more levels below it than the budget. -/
def prune (budget : Int) (q : Json) : Json := keepLevels (budget + 1).toNat q

/-! ## One level -/

theorem get?_mapNext (f : Json → Json) (ms : Members) (key : String) :
    (mapNext f ms).get? key =
      (ms.get? key).map fun v => if Opens ms key then mapQueries f key v else v :=
  Entries.get?_map (fun key v => if Opens ms key then mapQueries f key v else v) key ms

theorem rewrittenKey?_mapNext (f : Json → Json) (ms : Members) :
    rewrittenKey? (mapNext f ms) = rewrittenKey? ms := by
  refine rewrittenKey?_congr fun k => ?_
  rw [Entries.has_iff_get?_isSome, get?_mapNext, Option.isSome_map, Entries.has_iff_get?_isSome]

theorem rewritten_mapQueries (form f : Json → Json) {key : String} (h : key ∈ Key.simplified)
    (v : Json) :
    rewritten form key (mapQueries f key v) = rewritten (fun q => form (f q)) key v := by
  simp only [Key.simplified, List.mem_cons, List.not_mem_nil, or_false] at h
  rcases h with rfl | rfl | rfl
  · cases v <;> simp +decide [rewritten, mapQueries, childrenOf]
  · cases v <;> simp +decide [rewritten, mapQueries, childrenOf]
  · simp +decide [rewritten, mapQueries]

theorem kept_mapQueries (form f : Json → Json) {key : String} (h : key ∈ Key.lists ++ Key.clauses)
    (v : Json) : kept form key (mapQueries f key v) = kept (fun q => form (f q)) key v := by
  simp only [Key.lists, Key.clauses, List.cons_append, List.nil_append, List.mem_cons,
    List.not_mem_nil, or_false] at h
  rcases h with rfl | rfl | rfl | rfl | rfl
  · cases v <;> simp +decide [kept, mapQueries]
  · cases v <;> simp +decide [kept, mapQueries]
  all_goals simp +decide [kept, mapQueries]

theorem kept_of_not_mem (form : Json → Json) {key : String} (h : key ∉ Key.lists ++ Key.clauses)
    (v : Json) : kept form key v = v := by
  rw [List.mem_append, not_or] at h
  simp [kept, h]

/-- The form of an object after a change of the queries to which canonicalization goes on is the
form of the object, with the change made first to each of these queries. -/
theorem formMembers_mapNext (form f : Json → Json) (ms : Members) :
    formMembers form (mapNext f ms) = formMembers (fun q => form (f q)) ms := by
  have found := rewrittenKey?_mapNext f ms
  cases h : rewrittenKey? ms with
  | some key =>
    rw [h] at found
    obtain ⟨v, value⟩ := rewrittenKey?_get? h
    have changed : (mapNext f ms).get? key = some (mapQueries f key v) := by
      rw [get?_mapNext, value, Option.map_some, if_pos (by rw [Opens, h])]
    -- only the entry that is taken out has changed
    have others : (mapNext f ms).erase key = ms.erase key := by
      have closed : ∀ e ∈ ms.erase key,
          (e.1, if Opens ms e.1 then mapQueries f e.1 e.2 else e.2) = id e := by
        intro e mem
        have other : e.1 ≠ key := by simpa using (List.mem_filter.mp mem).2
        rw [if_neg (by rwa [Opens, h]), id]
      rw [mapNext, Entries.erase, List.filter_map]
      exact (List.map_congr_left closed).trans (List.map_id _)
    rw [formMembers_of_rewritten form found changed, formMembers_of_rewritten _ h value, others,
      rewritten_mapQueries form f (rewrittenKey?_mem h)]
  | none =>
    rw [h] at found
    rw [formMembers_of_unrewritten form found, formMembers_of_unrewritten _ h, mapNext,
      List.map_map]
    refine List.map_congr_left fun e _ => ?_
    by_cases opens : e.1 ∈ Key.lists ++ Key.clauses
    · have : Opens ms e.1 := by rwa [Opens, h]
      simp [this, kept_mapQueries form f opens]
    · have : ¬Opens ms e.1 := by rwa [Opens, h]
      simp [this, kept_of_not_mem _ opens]

/-! ## The whole query -/

theorem prune_of_neg {budget : Int} (h : budget < 0) (q : Json) : prune budget q = emptyQuery := by
  have none : (budget + 1).toNat = 0 := by omega
  rw [prune, none, keepLevels]

theorem prune_obj {budget : Int} (h : 0 ≤ budget) (ms : Members) :
    prune budget (.obj ms) = .obj (mapNext (prune (budget - 1)) ms) := by
  have one : (budget + 1).toNat = (budget - 1 + 1).toNat + 1 := by omega
  rw [prune, one, keepLevels]
  rfl

theorem prune_of_not_object {budget : Int} (h : 0 ≤ budget) {q : Json}
    (noObject : q.isObject = false) : prune budget q = q := by
  have one : (budget + 1).toNat = budget.toNat + 1 := by omega
  rw [prune, one]
  cases q with
  | obj ms => simp [Json.isObject] at noObject
  | _ => rfl

-- a list keeps its length, and what is not opened keeps its value
example (x y z : Json) :
    prune 0 (.obj [("and", .arr [x, y]), ("must", z)]) =
      .obj [("and", .arr [emptyQuery, emptyQuery]), ("must", z)] := rfl

/-- Canonicalization under a ceiling is canonicalization of what lies above it. -/
theorem canonicalize_prune {depth ceiling depth' ceiling' : Int}
    (room : ceiling - depth ≤ ceiling' - depth') (q : Json) :
    canonicalize depth ceiling q = canonicalize depth' ceiling' (prune (ceiling - depth) q) := by
  generalize left : levelsLeft depth ceiling = levels
  induction levels generalizing depth depth' q with
  | zero =>
    have beyond := (levelsLeft_eq_zero_iff depth ceiling).mp left
    rw [canonicalize_beyond beyond, prune_of_neg (by omega), canonicalize_emptyQuery]
  | succ levels ih =>
    have within : depth ≤ ceiling := by
      unfold levelsLeft at left
      omega
    have within' : depth' ≤ ceiling' := by omega
    have budget : ceiling - depth - 1 = ceiling - (depth + 1) := by omega
    rw [levelsLeft_succ within, Nat.add_right_cancel_iff] at left
    cases q with
    | obj ms =>
      -- a query right below is charged one level on both sides
      have below : canonicalize (depth + 1) ceiling = fun q =>
          canonicalize (depth' + 1) ceiling' (prune (ceiling - (depth + 1)) q) :=
        funext fun q => ih (by omega) q left
      rw [canonicalize_obj within, prune_obj (by omega), canonicalize_obj within',
        formMembers_mapNext, budget, below]
    | _ =>
      rw [prune_of_not_object (by omega) rfl, canonicalize_of_not_object _ _ rfl,
        canonicalize_of_not_object _ _ rfl]

/-- **Truncation.** The canonical form of a query is that of the query cut off at its ceiling, at
every depth and under every ceiling that leave at least as many levels. So it depends only on the
number of levels that are left; and a query beyond the ceiling can be replaced by any other one
without a change anywhere in the form. -/
theorem truncation_exact (depth ceiling : Int) (root : Json) :
    (∀ depth' ceiling' : Int, ceiling - depth ≤ ceiling' - depth' →
        canonicalize depth ceiling root =
          canonicalize depth' ceiling' (prune (ceiling - depth) root)) ∧
      (∀ depth' ceiling' : Int, ceiling' - depth' = ceiling - depth →
        canonicalize depth' ceiling' root = canonicalize depth ceiling root) ∧
      ∀ (path : List Step) (target : Json), Reaches root path target →
        ceiling < depth + path.length → ∀ new,
          canonicalize depth ceiling (replaceAt new path root) =
            canonicalize depth ceiling root := by
  refine ⟨fun depth' ceiling' room => canonicalize_prune room root, ?_, ?_⟩
  · intro depth' ceiling' same
    calc canonicalize depth' ceiling' root
        = canonicalize depth ceiling (prune (ceiling' - depth') root) :=
          canonicalize_prune (by omega) root
      _ = canonicalize depth ceiling (prune (ceiling - depth) root) := by rw [same]
      _ = canonicalize depth ceiling root := (canonicalize_prune (by omega) root).symm
  · intro path target reaches beyond new
    apply canonicalize_replaceAt reaches
    rw [canonicalize_beyond beyond, canonicalize_beyond beyond]

/-- Two levels of a negation and a conjunction, and a disjunction below them. -/
def layeredTree : Json :=
  .obj [("boost", .int 2), ("not", .obj [("and", .arr [
    .obj [("or", .arr [.obj [("term", .str "a")]])], .int 5])])]

/-- Two levels are left at depth -1 under the ceiling 0. -/
theorem truncation_exact_layeredTree :
    (0 : Int) - (-1) ≤ 9 - 3 ∧
      canonicalize (-1) 0 layeredTree = canonicalize 3 9 (prune (0 - (-1)) layeredTree) ∧
      (7 : Int) - 6 = 0 - (-1) ∧
      canonicalize 6 7 layeredTree = canonicalize (-1) 0 layeredTree ∧
      Reaches layeredTree [.clause Key.not, .item Key.and 0]
        (.obj [("or", .arr [.obj [("term", .str "a")]])]) ∧
      (0 : Int) < -1 + [Step.clause Key.not, .item Key.and 0].length ∧
      canonicalize (-1) 0 (replaceAt .null [.clause Key.not, .item Key.and 0] layeredTree) =
        canonicalize (-1) 0 layeredTree := by
  obtain ⟨cut, budget, beyond⟩ := truncation_exact (-1) 0 layeredTree
  have room : (0 : Int) - (-1) ≤ 9 - 3 := by omega
  have same : (7 : Int) - 6 = 0 - (-1) := by omega
  have reaches : Reaches layeredTree [.clause Key.not, .item Key.and 0]
      (.obj [("or", .arr [.obj [("term", .str "a")]])]) :=
    .clause (by decide : Opens _ Key.not) (by decide) rfl
      (.item (by decide : Opens _ Key.and) (by decide) rfl rfl (.here _))
  have below : (0 : Int) < -1 + [Step.clause Key.not, .item Key.and 0].length := by
    simp
  exact ⟨room, cut 3 9 room, same, budget 6 7 same, reaches, below,
    beyond _ _ reaches below .null⟩

end SearchDesk.Query
