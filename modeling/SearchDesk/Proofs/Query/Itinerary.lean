import Mathlib.Data.Prod.Basic
import SearchDesk.Proofs.Order
import SearchDesk.Proofs.Query.Subtree
import SearchDesk.Proofs.Query.Visited

/-!
# The way of canonicalization through a query

In what order canonicalization comes to the queries below a root. A `Visit` is a query with the path
that leads to it, and `Precedes` orders paths: a query comes before those below it, and of two that
branch off at an object the one comes first whose key stands first there, or whose item does under
one key.

* `nextSteps` are the steps from an object in this order, with the queries to which they lead;
* `itinerary` lists the visits within a number of levels, and then of one level more, on which the
  walk ends: it has every path that is short enough (`mem_itinerary`) in the order of paths
  (`pairwise_itinerary`);
* an `Itinerary` is said by these two facts alone, and there is only one (`Itinerary.unique`).
-/

namespace SearchDesk.Query

/-- A query to which canonicalization comes, and the path that leads to it. -/
structure Visit where
  path : List Step
  query : Json

/-- The visit of the same query from an object one step higher. -/
def Visit.after (step : Step) (v : Visit) : Visit := ⟨step :: v.path, v.query⟩

/-- The place of a step among those from an object: that of its key, then that of the item. -/
def Step.rank (ms : Members) : Step → Nat × Nat
  | .item key index => (ms.keys.idxOf key, index)
  | .clause key => (ms.keys.idxOf key, 0)

/-- The first path comes before the second one when a query is visited before those below it, and
those below it key by key and item by item. -/
inductive Precedes : Json → List Step → List Step → Prop
  | start {root : Json} {step : Step} {path : List Step} : Precedes root [] (step :: path)
  | fork {ms : Members} {step step' : Step} {path path' : List Step}
      (earlier : Prod.Lex (· < ·) (· < ·) (step.rank ms) (step'.rank ms)) :
      Precedes (.obj ms) (step :: path) (step' :: path')
  | onward {root q : Json} {step : Step} {path path' : List Step} (first : Reaches root [step] q)
      (later : Precedes q path path') : Precedes root (step :: path) (step :: path')

/-- The visits of canonicalization, as far as one level beyond the ceiling, in their order. -/
structure Itinerary (depth ceiling : Int) (root : Json) (visits : List Visit) : Prop where
  complete : ∀ path q, ⟨path, q⟩ ∈ visits ↔
    Reaches root path q ∧ depth + path.length ≤ ceiling + 1
  ordered : visits.Pairwise fun v w => Precedes root v.path w.path

/-! ## There is only one -/

theorem Reaches.unique {root q q' : Json} {path : List Step} (reaches : Reaches root path q)
    (reaches' : Reaches root path q') : q = q' :=
  Option.some.inj (reaches.at?_origins.symm.trans reaches'.at?_origins)

theorem Precedes.asymm {root : Json} {path path' : List Step} (h : Precedes root path path') :
    ¬Precedes root path' path := by
  intro back
  induction h with
  | start => cases back
  | fork earlier =>
    cases back with
    | fork earlier' => exact Std.Asymm.asymm _ _ earlier earlier'
    | onward => exact Std.Asymm.asymm _ _ earlier earlier
  | onward first _ ih =>
    cases back with
    | fork earlier => exact Std.Asymm.asymm _ _ earlier earlier
    | onward first' later' =>
      obtain rfl := first.unique first'
      exact ih later'

theorem Itinerary.unique {depth ceiling : Int} {root : Json} {visits visits' : List Visit}
    (h : Itinerary depth ceiling root visits) (h' : Itinerary depth ceiling root visits') :
    visits = visits' := by
  have distinct : ∀ {vs : List Visit}, Itinerary depth ceiling root vs → vs.Nodup := by
    intro vs list
    refine list.ordered.imp ?_
    rintro v w before rfl
    exact before.asymm before
  refine Order.eq_of_mem_iff_of_pairwise (fun _ _ => Precedes.asymm) (distinct h) (distinct h') ?_
    h.ordered h'.ordered
  rintro ⟨path, q⟩
  exact (h.complete path q).trans (h'.complete path q).symm

/-! ## Steps from an object -/

/-- The steps into the value of a key: one for a clause, one for each item of a list. -/
def stepsInto (key : String) (value : Json) : List (Step × Json) :=
  if key ∈ Key.single then [(.clause key, value)]
  else (childrenOf value).zipIdx.map fun q => (.item key q.2, q.1)

/-- The steps with which canonicalization goes on from an object, and where they lead. -/
def nextSteps (ms : Members) : List (Step × Json) :=
  ms.flatMap fun e => if Opens ms e.1 then stepsInto e.1 e.2 else []

theorem Opens.kind {ms : Members} {key : String} (opens : Opens ms key) :
    key ∈ Key.single ∨ key ∈ Key.itemwise ∧ key ∉ Key.single := by
  have sorted : ∀ k ∈ Key.simplified ++ (Key.lists ++ Key.clauses),
      k ∈ Key.single ∨ k ∈ Key.itemwise ∧ k ∉ Key.single := by decide
  refine sorted key ?_
  cases found : rewrittenKey? ms with
  | some k =>
    rw [(opens_iff_of_rewritten found).mp opens]
    exact List.mem_append_left _ (rewrittenKey?_mem found)
  | none => exact List.mem_append_right _ ((opens_iff_of_unrewritten found).mp opens)

theorem mem_nextSteps {ms : Members} (distinct : ms.keys.Nodup) {step : Step} {q : Json} :
    (step, q) ∈ nextSteps ms ↔ Reaches (.obj ms) [step] q := by
  constructor
  · intro next
    obtain ⟨⟨key, v⟩, member, inside⟩ := List.mem_flatMap.mp next
    have value := Entries.get?_of_mem distinct member
    by_cases opens : Opens ms key
    · rw [if_pos opens, stepsInto] at inside
      rcases opens.kind with single | ⟨itemwise, notSingle⟩
      · rw [if_pos single, List.mem_singleton] at inside
        obtain ⟨rfl, rfl⟩ := Prod.mk.inj inside
        exact .clause opens single value (.here _)
      · rw [if_neg notSingle] at inside
        obtain ⟨⟨p, index⟩, item, same⟩ := List.mem_map.mp inside
        obtain ⟨rfl, rfl⟩ := Prod.mk.inj same
        have place := List.mem_zipIdx_iff_getElem?.mp item
        obtain ⟨items, rfl, -⟩ := mem_childrenOf.mp (List.mem_of_getElem? place)
        exact .item opens itemwise value place (.here _)
    · rw [if_neg opens] at inside
      cases inside
  · intro reaches
    cases reaches with
    | @item _ key index items q _ _ opens kind value place onward =>
      cases onward
      have notSingle : key ∉ Key.single :=
        (by decide : ∀ k ∈ Key.itemwise, k ∉ Key.single) key kind
      refine List.mem_flatMap.mpr ⟨_, Entries.mem_of_get? value, ?_⟩
      rw [if_pos opens, stepsInto, if_neg notSingle]
      exact List.mem_map.mpr ⟨(q, index), List.mem_zipIdx_iff_getElem?.mpr place, rfl⟩
    | clause opens kind value onward =>
      cases onward
      refine List.mem_flatMap.mpr ⟨_, Entries.mem_of_get? value, ?_⟩
      rw [if_pos opens, stepsInto, if_pos kind]
      exact List.mem_singleton_self _

/-- The steps into the value of a key have the place of the key. -/
theorem rank_fst_of_mem_stepsInto (ms : Members) {key : String} {value : Json}
    {s : Step × Json} (h : s ∈ stepsInto key value) : (s.1.rank ms).1 = ms.keys.idxOf key := by
  unfold stepsInto at h
  by_cases single : key ∈ Key.single
  · rw [if_pos single, List.mem_singleton] at h
    rw [h]
    rfl
  · rw [if_neg single] at h
    obtain ⟨q, -, rfl⟩ := List.mem_map.mp h
    rfl

theorem pairwise_stepsInto (ms : Members) (key : String) (value : Json) :
    (stepsInto key value).Pairwise fun s t =>
      Prod.Lex (· < ·) (· < ·) (s.1.rank ms) (t.1.rank ms) := by
  unfold stepsInto
  by_cases single : key ∈ Key.single
  · rw [if_pos single]
    exact List.pairwise_singleton _ _
  · rw [if_neg single, List.pairwise_map]
    exact (Order.pairwise_zipIdx _ 0).imp fun less => .right _ less

/-- The steps from an object stand in the order of keys and items. -/
theorem pairwise_nextSteps {ms : Members} (distinct : ms.keys.Nodup) :
    (nextSteps ms).Pairwise fun s t =>
      Prod.Lex (· < ·) (· < ·) (s.1.rank ms) (t.1.rank ms) := by
  have keys : ms.Pairwise fun e e' => ms.keys.idxOf e.1 < ms.keys.idxOf e'.1 := by
    have ordered := Order.pairwise_idxOf distinct
    rw [Entries.keys, List.pairwise_map] at ordered
    exact ordered
  have opened : ∀ {e : String × Json} {s : Step × Json},
      (s ∈ if Opens ms e.1 then stepsInto e.1 e.2 else []) → s ∈ stepsInto e.1 e.2 := by
    intro e s inside
    split at inside
    · exact inside
    · cases inside
  rw [nextSteps, List.pairwise_flatMap]
  constructor
  · intro e _
    split
    · exact pairwise_stepsInto ms e.1 e.2
    · exact List.Pairwise.nil
  · refine keys.imp fun {e e'} less s hs t ht => ?_
    rw [← rank_fst_of_mem_stepsInto ms (opened hs), ← rank_fst_of_mem_stepsInto ms (opened ht)]
      at less
    exact Prod.lex_def.mpr (.inl less)

/-- What is made of the only entry of a key. -/
theorem flatMap_of_key {β : Type} (f : String × Json → List β) {ms : Members}
    (distinct : ms.keys.Nodup) {key : String} {v : Json} (value : ms.get? key = some v) :
    (ms.flatMap fun e => if e.1 = key then f e else []) = f (key, v) := by
  induction ms with
  | nil => cases value
  | cons e rest ih =>
    obtain ⟨k, w⟩ := e
    obtain ⟨fresh, distinct'⟩ := List.nodup_cons.mp distinct
    rw [List.flatMap_cons]
    by_cases same : k = key
    · subst same
      rw [Entries.get?, if_pos rfl, Option.some.injEq] at value
      have others : (rest.flatMap fun e => if e.1 = k then f e else []) = [] := by
        rw [List.flatMap_eq_nil_iff]
        intro e member
        have other : e.1 ≠ k := fun here => fresh (here ▸ List.mem_map.mpr ⟨e, member, rfl⟩)
        rw [if_neg other]
      rw [if_pos rfl, others, List.append_nil, value]
    · rw [Entries.get?, if_neg same] at value
      rw [if_neg same, List.nil_append, ih distinct' value]

theorem map_snd_stepsInto (key : String) (value : Json) :
    (stepsInto key value).map Prod.snd =
      if key ∈ Key.single then [value] else childrenOf value := by
  unfold stepsInto
  split
  · rfl
  · rw [List.map_map]
    exact List.zipIdx_map_fst 0 _

/-- Where the steps lead are the queries to which canonicalization goes on. -/
theorem map_snd_nextSteps {ms : Members} (distinct : ms.keys.Nodup) :
    (nextSteps ms).map Prod.snd = nextQueries ms := by
  cases found : rewrittenKey? ms with
  | some key =>
    obtain ⟨v, value⟩ := rewrittenKey?_get? found
    have negated : key ∈ Key.single ↔ key = Key.not :=
      (by decide : ∀ k ∈ Key.simplified, k ∈ Key.single ↔ k = Key.not) key
        (rewrittenKey?_mem found)
    simp only [nextSteps, opens_iff_of_rewritten found]
    rw [flatMap_of_key (fun e => stepsInto e.1 e.2) distinct value, map_snd_stepsInto,
      nextQueries_of_rewritten found value]
    simp only [negated]
  | none =>
    have held : ∀ key value,
        (if key ∈ Key.lists ++ Key.clauses then stepsInto key value else []).map Prod.snd =
          heldQueries key value := by
      intro key value
      by_cases clause : key ∈ Key.clauses
      · have single : key ∈ Key.single := List.mem_cons_of_mem _ clause
        rw [if_pos (List.mem_append_right _ clause), map_snd_stepsInto, if_pos single,
          heldQueries, if_pos clause]
      · by_cases list : key ∈ Key.lists
        · have notSingle : key ∉ Key.single :=
            (by decide : ∀ k ∈ Key.lists, k ∉ Key.single) key list
          rw [if_pos (List.mem_append_left _ list), map_snd_stepsInto, if_neg notSingle,
            heldQueries, if_neg clause, if_pos list]
        · rw [if_neg (by simp [clause, list]), heldQueries, if_neg clause, if_neg list,
            List.map_nil]
    simp only [nextSteps, opens_iff_of_unrewritten found]
    rw [List.map_flatMap, nextQueries_of_unrewritten found, queriesBelow]
    simp only [held]

/-! ## The whole way -/

/-- The steps from a query; only an object has some. -/
def stepsFrom : Json → List (Step × Json)
  | .obj ms => nextSteps ms
  | _ => []

/-- The visits within a number of levels and on the next one, where the walk ends. -/
def itinerary : Nat → Json → List Visit
  | 0, q => [⟨[], q⟩]
  | levels + 1, q =>
    ⟨[], q⟩ :: (stepsFrom q).flatMap fun s => (itinerary levels s.2).map (Visit.after s.1)

example :
    (itinerary 1 (.obj [("should", .int 1), ("conjuncts", .arr [.null, .int 2])])).map
        Visit.path =
      [[], [.clause "should"], [.item "conjuncts" 0], [.item "conjuncts" 1]] := by
  decide

theorem mem_stepsFrom {root : Json} (distinct : root.DistinctKeys) {step : Step} {q : Json} :
    (step, q) ∈ stepsFrom root ↔ Reaches root [step] q := by
  cases root with
  | obj ms => exact mem_nextSteps distinct.1
  | _ =>
    constructor
    · intro next
      cases next
    · intro reaches
      cases reaches

theorem pairwise_stepsFrom {root : Json} (distinct : root.DistinctKeys) :
    (stepsFrom root).Pairwise fun s t => ∀ path path',
      Precedes root (s.1 :: path) (t.1 :: path') := by
  cases root with
  | obj ms => exact (pairwise_nextSteps distinct.1).imp fun earlier _ _ => .fork earlier
  | _ => exact List.Pairwise.nil

/-- The walk comes to everything that is reached by a path that is short enough. -/
theorem mem_itinerary {levels : Nat} {root q : Json} {path : List Step}
    (distinct : root.DistinctKeys) :
    ⟨path, q⟩ ∈ itinerary levels root ↔ Reaches root path q ∧ path.length ≤ levels := by
  -- root and path are general, since the rest of a path starts at a query below the root
  induction levels generalizing root path with
  | zero =>
    rw [itinerary, List.mem_singleton, Visit.mk.injEq, Nat.le_zero, List.length_eq_zero_iff]
    constructor
    · rintro ⟨rfl, rfl⟩
      exact ⟨.here q, rfl⟩
    · rintro ⟨reaches, rfl⟩
      cases reaches
      exact ⟨rfl, rfl⟩
  | succ levels ih =>
    rw [itinerary, List.mem_cons, Visit.mk.injEq, List.mem_flatMap]
    constructor
    · rintro (⟨rfl, rfl⟩ | ⟨⟨step, child⟩, next, inside⟩)
      · exact ⟨.here q, Nat.zero_le _⟩
      · obtain ⟨⟨rest, target⟩, visited, same⟩ := List.mem_map.mp inside
        obtain ⟨rfl, rfl⟩ := Visit.mk.inj same
        have first := (mem_stepsFrom distinct).mp next
        obtain ⟨onward, short⟩ := (ih (first.distinctKeys distinct)).mp visited
        exact ⟨first.cons onward, Nat.succ_le_succ short⟩
    · rintro ⟨reaches, short⟩
      cases path with
      | nil =>
        cases reaches
        exact .inl ⟨rfl, rfl⟩
      | cons step rest =>
        obtain ⟨child, first, onward⟩ := reaches.uncons
        have visited := (ih (first.distinctKeys distinct)).mpr
          ⟨onward, Nat.le_of_succ_le_succ short⟩
        exact .inr ⟨(step, child), (mem_stepsFrom distinct).mpr first,
          List.mem_map.mpr ⟨_, visited, rfl⟩⟩

/-- The walk visits in the order of paths. -/
theorem pairwise_itinerary {levels : Nat} {root : Json} (distinct : root.DistinctKeys) :
    (itinerary levels root).Pairwise fun v w => Precedes root v.path w.path := by
  induction levels generalizing root with
  | zero => exact List.pairwise_singleton _ _
  | succ levels ih =>
    rw [itinerary, List.pairwise_cons, List.pairwise_flatMap]
    refine ⟨?_, ?_, ?_⟩
    · intro v below
      obtain ⟨s, -, inside⟩ := List.mem_flatMap.mp below
      obtain ⟨w, -, rfl⟩ := List.mem_map.mp inside
      exact .start
    · intro s next
      have first := (mem_stepsFrom distinct).mp next
      rw [List.pairwise_map]
      exact (ih (first.distinctKeys distinct)).imp fun later => .onward first later
    · refine (pairwise_stepsFrom distinct).imp fun apart v hv w hw => ?_
      obtain ⟨v, -, rfl⟩ := List.mem_map.mp hv
      obtain ⟨w, -, rfl⟩ := List.mem_map.mp hw
      exact apart v.path w.path

/-- The walk with the levels that are left is an itinerary. -/
theorem itinerary_of_levelsLeft {depth ceiling : Int} (start : depth ≤ ceiling + 1) {root : Json}
    (distinct : root.DistinctKeys) :
    Itinerary depth ceiling root (itinerary (levelsLeft depth ceiling) root) where
  complete path q := by
    have short : path.length ≤ levelsLeft depth ceiling ↔ depth + path.length ≤ ceiling + 1 := by
      unfold levelsLeft
      omega
    rw [mem_itinerary distinct, short]
  ordered := pairwise_itinerary distinct

end SearchDesk.Query
