import SearchDesk.Proofs.Query.Itinerary

/-!
# What canonicalization loses, and what it notes

The notices of a canonical form, said of the visits of the walk and not of the recursion.

* `notices_canonicalize_obj` is one level: an object adds no notice of its own, and the notices of
  the queries right below it follow one another in the order of the steps;
* `notices_eq_filterMap` is the induction over the levels: every visit beyond the ceiling leaves one
  notice, so does every value that is neither an object nor null, and nothing else does (`lossAt`);
* `canonicalize_of_untruncated` is what silence means: where nothing was cut off, a higher ceiling
  makes no difference.
-/

namespace SearchDesk.Query

/-- What is lost at a visit: everything beyond the ceiling, and what is neither an object nor
null. -/
def lossAt (depth ceiling : Int) (v : Visit) : Option Notice :=
  if depth + v.path.length = ceiling + 1 then some (.truncated (ceiling + 1) ceiling)
  else
    match v.query with
    | .obj _ => none
    | .null => none
    | q => some (.dropped q.shape)

/-! ## The notices of one level -/

/-- The notices of a member are those of the queries in its value. -/
theorem notices_canonicalEntry (form : Json → Noted Json) (e : String × Json) :
    (canonicalEntry form e).notices =
      (heldQueries e.1 e.2).flatMap fun q => (form q).notices := by
  obtain ⟨key, v⟩ := e
  unfold canonicalEntry heldQueries
  by_cases clause : key ∈ Key.clauses
  · simp [clause]
  · by_cases list : key ∈ Key.lists <;> cases v <;>
      simp [clause, list, childrenOf, List.flatMap_map]

theorem notices_canonicalForm_obj (ceiling : Int) (levels : Nat) (ms : Members) :
    (canonicalForm ceiling (levels + 1) (.obj ms)).notices =
      (nextQueries ms).flatMap fun q => (canonicalForm ceiling levels q).notices := by
  cases found : rewrittenKey? ms with
  | some key =>
    -- which branch of the recursion is taken depends on the keys that win over `key`
    obtain ⟨v, value⟩ := rewrittenKey?_get? found
    rw [nextQueries_of_rewritten found value]
    rcases rewrittenKey?_cases found with rfl | ⟨rfl, noAnd⟩ | ⟨rfl, noAnd, noOr⟩
    · simp +decide [canonicalForm, Node.ofJson, Node.ofMembers, value, List.flatMap_map]
    · simp +decide [canonicalForm, Node.ofJson, Node.ofMembers, value, noAnd, List.flatMap_map]
    · simp +decide [canonicalForm, Node.ofJson, Node.ofMembers, value, noAnd, noOr]
  | none =>
    have missing := (rewrittenKey?_eq_none_iff ms).mp found
    have noAnd : ms.get? Key.and = none := missing _ (by decide)
    have noOr : ms.get? Key.or = none := missing _ (by decide)
    have noNot : ms.get? Key.not = none := missing _ (by decide)
    rw [nextQueries_of_unrewritten found, queriesBelow, List.flatMap_assoc]
    simp only [canonicalForm, Node.ofJson, Node.ofMembers, noAnd, noOr, noNot, Noted.notices_map,
      Noted.notices_collect, List.flatMap_map, notices_canonicalEntry]

theorem notices_canonicalize_beyond {depth ceiling : Int} (beyond : ceiling < depth) (q : Json) :
    (canonicalizeNoted depth ceiling q).notices = [.truncated depth ceiling] := by
  rw [canonicalizeNoted, if_pos beyond]

/-- An object within the ceiling notes what the queries right below it note, one after the
other. -/
theorem notices_canonicalize_obj {depth ceiling : Int} (within : depth ≤ ceiling) (ms : Members) :
    (canonicalizeNoted depth ceiling (.obj ms)).notices =
      (nextQueries ms).flatMap fun q => (canonicalizeNoted (depth + 1) ceiling q).notices := by
  have start : depth ≤ ceiling + 1 := by omega
  have below : ∀ q, canonicalForm ceiling (levelsLeft (depth + 1) ceiling) q =
      canonicalizeNoted (depth + 1) ceiling q := canonicalForm_levelsLeft (by omega)
  rw [← canonicalForm_levelsLeft start, levelsLeft_succ within, notices_canonicalForm_obj]
  simp only [below]

theorem notices_canonicalize_of_not_object {depth ceiling : Int} (within : depth ≤ ceiling)
    {q : Json} (noObject : q.isObject = false) :
    (canonicalizeNoted depth ceiling q).notices = dropNotices q := by
  rw [← canonicalForm_levelsLeft (by omega), levelsLeft_succ within]
  cases q with
  | obj ms => cases noObject
  | _ => rfl

/-! ## The notices of the whole walk -/

/-- What is lost below an object is lost at the same depth seen from there. -/
theorem lossAt_after (depth ceiling : Int) (step : Step) (v : Visit) :
    lossAt depth ceiling (v.after step) = lossAt (depth + 1) ceiling v := by
  have deeper : depth + (step :: v.path).length = depth + 1 + v.path.length := by
    rw [List.length_cons]
    omega
  rw [lossAt, lossAt, Visit.after, deeper]

/-- A root within the ceiling is lost itself if it is neither an object nor null. -/
theorem lossAt_root {depth ceiling : Int} (within : depth ≤ ceiling) (q : Json) :
    (lossAt depth ceiling ⟨[], q⟩).toList = if q.isObject then [] else dropNotices q := by
  have inside : ¬depth + ([] : List Step).length = ceiling + 1 := by
    rw [List.length_nil]
    omega
  rw [lossAt, if_neg inside]
  cases q <;> rfl

theorem notices_eq_filterMap {depth ceiling : Int} (start : depth ≤ ceiling + 1) {root : Json}
    (distinct : root.DistinctKeys) :
    (canonicalizeNoted depth ceiling root).notices =
      (itinerary (levelsLeft depth ceiling) root).filterMap (lossAt depth ceiling) := by
  generalize left : levelsLeft depth ceiling = levels
  -- depth and root are general: the queries below the root stand one level deeper
  induction levels generalizing depth root with
  | zero =>
    have beyond := (levelsLeft_eq_zero_iff depth ceiling).mp left
    obtain rfl : depth = ceiling + 1 := by omega
    rw [notices_canonicalize_beyond beyond, itinerary]
    simp [lossAt]
  | succ levels ih =>
    have within : depth ≤ ceiling := by
      unfold levelsLeft at left
      omega
    rw [levelsLeft_succ within, Nat.add_right_cancel_iff] at left
    have split : ∀ below : List Visit,
        (⟨[], root⟩ :: below).filterMap (lossAt depth ceiling) =
          (lossAt depth ceiling ⟨[], root⟩).toList ++ below.filterMap (lossAt depth ceiling) := by
      intro below
      rw [List.filterMap_cons]
      cases lossAt depth ceiling ⟨[], root⟩ <;> rfl
    rw [itinerary, split, lossAt_root within]
    cases root with
    | obj ms =>
      have each : ∀ s ∈ nextSteps ms,
          ((itinerary levels s.2).map (Visit.after s.1)).filterMap (lossAt depth ceiling) =
            (canonicalizeNoted (depth + 1) ceiling s.2).notices := by
        intro s next
        have first := (mem_nextSteps distinct.1).mp next
        rw [ih (by omega) (first.distinctKeys distinct) left, List.filterMap_map]
        refine List.filterMap_congr fun v _ => ?_
        exact lossAt_after depth ceiling s.1 v
      rw [notices_canonicalize_obj within, ← map_snd_nextSteps distinct.1, List.flatMap_map,
        stepsFrom, List.filterMap_flatMap]
      exact (List.flatMap_congr each).symm
    | _ =>
      rw [notices_canonicalize_of_not_object within rfl]
      simp [stepsFrom, Json.isObject]

/-! ## No notice of a cut -/

/-- What is kept under a key depends on the forms of the queries in it. -/
theorem kept_congr {form form' : Json → Json} {key : String} {v : Json}
    (same : ∀ q ∈ heldQueries key v, form q = form' q) : kept form key v = kept form' key v := by
  unfold kept
  by_cases clause : key ∈ Key.clauses
  · rw [if_pos clause, if_pos clause]
    exact same v (mem_heldQueries.mpr (.inl ⟨clause, rfl⟩))
  · rw [if_neg clause, if_neg clause]
    by_cases list : key ∈ Key.lists
    · rw [if_pos list, if_pos list]
      cases v with
      | arr items =>
        have each : ∀ q ∈ items, form q = form' q := fun q item =>
          same q (mem_heldQueries.mpr (.inr ⟨list, items, rfl, item⟩))
        exact congrArg Json.arr (List.map_congr_left each)
      | _ => rfl
    · rw [if_neg list, if_neg list]

/-- The form of an object depends on the forms of the queries to which canonicalization goes on. -/
theorem formMembers_congr {form form' : Json → Json} {ms : Members}
    (same : ∀ q ∈ nextQueries ms, form q = form' q) :
    formMembers form ms = formMembers form' ms := by
  cases found : rewrittenKey? ms with
  | some key =>
    obtain ⟨v, value⟩ := rewrittenKey?_get? found
    rw [nextQueries_of_rewritten found value] at same
    rw [formMembers_of_rewritten form found value, formMembers_of_rewritten form' found value,
      rewritten, rewritten]
    by_cases negated : key = Key.not
    · rw [if_pos negated] at same
      rw [if_pos negated, if_pos negated, same v (List.mem_singleton_self v)]
    · rw [if_neg negated] at same
      rw [if_neg negated, if_neg negated, List.map_congr_left same]
  | none =>
    rw [nextQueries_of_unrewritten found] at same
    rw [formMembers_of_unrewritten form found, formMembers_of_unrewritten form' found]
    refine List.map_congr_left fun e member => ?_
    have held : ∀ q ∈ heldQueries e.1 e.2, form q = form' q := fun q inside =>
      same q (List.mem_flatMap.mpr ⟨e, member, inside⟩)
    rw [kept_congr held]

/-- Where nothing was cut off, the form is the same under every higher ceiling. -/
theorem canonicalize_of_untruncated {depth ceiling ceiling' : Int} (higher : ceiling ≤ ceiling')
    {root : Json}
    (untruncated : ∀ k c, Notice.truncated k c ∉ (canonicalizeNoted depth ceiling root).notices) :
    canonicalize depth ceiling' root = canonicalize depth ceiling root := by
  generalize left : levelsLeft depth ceiling = levels
  induction levels generalizing depth root with
  | zero =>
    have beyond := (levelsLeft_eq_zero_iff depth ceiling).mp left
    rw [notices_canonicalize_beyond beyond] at untruncated
    exact absurd (List.mem_singleton_self _) (untruncated depth ceiling)
  | succ levels ih =>
    have within : depth ≤ ceiling := by
      unfold levelsLeft at left
      omega
    have within' : depth ≤ ceiling' := by omega
    rw [levelsLeft_succ within, Nat.add_right_cancel_iff] at left
    cases root with
    | obj ms =>
      rw [notices_canonicalize_obj within] at untruncated
      have below : ∀ q ∈ nextQueries ms,
          canonicalize (depth + 1) ceiling' q = canonicalize (depth + 1) ceiling q := by
        intro q next
        refine ih (fun k c cut => ?_) left
        exact untruncated k c (List.mem_flatMap.mpr ⟨q, next, cut⟩)
      rw [canonicalize_obj within, canonicalize_obj within', formMembers_congr below]
    | _ => rw [canonicalize_of_not_object _ _ rfl, canonicalize_of_not_object _ _ rfl]

end SearchDesk.Query
