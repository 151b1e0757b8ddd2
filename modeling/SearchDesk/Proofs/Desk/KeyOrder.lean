import SearchDesk.Proofs.Desk.FastPath
import SearchDesk.Proofs.Query.KeyOrder

/-!
# Normalizing queries whose keys are reordered

A query may come with its keys in any order. `key_order_irrelevant` says that the order makes no
difference to normalization but the order of the keys in what is made: the canonical forms are
reordered, the same dialect is found, and the desk rewrites both queries or neither.
-/

namespace SearchDesk.Work

open Query
open Json (Reordered ReorderedMembers reordered_arr_iff reordered_obj_iff)

/-- Normalizing at the desk takes the ceiling in force. -/
theorem normalize_perform {given : Option Int} {ceiling : Int} {d : Desk}
    (inForce : ((ceilingOr given).perform d).1 = .ok ceiling) (node : Json) :
    ((normalize given node).perform d).1 = .ok (Query.normalize ceiling node) := by
  cases needed : needsCanonicalizing node with
  | true =>
    have rewriting : normalize given node = canonicalize 0 given node := by
      unfold normalize
      rw [if_pos needed]
    rw [rewriting, canonicalize_perform inForce]
    unfold Query.normalize normalizeNoted
    rw [if_pos needed, Query.canonicalize]
  | false =>
    rw [normalize_perform_of_not_needed given needed]
    unfold Query.normalize normalizeNoted
    rw [needed]
    rfl

/-- **Key order.** For a query and the same query with the keys of its objects in another order,
at any level: the canonical forms are equal up to the order of keys at every depth and under every
ceiling, both use the simplified dialect or neither does, and both are normalized, under the
ceiling in force, to queries that are equal up to the order of keys. -/
theorem key_order_irrelevant {q q' : Json} (same : Reordered q q') (distinct : q.DistinctKeys) :
    (∀ depth ceiling, Reordered (Query.canonicalize depth ceiling q)
        (Query.canonicalize depth ceiling q')) ∧
      usesSimplified q = usesSimplified q' ∧
      ∀ (given : Option Int) (ceiling : Int) (d : Desk),
        ((ceilingOr given).perform d).1 = .ok ceiling →
        ∃ r r', ((normalize given q).perform d).1 = .ok r ∧
          ((normalize given q').perform d).1 = .ok r' ∧ Reordered r r' := by
  refine ⟨fun depth ceiling => reordered_canonicalize depth ceiling same,
    usesSimplified_reordered same distinct, ?_⟩
  intro given ceiling d inForce
  exact ⟨_, _, normalize_perform inForce q, normalize_perform inForce q',
    reordered_normalize ceiling same distinct⟩

/-- The members of a query below a conjunction. -/
def innerMembers : Members := [("term", .str "a"), ("or", .arr [])]

/-- A conjunction beside the key that takes its place. -/
def clashingMembers : Members :=
  [("conjuncts", .int 1), ("and", .arr [.obj innerMembers]), ("boost", .int 2)]

/-- The same members the other way round, with those of the inner query the other way round. -/
def turnedMembers : Members :=
  [("boost", .int 2), ("and", .arr [.obj innerMembers.reverse]), ("conjuncts", .int 1)]

theorem key_order_irrelevant_turnedMembers :
    Reordered (.obj clashingMembers) (.obj turnedMembers) ∧
      (Json.obj clashingMembers).DistinctKeys ∧
      ((ceilingOr (some 1)).perform settledDesk).1 = .ok 1 ∧
      (∀ depth ceiling, Reordered (Query.canonicalize depth ceiling (.obj clashingMembers))
        (Query.canonicalize depth ceiling (.obj turnedMembers))) ∧
      usesSimplified (.obj clashingMembers) = usesSimplified (.obj turnedMembers) ∧
      ∃ r r', ((normalize (some 1) (.obj clashingMembers)).perform settledDesk).1 = .ok r ∧
        ((normalize (some 1) (.obj turnedMembers)).perform settledDesk).1 = .ok r' ∧
        Reordered r r' := by
  have inner : ReorderedMembers innerMembers innerMembers.reverse :=
    .of_perm (by simp [innerMembers, Entries.keys]) (List.reverse_perm _).symm
  have list : Reordered (.arr [.obj innerMembers]) (.arr [.obj innerMembers.reverse]) :=
    reordered_arr_iff.mpr (.singleton (reordered_obj_iff.mpr inner))
  have turned : ReorderedMembers clashingMembers clashingMembers.reverse :=
    .of_perm (by simp [clashingMembers, Entries.keys]) (List.reverse_perm _).symm
  -- the turned list replaces the one that was only moved
  have same : Reordered (.obj clashingMembers) (.obj turnedMembers) :=
    reordered_obj_iff.mpr (turned.put "and" list)
  have distinct : (Json.obj clashingMembers).DistinctKeys := by
    simp [clashingMembers, innerMembers, Json.DistinctKeys, Json.DistinctMembers,
      Json.DistinctItems]
  have inForce := ceilingOr_some 1 settledDesk
  obtain ⟨forms, dialect, normalized⟩ := key_order_irrelevant same distinct
  exact ⟨same, distinct, inForce, forms, dialect, normalized _ _ _ inForce⟩

end SearchDesk.Work
