import SearchDesk.Json.Equality
import SearchDesk.Proofs.Query.Settled
import SearchDesk.Proofs.Query.Visited

/-!
# The fixed points of canonicalization

`WellFormed` holds of the canonical trees: every place where a query is expected holds an
object without a simplified key, down to the ceiling, and an empty object below it. What
stands under any other key, and a list of queries that is no list, is free.

`canonicalize_eq_self_iff` says that canonicalization leaves exactly these trees as they are,
at every depth and under every ceiling, and says the same level by level.
-/

namespace SearchDesk.Query

/-- A query at a depth that is well formed in the canonical dialect within a ceiling. -/
inductive WellFormed (ceiling : Int) : Int → Json → Prop
  | empty (depth : Int) : WellFormed ceiling depth emptyQuery
  | object {depth : Int} {ms : Members} (within : depth ≤ ceiling)
      (canonical : hasSimplifiedKey ms = false)
      (below : ∀ q ∈ queriesBelow ms, WellFormed ceiling (depth + 1) q) :
      WellFormed ceiling depth (.obj ms)

/-! ## Settled queries -/

theorem settled_obj_iff {levels : Nat} {ms : Members} :
    Settled (levels + 1) (.obj ms) ↔
      hasSimplifiedKey ms = false ∧ ∀ q ∈ queriesBelow ms, Settled levels q := by
  rw [Settled, and_congr_right_iff]
  intro _
  simp only [queriesBelow, List.mem_flatMap, mem_heldQueries]
  constructor
  · rintro members q ⟨e, here, ⟨clause, rfl⟩ | ⟨list, items, value, item⟩⟩
    · exact (members e here).1 clause
    · exact (members e here).2 list items value q item
  · intro below e here
    exact ⟨fun clause => below _ ⟨e, here, .inl ⟨clause, rfl⟩⟩,
      fun list items value q item => below q ⟨e, here, .inr ⟨list, items, value, item⟩⟩⟩

/-- Whether a query is settled, level by level. -/
def decideSettled : (levels : Nat) → (q : Json) → Decidable (Settled levels q)
  | 0, q => inferInstanceAs (Decidable (q = emptyQuery))
  | levels + 1, .obj ms =>
    haveI := decideSettled levels
    decidable_of_iff (hasSimplifiedKey ms = false ∧ ∀ q ∈ queriesBelow ms, Settled levels q)
      settled_obj_iff.symm
  | _ + 1, .null | _ + 1, .bool _ | _ + 1, .int _ | _ + 1, .float _ | _ + 1, .str _
  | _ + 1, .arr _ => isFalse id

instance (levels : Nat) (q : Json) : Decidable (Settled levels q) := decideSettled levels q

theorem settled_emptyQuery (levels : Nat) : Settled levels emptyQuery := by
  cases levels with
  | zero => rfl
  | succ levels => exact settled_obj_iff.mpr ⟨rfl, by simp [queriesBelow]⟩

/-- More levels do no harm. -/
theorem Settled.mono {levels levels' : Nat} (le : levels ≤ levels') {q : Json}
    (settled : Settled levels q) : Settled levels' q := by
  induction levels generalizing levels' q with
  | zero =>
    obtain rfl : q = emptyQuery := settled
    exact settled_emptyQuery levels'
  | succ levels ih =>
    obtain ⟨n, rfl⟩ : ∃ n, levels' = n + 1 := ⟨levels' - 1, by omega⟩
    cases q with
    | obj ms =>
      obtain ⟨canonical, below⟩ := settled_obj_iff.mp settled
      exact settled_obj_iff.mpr ⟨canonical, fun q h => ih (by omega) (below q h)⟩
    | _ => exact settled.elim

theorem canonicalize_eq_self_iff_settled (depth ceiling : Int) (q : Json) :
    canonicalize depth ceiling q = q ↔ Settled (levelsLeft depth ceiling) q := by
  rw [canonicalize_eq_formValue, formValue_eq_self_iff]

/-! ## Well-formed queries -/

/-- A well-formed query, one level opened. -/
theorem wellFormed_iff {ceiling depth : Int} {q : Json} :
    WellFormed ceiling depth q ↔
      q = emptyQuery ∨ depth ≤ ceiling ∧ ∃ ms, q = .obj ms ∧ hasSimplifiedKey ms = false ∧
        ∀ child ∈ queriesBelow ms, WellFormed ceiling (depth + 1) child := by
  constructor
  · intro formed
    cases formed with
    | empty => exact .inl rfl
    | object within canonical below => exact .inr ⟨within, _, rfl, canonical, below⟩
  · rintro (rfl | ⟨within, ms, rfl, canonical, below⟩)
    · exact .empty depth
    · exact .object within canonical below

/-- The levels that are left at a depth are those down to the ceiling. -/
theorem settled_iff_wellFormed {ceiling depth : Int} {q : Json} :
    Settled (levelsLeft depth ceiling) q ↔ WellFormed ceiling depth q := by
  generalize left : levelsLeft depth ceiling = levels
  induction levels generalizing depth q with
  | zero =>
    have beyond := (levelsLeft_eq_zero_iff depth ceiling).mp left
    rw [wellFormed_iff, or_iff_left fun h => absurd h.1 (Int.not_le.mpr beyond)]
    rfl
  | succ levels ih =>
    have within : depth ≤ ceiling := by
      unfold levelsLeft at left
      omega
    have left' : levelsLeft (depth + 1) ceiling = levels := by
      rw [levelsLeft_succ within] at left
      omega
    rw [wellFormed_iff]
    cases q with
    | obj ms =>
      rw [settled_obj_iff]
      simp only [ih left']
      constructor
      · rintro ⟨canonical, below⟩
        exact .inr ⟨within, ms, rfl, canonical, below⟩
      · rintro (same | ⟨-, _, same, canonical, below⟩)
        · obtain rfl : ms = [] := Json.obj.inj same
          exact ⟨rfl, by simp [queriesBelow]⟩
        · obtain rfl := Json.obj.inj same
          exact ⟨canonical, below⟩
    | _ => simp [Settled, emptyQuery]

instance (ceiling depth : Int) (q : Json) : Decidable (WellFormed ceiling depth q) :=
  decidable_of_iff _ settled_iff_wellFormed

-- beyond the ceiling there is an empty object, and a list that is no list is free
example :
    WellFormed 1 0 (.obj [("conjuncts", .arr [.obj [("must", .obj [])]]),
      ("disjuncts", .str "a")]) := by
  decide

/-- **Fixed points.** Canonicalization leaves a query as it is exactly if the query is well
formed within the ceiling: it is the empty object, or it lies within the ceiling and is an
object without a simplified key whose queries right below are left as they are in turn. -/
theorem canonicalize_eq_self_iff (depth ceiling : Int) (q : Json) :
    (canonicalize depth ceiling q = q ↔ WellFormed ceiling depth q) ∧
      (canonicalize depth ceiling q = q ↔
        q = emptyQuery ∨ depth ≤ ceiling ∧ ∃ ms, q = .obj ms ∧ hasSimplifiedKey ms = false ∧
          ∀ child ∈ queriesBelow ms, canonicalize (depth + 1) ceiling child = child) := by
  have fixed : ∀ depth q, canonicalize depth ceiling q = q ↔ WellFormed ceiling depth q := by
    intro depth q
    rw [canonicalize_eq_self_iff_settled, settled_iff_wellFormed]
  refine ⟨fixed depth q, ?_⟩
  simp only [fixed]
  exact wellFormed_iff

end SearchDesk.Query
