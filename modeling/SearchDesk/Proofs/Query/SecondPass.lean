import SearchDesk.Proofs.Query.FixedPoint
import SearchDesk.Proofs.Query.Meaning

/-!
# A second pass of canonicalization

When the canonical form of a query is its own canonical form. A negation takes one level of the
query and two levels of its form, so that a form may be too deep for the ceiling under which it
was made. `second_pass` says how much higher the ceiling of the second pass has to be:

* `Unmixed.settled_formValue` is the induction over the levels: a form with so many levels is
  settled with twice as many;
* `negations` need all of them, which `not_settled_exclusions` shows.

An object that carries a simplified key and another structural key may keep a simplified key in
its form; `Unmixed` leaves such objects out.
-/

namespace SearchDesk.Query

/-- An object with a simplified key carries no other structural key. -/
def NonHybrid (ms : Members) : Prop := ∀ key ∈ Key.simplified, ms.has key = true → OnlyKey key ms

instance (ms : Members) : Decidable (NonHybrid ms) :=
  inferInstanceAs (Decidable (∀ key ∈ Key.simplified, ms.has key = true → OnlyKey key ms))

/-- The objects to which canonicalization comes within a number of levels are no hybrids. -/
def Unmixed (levels : Nat) (root : Json) : Prop :=
  ∀ ms, .obj ms ∈ visited levels root → NonHybrid ms

/-- The objects that a path with fewer steps than levels reaches are no hybrids. -/
theorem unmixed_iff_reaches {levels : Nat} {root : Json} (distinct : root.DistinctKeys) :
    Unmixed levels root ↔
      ∀ path ms, path.length < levels → Reaches root path (.obj ms) → NonHybrid ms := by
  simp only [Unmixed, mem_visited_iff_reaches distinct]
  constructor
  · intro unmixed path ms short reaches
    exact unmixed ms ⟨path, short, reaches⟩
  · rintro single ms ⟨path, short, reaches⟩
    exact single path ms short reaches

/-! ## The form of an object that is no hybrid -/

theorem NonHybrid.only {ms : Members} (single : NonHybrid ms) {key : String}
    (found : rewrittenKey? ms = some key) : OnlyKey key ms := by
  obtain ⟨v, value⟩ := rewrittenKey?_get? found
  refine single key (rewrittenKey?_mem found) ?_
  rw [Entries.has_iff_get?_isSome, value]
  rfl

/-- Without its only structural key an object is plain. -/
theorem OnlyKey.erase {key : String} {ms : Members} (only : OnlyKey key ms) :
    ∀ k ∈ Key.structural, (ms.erase key).get? k = none := by
  intro k structural
  by_cases same : k = key
  · rw [same, Entries.get?_erase_self]
  · rw [Entries.get?_erase_of_ne same, only k structural same]

theorem queriesBelow_of_plain {ms : Members} (plain : ∀ k ∈ Key.structural, ms.get? k = none) :
    queriesBelow ms = [] :=
  List.flatMap_eq_nil_iff.mpr fun e member =>
    heldQueries_of_not_structural (not_structural_of_plain plain e member) e.2

/-- The queries in the rewritten value of a simplified key. -/
theorem heldQueries_rewritten (form : Json → Json) {key : String} (h : key ∈ Key.simplified)
    (v : Json) :
    heldQueries (Key.target key) (rewritten form key v) =
      if key = Key.not then [negation (form v)] else (childrenOf v).map form := by
  simp only [Key.simplified, List.mem_cons, List.not_mem_nil, or_false] at h
  rcases h with rfl | rfl | rfl <;> simp +decide [heldQueries, rewritten, childrenOf]

/-- Below the form of an object whose only structural key is rewritten there is the rewritten
value and nothing else. -/
theorem queriesBelow_formMembers_of_only (form : Json → Json) {ms : Members} {key : String}
    (only : OnlyKey key ms) (found : rewrittenKey? ms = some key) {v : Json}
    (value : ms.get? key = some v) :
    queriesBelow (formMembers form ms) =
      if key = Key.not then [negation (form v)] else (childrenOf v).map form := by
  have simplified := rewrittenKey?_mem found
  have target : Key.target key ∈ Key.structural :=
    (by decide : ∀ k ∈ Key.simplified, Key.target k ∈ Key.structural) key simplified
  rw [formMembers_of_rewritten form found value,
    Entries.put_of_get?_eq_none (only.erase _ target), queriesBelow, List.flatMap_append,
    ← queriesBelow, queriesBelow_of_plain only.erase, List.nil_append, List.flatMap_singleton,
    heldQueries_rewritten form simplified]

/-- A query below the form of an object that is no hybrid is the form of a query to which
canonicalization goes on from the object, or the negation of one. -/
theorem NonHybrid.below_formMembers {form : Json → Json} {ms : Members} (single : NonHybrid ms)
    {p : Json} (below : p ∈ queriesBelow (formMembers form ms)) :
    ∃ q ∈ nextQueries ms, p = form q ∨ p = negation (form q) := by
  cases found : rewrittenKey? ms with
  | some key =>
    obtain ⟨v, value⟩ := rewrittenKey?_get? found
    rw [queriesBelow_formMembers_of_only form (single.only found) found value] at below
    rw [nextQueries_of_rewritten found value]
    by_cases negated : key = Key.not
    · rw [if_pos negated] at below ⊢
      exact ⟨v, List.mem_singleton_self v, .inr (List.mem_singleton.mp below)⟩
    · rw [if_neg negated] at below ⊢
      obtain ⟨q, child, rfl⟩ := List.mem_map.mp below
      exact ⟨q, child, .inl rfl⟩
  | none =>
    rw [queriesBelow_formMembers form found] at below
    rw [nextQueries_of_unrewritten found]
    obtain ⟨q, child, rfl⟩ := List.mem_map.mp below
    exact ⟨q, child, .inl rfl⟩

/-- The form of an object that is no hybrid has no simplified key. -/
theorem NonHybrid.hasSimplifiedKey_formMembers (form : Json → Json) {ms : Members}
    (single : NonHybrid ms) : hasSimplifiedKey (formMembers form ms) = false := by
  rw [← rewrittenKey?_eq_none_iff_hasSimplifiedKey, rewrittenKey?_eq_none_iff]
  intro k simplified
  cases found : rewrittenKey? ms with
  | some key =>
    obtain ⟨v, value⟩ := rewrittenKey?_get? found
    refine (single.only found).formMembers form value k
      ((by decide : Key.simplified ⊆ Key.structural) simplified) fun same => ?_
    -- the target of a simplified key is canonical
    have canonical : ∀ k ∈ Key.simplified, Key.target k ∉ Key.simplified := by decide
    exact canonical key (rewrittenKey?_mem found) (same ▸ simplified)
  | none =>
    rw [get?_formMembers_of_unrewritten form found,
      (rewrittenKey?_eq_none_iff ms).mp found k simplified, Option.map_none]

/-! ## Twice the levels -/

theorem Unmixed.next {levels : Nat} {ms : Members} (unmixed : Unmixed (levels + 1) (.obj ms))
    {q : Json} (next : q ∈ nextQueries ms) : Unmixed levels q :=
  fun ms' here => unmixed ms' (mem_visited_of_next next here)

theorem settled_negation_iff {levels : Nat} {q : Json} :
    Settled (levels + 1) (negation q) ↔ Settled levels q := by
  have canonical : hasSimplifiedKey [(Key.disjuncts, .arr [q])] = false := rfl
  have below : queriesBelow [(Key.disjuncts, .arr [q])] = [q] := rfl
  rw [negation, settled_obj_iff, below]
  simp [canonical]

/-- A form with a number of levels is settled with twice as many. -/
theorem Unmixed.settled_formValue (ceiling : Int) {levels : Nat} {q : Json}
    (unmixed : Unmixed levels q) : Settled (2 * levels) (formValue ceiling levels q) := by
  -- a level of the query takes one level of the form, or two below a negation
  induction levels generalizing q with
  | zero => rfl
  | succ levels ih =>
    cases q with
    | obj ms =>
      have single : NonHybrid ms := unmixed ms (mem_visited_self levels _)
      rw [formValue_obj, Nat.mul_succ, settled_obj_iff]
      refine ⟨single.hasSimplifiedKey_formMembers _, fun p below => ?_⟩
      obtain ⟨q, next, rfl | rfl⟩ := single.below_formMembers below
      · exact (ih (unmixed.next next)).mono (Nat.le_succ _)
      · exact settled_negation_iff.mpr (ih (unmixed.next next))
    | _ =>
      rw [formValue_of_not_object _ _ rfl]
      exact settled_emptyQuery _

/-! ## Nested negations -/

/-- So many negations, one inside the other. -/
def negations : Nat → Json
  | 0 => emptyQuery
  | n + 1 => .obj [(Key.not, negations n)]

/-- The canonical form of so many negations. -/
def exclusions : Nat → Json
  | 0 => emptyQuery
  | n + 1 => .obj [(Key.mustNot, negation (exclusions n))]

theorem nonHybrid_not (q : Json) : NonHybrid [(Key.not, q)] := by
  intro key _ present k _ ne
  have same : Key.not = key := by simpa [Entries.has] using present
  rw [Entries.get?, if_neg (same ▸ ne.symm), Entries.get?]

theorem unmixed_negations (levels n : Nat) : Unmixed levels (negations n) := by
  induction levels generalizing n with
  | zero =>
    intro ms here
    cases here
  | succ levels ih =>
    intro ms here
    cases n with
    | zero =>
      have next : nextQueries [] = [] := rfl
      rw [negations, emptyQuery, visited, next, List.flatMap_nil, List.mem_singleton] at here
      rw [Json.obj.inj here]
      decide
    | succ n =>
      have next : nextQueries [(Key.not, negations n)] = [negations n] := rfl
      rw [negations, visited, next, List.flatMap_singleton] at here
      rcases List.mem_cons.mp here with same | deeper
      · rw [Json.obj.inj same]
        exact nonHybrid_not (negations n)
      · exact ih n ms deeper

theorem formValue_negations (ceiling : Int) (n : Nat) :
    formValue ceiling n (negations n) = exclusions n := by
  induction n with
  | zero => rfl
  | succ n ih =>
    have form : ∀ q, formMembers (formValue ceiling n) [(Key.not, q)] =
        [(Key.mustNot, negation (formValue ceiling n q))] := fun _ => rfl
    rw [negations, formValue_obj, form, ih, exclusions]

/-- Each negation takes two levels of the form, and there is one more object inside. -/
theorem not_settled_exclusions (n : Nat) : ¬Settled (2 * n + 1) (exclusions (n + 1)) := by
  have below : ∀ q, queriesBelow [(Key.mustNot, negation q)] = [negation q] := fun _ => rfl
  induction n with
  | zero =>
    intro settled
    have inner := (settled_obj_iff.mp settled).2 (negation emptyQuery) (by simp [below, exclusions])
    simp [Settled, negation, emptyQuery] at inner
  | succ n ih =>
    intro settled
    have inner := (settled_obj_iff.mp settled).2 (negation (exclusions (n + 1))) (by simp [below])
    exact ih (settled_negation_iff.mp inner)

/-! ## The second pass -/

/-- **Second pass.** The canonical form under a ceiling is its own canonical form under every
ceiling that is more than twice as high, if no object mixes a simplified key with another
structural one. Under a ceiling that is exactly twice as high it need not be. -/
theorem second_pass (m : Nat) :
    (∀ q, Unmixed (m + 1) q → ∀ m₂ : Int, 2 * m + 1 ≤ m₂ →
        canonicalize 0 m₂ (canonicalize 0 m q) = canonicalize 0 m q) ∧
      ∃ q, (∀ levels, Unmixed levels q) ∧
        canonicalize 0 (2 * m) (canonicalize 0 m q) ≠ canonicalize 0 m q := by
  have first : ∀ q, canonicalize 0 m q = formValue m (m + 1) q := by
    intro q
    have levels : levelsLeft 0 m = m + 1 := by
      unfold levelsLeft
      omega
    rw [canonicalize_eq_formValue, levels]
  constructor
  · intro q unmixed m₂ high
    have levels : 2 * (m + 1) ≤ levelsLeft 0 m₂ := by
      unfold levelsLeft
      omega
    rw [canonicalize_eq_self_iff_settled, first]
    exact (unmixed.settled_formValue m).mono levels
  · refine ⟨negations (m + 1), fun levels => unmixed_negations levels _, ?_⟩
    have levels : levelsLeft 0 (2 * m) = 2 * m + 1 := by
      unfold levelsLeft
      omega
    rw [Ne, canonicalize_eq_self_iff_settled, first, formValue_negations, levels]
    exact not_settled_exclusions m

/-- Both dialects, with a child that is no query and two that lie beyond the ceiling. -/
def deepTree : Json :=
  .obj [("boost", .int 2), ("and", .arr [
    .obj [("not", .obj [("or", .arr [])])],
    .obj [("must", .arr [.null]), ("should", .obj [("term", .str "a")])],
    .int 5])]

theorem second_pass_deepTree :
    Unmixed 2 deepTree ∧ (2 * (1 : Nat) + 1 : Int) ≤ 3 ∧
      canonicalize 0 3 (canonicalize 0 1 deepTree) = canonicalize 0 1 deepTree := by
  have come : visited 2 deepTree =
      [deepTree, .obj [("not", .obj [("or", .arr [])])],
        .obj [("must", .arr [.null]), ("should", .obj [("term", .str "a")])], .int 5] := by
    decide
  have unmixed : Unmixed 2 deepTree := by
    intro ms here
    rw [come] at here
    simp only [deepTree, List.mem_cons, Json.obj.injEq, List.not_mem_nil, or_false,
      reduceCtorEq] at here
    rcases here with rfl | rfl | rfl <;> decide
  exact ⟨unmixed, by decide, (second_pass 1).1 deepTree unmixed 3 (by decide)⟩

end SearchDesk.Query
