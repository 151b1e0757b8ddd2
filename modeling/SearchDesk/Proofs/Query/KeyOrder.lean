import SearchDesk.Proofs.Json.Reordered
import SearchDesk.Proofs.Query.SimplifiedKeys

/-!
# The order of keys in a query

Reordering the keys of a query, at any level, reorders its canonical form and nothing else:

* which key is rewritten is decided by the keys that are there, and the members of the form are
  made by operations on dictionaries that respect the order (`reordered_formMembers`);
  `reordered_canonicalize` follows by induction on the levels;
* a simplified key is found in one order exactly if it is found in the other
  (`usesSimplified_reordered`), since no object repeats a key.
-/

namespace SearchDesk.Query

open Json (Reordered ReorderedItems ReorderedMembers reordered_arr_iff reordered_obj_iff)

theorem reordered_childrenOf {v w : Json} (same : Reordered v w) :
    ReorderedItems (childrenOf v) (childrenOf w) := by
  cases same with
  | same => exact .refl _
  | arr length items => exact ⟨length, items⟩
  | obj => exact .refl []

/-! ## Canonical forms -/

section
variable {form : Json → Json} (respects : ∀ v w, Reordered v w → Reordered (form v) (form w))
include respects

theorem reordered_rewritten (key : String) {v w : Json} (same : Reordered v w) :
    Reordered (rewritten form key v) (rewritten form key w) := by
  unfold rewritten
  by_cases negated : key = Key.not
  · rw [if_pos negated, if_pos negated, negation, negation, reordered_obj_iff]
    have list : Reordered (.arr [form v]) (.arr [form w]) :=
      reordered_arr_iff.mpr (.singleton (respects v w same))
    exact (ReorderedMembers.refl []).put Key.disjuncts list
  · rw [if_neg negated, if_neg negated, reordered_arr_iff]
    exact (reordered_childrenOf same).map respects

theorem reordered_kept (key : String) {v w : Json} (same : Reordered v w) :
    Reordered (kept form key v) (kept form key w) := by
  unfold kept
  by_cases clause : key ∈ Key.clauses
  · rw [if_pos clause, if_pos clause]
    exact respects v w same
  · rw [if_neg clause, if_neg clause]
    by_cases list : key ∈ Key.lists
    · rw [if_pos list, if_pos list]
      cases same with
      | same => exact .same _
      | arr length items =>
        exact reordered_arr_iff.mpr (ReorderedItems.map respects ⟨length, items⟩)
      | obj keys values => exact .obj keys values
    · rwa [if_neg list, if_neg list]

theorem reordered_formMembers {ms ns : Members} (same : ReorderedMembers ms ns) :
    ReorderedMembers (formMembers form ms) (formMembers form ns) := by
  have found' := rewrittenKey?_congr same.has_eq
  cases found : rewrittenKey? ms with
  | some key =>
    rw [found] at found'
    obtain ⟨v, value⟩ := rewrittenKey?_get? found
    obtain ⟨w, value'⟩ := rewrittenKey?_get? found'.symm
    rw [formMembers_of_rewritten form found value, formMembers_of_rewritten form found'.symm value']
    exact (same.erase key).put _
      (reordered_rewritten respects key (same.values key v w value value'))
  | none =>
    rw [found] at found'
    rw [formMembers_of_unrewritten form found, formMembers_of_unrewritten form found'.symm]
    exact same.map fun key v w => reordered_kept respects key

end

theorem reordered_formValue (ceiling : Int) (levels : Nat) :
    ∀ v w, Reordered v w → Reordered (formValue ceiling levels v) (formValue ceiling levels w) := by
  induction levels with
  | zero =>
    intro v w _
    exact .same emptyQuery
  | succ levels ih =>
    intro v w same
    cases same with
    | same => exact .same _
    | arr =>
      rw [formValue_of_not_object _ _ rfl, formValue_of_not_object _ _ rfl]
      exact .same emptyQuery
    | obj keys values =>
      rw [formValue_obj, formValue_obj, reordered_obj_iff]
      exact reordered_formMembers ih ⟨keys, values⟩

theorem reordered_canonicalize (depth ceiling : Int) {v w : Json} (same : Reordered v w) :
    Reordered (canonicalize depth ceiling v) (canonicalize depth ceiling w) := by
  rw [canonicalize_eq_formValue, canonicalize_eq_formValue]
  exact reordered_formValue ceiling _ v w same

/-! ## Simplified keys -/

/-- In an object that repeats no key the marked members are those that its keys look up. -/
theorem exists_marked_iff {ms : Members} (distinct : ms.keys.Nodup) :
    (∃ e ∈ ms, Marked e) ↔ ∃ key v, ms.get? key = some v ∧ Marked (key, v) := by
  constructor
  · rintro ⟨⟨key, v⟩, mem, marked⟩
    exact ⟨key, v, Entries.get?_of_mem distinct mem, marked⟩
  · rintro ⟨key, v, value, marked⟩
    exact ⟨(key, v), Entries.mem_of_get? value, marked⟩

/-- A value and a reordered one use the simplified dialect, or hold it in a list, together. -/
theorem used_reordered {v w : Json} (same : Reordered v w) (distinct : v.DistinctKeys) :
    (usesSimplified v = true ↔ usesSimplified w = true) ∧ (UsedWithin v ↔ UsedWithin w) := by
  -- the value of a member counts as a list too, so both parts are carried along
  induction same with
  | same v => exact ⟨Iff.rfl, Iff.rfl⟩
  | arr length items ih =>
    refine ⟨Iff.rfl, ?_⟩
    rw [usedWithin_arr_iff, usedWithin_arr_iff]
    refine Json.exists_item_iff length fun i a b atA atB => ?_
    exact (ih i a b atA atB
      (Json.distinctKeys_of_mem_items distinct (List.mem_of_getElem? atA))).1
  | @obj ms ns keys values ih =>
    have members : ReorderedMembers ms ns := ⟨keys, values⟩
    have marked_iff : ∀ key v w, ms.get? key = some v → ns.get? key = some w →
        (Marked (key, v) ↔ Marked (key, w)) := by
      intro key v w value value'
      have below := Json.distinctKeys_of_mem_members distinct.2 (Entries.mem_of_get? value)
      rw [Marked, Marked, (ih key v w value value' below).2]
    have uses : usesSimplified (.obj ms) = true ↔ usesSimplified (.obj ns) = true := by
      rw [usesSimplified_obj_iff, usesSimplified_obj_iff, exists_marked_iff distinct.1,
        exists_marked_iff (keys.nodup_iff.mp distinct.1)]
      exact members.exists_value_iff marked_iff
    exact ⟨uses, by rw [usedWithin_of_object rfl, usedWithin_of_object rfl, uses]⟩

theorem usesSimplified_reordered {v w : Json} (same : Reordered v w) (distinct : v.DistinctKeys) :
    usesSimplified v = usesSimplified w := by
  rw [Bool.eq_iff_iff]
  exact (used_reordered same distinct).1

theorem needsCanonicalizing_reordered {v w : Json} (same : Reordered v w)
    (distinct : v.DistinctKeys) : needsCanonicalizing v = needsCanonicalizing w := by
  have uses := usesSimplified_reordered same distinct
  cases same with
  | same => rfl
  | arr => rfl
  | obj => exact uses

/-- What is normalized is reordered with the query, whether it is rewritten or left alone. -/
theorem reordered_normalize (ceiling : Int) {v w : Json} (same : Reordered v w)
    (distinct : v.DistinctKeys) : Reordered (normalize ceiling v) (normalize ceiling w) := by
  have needed := needsCanonicalizing_reordered same distinct
  unfold normalize normalizeNoted
  rw [← needed]
  split
  · exact reordered_canonicalize 0 ceiling same
  · exact same

end SearchDesk.Query
