import SearchDesk.Proofs.Query.Level

/-!
# Queries that are canonical already

`Settled` holds of the queries that are well formed in the canonical dialect down to a number
of levels: every place where a query is expected holds an object, no such object has a
simplified key, and those below the last level are empty. `formValue_eq_self_iff` says that
these are exactly the queries that canonicalization leaves as they are.
-/

namespace SearchDesk.Query

/-- A query is well formed in the canonical dialect, and empty where the levels end. -/
def Settled : Nat → Json → Prop
  | 0, q => q = emptyQuery
  | levels + 1, .obj ms =>
    hasSimplifiedKey ms = false ∧
      ∀ e ∈ ms, (e.1 ∈ Key.clauses → Settled levels e.2) ∧
        (e.1 ∈ Key.lists → ∀ items, e.2 = .arr items → ∀ q ∈ items, Settled levels q)
  | _ + 1, _ => False

theorem rewrittenKey?_eq_none_iff_hasSimplifiedKey (ms : Members) :
    rewrittenKey? ms = none ↔ hasSimplifiedKey ms = false := by
  simp [rewrittenKey?, hasSimplifiedKey]

private theorem map_eq_self_iff {α : Type} (f : α → α) (l : List α) :
    l.map f = l ↔ ∀ a ∈ l, f a = a := by
  have pointwise : l.map f = l.map id ↔ ∀ a ∈ l, f a = id a := List.map_inj_left
  rwa [List.map_id] at pointwise

/-- A value is kept as it is exactly if the queries in it are. -/
theorem kept_eq_self_iff (form : Json → Json) (key : String) (v : Json) :
    kept form key v = v ↔
      (key ∈ Key.clauses → form v = v) ∧
        (key ∈ Key.lists → ∀ items, v = .arr items → ∀ q ∈ items, form q = q) := by
  unfold kept
  by_cases clause : key ∈ Key.clauses
  · have noList : key ∉ Key.lists := (by decide : ∀ k ∈ Key.clauses, k ∉ Key.lists) key clause
    simp [clause, noList]
  · by_cases list : key ∈ Key.lists
    · cases v with
      | arr items => simp [clause, list, map_eq_self_iff]
      | _ => simp [clause, list]
    · simp [clause, list]

/-- An object is its own form exactly if no key of it is rewritten and every value is kept. -/
theorem formMembers_eq_self_iff (form : Json → Json) (ms : Members) :
    formMembers form ms = ms ↔
      hasSimplifiedKey ms = false ∧
        ∀ e ∈ ms, (e.1 ∈ Key.clauses → form e.2 = e.2) ∧
          (e.1 ∈ Key.lists → ∀ items, e.2 = .arr items → ∀ q ∈ items, form q = q) := by
  rw [← rewrittenKey?_eq_none_iff_hasSimplifiedKey]
  cases found : rewrittenKey? ms with
  | some key =>
    -- the rewritten key is a key of the object and not of its form
    have differs : formMembers form ms ≠ ms := fun same => by
      have gone := get?_formMembers_self form found
      obtain ⟨v, value⟩ := rewrittenKey?_get? found
      rw [same, value] at gone
      cases gone
    simp [differs]
  | none =>
    rw [formMembers_of_unrewritten form found, map_eq_self_iff]
    simp [Prod.ext_iff, kept_eq_self_iff]

/-- The settled queries are those that canonicalization leaves as they are. -/
theorem formValue_eq_self_iff (ceiling : Int) (levels : Nat) (q : Json) :
    formValue ceiling levels q = q ↔ Settled levels q := by
  -- `Settled` recurses on the levels as the form does
  induction levels generalizing q with
  | zero => exact eq_comm
  | succ levels ih =>
    cases q with
    | obj ms =>
      rw [formValue_obj, Json.obj.injEq, formMembers_eq_self_iff, Settled]
      simp only [ih]
    | _ =>
      rw [formValue_of_not_object _ _ rfl]
      simp [emptyQuery, Settled]

end SearchDesk.Query
