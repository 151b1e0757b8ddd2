import SearchDesk.Proofs.Query.Visited

/-!
# Simplified keys that are left

Which queries use the simplified dialect, and where canonicalization leaves it in place:

* `usesSimplified_obj_iff` takes the search for a simplified key apart by members: an object uses
  the dialect exactly if one of its members is `Marked`;
* `Copied` are the members that canonicalization takes over as they are. In the form of an object
  a marked member is a copied one, or it holds the form of a query that canonicalization goes on
  to (`usesSimplified_formMembers_iff`);
* `usesSimplified_canonicalize_iff` follows by induction on the levels: what is left in the form of
  a query was copied at some object that canonicalization reaches.
-/

namespace SearchDesk.Query

/-- An object that uses the simplified dialect, or a list with an item that does. -/
def UsedWithin (v : Json) : Prop :=
  usesSimplified v = true ∨ ∃ items, v = .arr items ∧ ∃ q ∈ items, usesSimplified q = true

/-- A member through which its object uses the simplified dialect. -/
def Marked (e : String × Json) : Prop := e.1 ∈ Key.simplified ∨ UsedWithin e.2

/-- A member of an object that canonicalization takes over as it is. Beside a rewritten key these
are all members but those under the key and its target; else they are the members under keys that
are not structural, and the values of list keys that are no lists. -/
def Copied (ms : Members) (e : String × Json) : Prop :=
  match rewrittenKey? ms with
  | some key => e.1 ≠ key ∧ e.1 ≠ Key.target key
  | none => e.1 ∉ Key.structural ∨ (e.1 ∈ Key.lists ∧ ∀ items, e.2 ≠ .arr items)

/-! ## The search for a simplified key -/

theorem hasSimplifiedKey_iff (ms : Members) :
    hasSimplifiedKey ms = true ↔ ∃ e ∈ ms, e.1 ∈ Key.simplified := by
  simp only [hasSimplifiedKey, List.any_eq_true, Entries.has, decide_eq_true_eq]
  constructor
  · rintro ⟨key, simplified, e, mem, rfl⟩
    exact ⟨e, mem, simplified⟩
  · rintro ⟨e, mem, simplified⟩
    exact ⟨e.1, simplified, e, mem, rfl⟩

theorem someItemUses_iff (items : List Json) :
    someItemUses items = true ↔ ∃ q ∈ items, usesSimplified q = true := by
  induction items with
  | nil => simp [someItemUses]
  | cons q rest ih => simp [someItemUses, ih]

theorem usedWithin_arr_iff (items : List Json) :
    UsedWithin (.arr items) ↔ ∃ q ∈ items, usesSimplified q = true := by
  simp [UsedWithin, usesSimplified]

theorem usedWithin_map_iff (form : Json → Json) (items : List Json) :
    UsedWithin (.arr (items.map form)) ↔ ∃ q ∈ items, usesSimplified (form q) = true := by
  rw [usedWithin_arr_iff]
  constructor
  · rintro ⟨_, mem, used⟩
    obtain ⟨q, item, rfl⟩ := List.mem_map.mp mem
    exact ⟨q, item, used⟩
  · rintro ⟨q, item, used⟩
    exact ⟨form q, List.mem_map_of_mem item, used⟩

theorem usedWithin_of_object {v : Json} (object : v.isObject = true) :
    UsedWithin v ↔ usesSimplified v = true := by
  cases v with
  | obj ms => simp [UsedWithin]
  | _ => simp [Json.isObject] at object

theorem someMemberUses_iff (ms : Members) :
    someMemberUses ms = true ↔ ∃ e ∈ ms, UsedWithin e.2 := by
  induction ms with
  | nil => simp [someMemberUses]
  | cons e rest ih =>
    obtain ⟨key, v⟩ := e
    cases v with
    | arr items => simp [someMemberUses, ih, someItemUses_iff, usedWithin_arr_iff]
    | _ => simp [someMemberUses, ih, UsedWithin]

/-- An object uses the simplified dialect exactly through one of its members. -/
theorem usesSimplified_obj_iff (ms : Members) :
    usesSimplified (.obj ms) = true ↔ ∃ e ∈ ms, Marked e := by
  rw [usesSimplified, Bool.or_eq_true, hasSimplifiedKey_iff, someMemberUses_iff]
  constructor
  · rintro (⟨e, mem, simplified⟩ | ⟨e, mem, within⟩)
    · exact ⟨e, mem, .inl simplified⟩
    · exact ⟨e, mem, .inr within⟩
  · rintro ⟨e, mem, simplified | within⟩
    · exact .inl ⟨e, mem, simplified⟩
    · exact .inr ⟨e, mem, within⟩

/-! ## One level of the form -/

theorem isObject_formValue (ceiling : Int) (levels : Nat) (q : Json) :
    (formValue ceiling levels q).isObject = true := by
  cases levels with
  | zero => rfl
  | succ levels =>
    cases q with
    | obj ms =>
      rw [formValue_obj]
      rfl
    | _ => rfl

theorem copied_of_rewritten {ms : Members} {key : String} (found : rewrittenKey? ms = some key)
    (e : String × Json) : Copied ms e ↔ e.1 ≠ key ∧ e.1 ≠ Key.target key := by
  rw [Copied, found]

theorem copied_of_unrewritten {ms : Members} (found : rewrittenKey? ms = none)
    (e : String × Json) : Copied ms e ↔
      e.1 ∉ Key.structural ∨ (e.1 ∈ Key.lists ∧ ∀ items, e.2 ≠ .arr items) := by
  rw [Copied, found]

section
variable {form : Json → Json} (object : ∀ q, (form q).isObject = true)

/-- What is put under the target of a simplified key is marked by the forms in it. -/
theorem marked_target_iff (form : Json → Json) {key : String} (h : key ∈ Key.simplified)
    (v : Json) :
    Marked (Key.target key, rewritten form key v) ↔
      ∃ q ∈ (if key = Key.not then [v] else childrenOf v), usesSimplified (form q) = true := by
  have canonical : Key.target key ∉ Key.simplified :=
    (by decide : ∀ k ∈ Key.simplified, Key.target k ∉ Key.simplified) key h
  rw [Marked, or_iff_right canonical, rewritten]
  by_cases negated : key = Key.not
  · have apart : Key.disjuncts ∉ Key.simplified := by decide
    have inner : Marked (Key.disjuncts, .arr [form v]) ↔ usesSimplified (form v) = true := by
      rw [Marked, or_iff_right apart, usedWithin_arr_iff]
      simp
    rw [if_pos negated, if_pos negated, usedWithin_of_object rfl, negation,
      usesSimplified_obj_iff]
    simp [inner]
  · rw [if_neg negated, if_neg negated, usedWithin_map_iff]

include object

/-- In the form of an object without a simplified key a member is marked if it was copied and
marked before, or through the form of a query in it. -/
theorem marked_kept_iff {ms : Members} (found : rewrittenKey? ms = none) {e : String × Json}
    (plain : e.1 ∉ Key.simplified) :
    Marked (e.1, kept form e.1 e.2) ↔
      (Copied ms e ∧ Marked e) ∨ ∃ q ∈ heldQueries e.1 e.2, usesSimplified (form q) = true := by
  rw [copied_of_unrewritten found]
  obtain ⟨key, v⟩ := e
  simp only [Marked, or_iff_right plain]
  by_cases clause : key ∈ Key.clauses
  · have structural : key ∈ Key.structural := List.mem_append_right _ clause
    have noList : key ∉ Key.lists := (by decide : ∀ k ∈ Key.clauses, k ∉ Key.lists) key clause
    simp [kept, heldQueries, clause, structural, noList, usedWithin_of_object (object v)]
  · by_cases list : key ∈ Key.lists
    · have structural : key ∈ Key.structural :=
        List.mem_append_left _ (List.mem_append_right _ list)
      cases v with
      | arr items =>
        simp [kept, heldQueries, clause, list, structural, childrenOf, usedWithin_map_iff]
      | _ => simp [kept, heldQueries, clause, list, childrenOf]
    · have free : key ∉ Key.structural := by
        simp [Key.structural, plain, list, clause]
      simp [kept, heldQueries, clause, list, free]

/-- The form of an object uses the simplified dialect through what is copied from the object, or
through the form of a query that canonicalization goes on to. -/
theorem usesSimplified_formMembers_iff {ms : Members} (distinct : ms.keys.Nodup) :
    usesSimplified (.obj (formMembers form ms)) = true ↔
      (∃ e ∈ ms, Copied ms e ∧ Marked e) ∨
        ∃ q ∈ nextQueries ms, usesSimplified (form q) = true := by
  rw [usesSimplified_obj_iff]
  cases found : rewrittenKey? ms with
  | some key =>
    obtain ⟨v, value⟩ := rewrittenKey?_get? found
    rw [formMembers_of_rewritten form found value, nextQueries_of_rewritten found value,
      ← marked_target_iff form (rewrittenKey?_mem found)]
    have beside : ∀ e, e ∈ (ms.erase key).put (Key.target key) (rewritten form key v) ↔
        e = (Key.target key, rewritten form key v) ∨ e ∈ ms ∧ Copied ms e := by
      intro e
      rw [Entries.mem_put_iff (Entries.nodup_keys_erase distinct key), copied_of_rewritten found,
        Entries.erase, List.mem_filter]
      simp [and_assoc]
    constructor
    · rintro ⟨e, mem, marked⟩
      rcases (beside e).mp mem with rfl | ⟨old, copied⟩
      · exact .inr marked
      · exact .inl ⟨e, old, copied, marked⟩
    · rintro (⟨e, old, copied, marked⟩ | marked)
      · exact ⟨e, (beside e).mpr (.inr ⟨old, copied⟩), marked⟩
      · exact ⟨_, (beside _).mpr (.inl rfl), marked⟩
  | none =>
    have plain : ∀ e ∈ ms, e.1 ∉ Key.simplified := fun e mem =>
      not_mem_simplified found (Entries.get?_of_mem distinct mem)
    rw [formMembers_of_unrewritten form found, nextQueries_of_unrewritten found, queriesBelow]
    constructor
    · rintro ⟨_, mem, marked⟩
      obtain ⟨e, old, rfl⟩ := List.mem_map.mp mem
      rcases (marked_kept_iff object found (plain e old)).mp marked with copied | ⟨q, held, used⟩
      · exact .inl ⟨e, old, copied⟩
      · exact .inr ⟨q, List.mem_flatMap.mpr ⟨e, old, held⟩, used⟩
    · rintro (⟨e, old, copied⟩ | ⟨q, below, used⟩)
      · exact ⟨_, List.mem_map_of_mem old,
          (marked_kept_iff object found (plain e old)).mpr (.inl copied)⟩
      · obtain ⟨e, old, held⟩ := List.mem_flatMap.mp below
        exact ⟨_, List.mem_map_of_mem old,
          (marked_kept_iff object found (plain e old)).mpr (.inr ⟨q, held, used⟩)⟩

end

/-! ## All levels -/

theorem usesSimplified_formValue_iff (ceiling : Int) {levels : Nat} {root : Json}
    (distinct : root.DistinctKeys) :
    usesSimplified (formValue ceiling levels root) = true ↔
      ∃ ms, .obj ms ∈ visited levels root ∧ ∃ e ∈ ms, Copied ms e ∧ Marked e := by
  have nothing : usesSimplified emptyQuery = false := rfl
  -- the root is general: what is below an object has been visited from one of its next queries
  induction levels generalizing root with
  | zero => simp [visited, nothing]
  | succ levels ih =>
    cases root with
    | obj ms =>
      have next : ∀ q ∈ nextQueries ms, usesSimplified (formValue ceiling levels q) = true ↔
          ∃ ms', .obj ms' ∈ visited levels q ∧ ∃ e ∈ ms', Copied ms' e ∧ Marked e := by
        intro q next
        obtain ⟨step, first⟩ := exists_step_of_next distinct.1 next
        exact ih (first.distinctKeys distinct)
      rw [formValue_obj,
        usesSimplified_formMembers_iff (isObject_formValue ceiling levels) distinct.1]
      constructor
      · rintro (here | ⟨q, below, used⟩)
        · exact ⟨ms, mem_visited_self levels _, here⟩
        · obtain ⟨ms', come, left⟩ := (next q below).mp used
          exact ⟨ms', mem_visited_of_next below come, left⟩
      · rintro ⟨ms', come, left⟩
        rw [visited] at come
        rcases List.mem_cons.mp come with same | deeper
        · rw [Json.obj.inj same] at left
          exact .inl left
        · obtain ⟨q, below, come⟩ := List.mem_flatMap.mp deeper
          exact .inr ⟨q, below, (next q below).mpr ⟨ms', come, left⟩⟩
    | _ =>
      rw [formValue_of_not_object _ _ rfl, nothing]
      simp [visited]

/-- **Simplified keys that are left.** The canonical form of a query uses the simplified dialect
exactly if canonicalization reaches an object within the ceiling from which it copies a member
that stands under a simplified key, or whose value is an object that uses the dialect or a list
with an item that does. -/
theorem usesSimplified_canonicalize_iff (depth ceiling : Int) {root : Json}
    (distinct : root.DistinctKeys) :
    usesSimplified (canonicalize depth ceiling root) = true ↔
      ∃ path ms, Reaches root path (.obj ms) ∧ depth + path.length ≤ ceiling ∧
        ∃ e ∈ ms, Copied ms e ∧ Marked e := by
  have within : ∀ path : List Step,
      path.length < levelsLeft depth ceiling ↔ depth + path.length ≤ ceiling := by
    intro path
    unfold levelsLeft
    omega
  rw [canonicalize_eq_formValue, usesSimplified_formValue_iff ceiling distinct]
  simp only [mem_visited_iff_reaches distinct, within]
  constructor
  · rintro ⟨ms, ⟨path, short, reaches⟩, left⟩
    exact ⟨path, ms, reaches, short, left⟩
  · rintro ⟨path, ms, reaches, short, left⟩
    exact ⟨ms, ⟨path, short, reaches⟩, left⟩

/-- A negation beside the clause that takes its place and a clause that is copied. -/
def hybridClauses : Json :=
  .obj [("not", .obj [("term", .str "a")]), ("must_not", .obj [("and", .arr [])]),
    ("must", .obj [("or", .arr [])])]

/-- The copied clause keeps its simplified key; the other one is overwritten. -/
theorem usesSimplified_canonicalize_iff_hybridClauses :
    hybridClauses.DistinctKeys ∧
      (usesSimplified (canonicalize 0 0 hybridClauses) = true ↔
        ∃ path ms, Reaches hybridClauses path (.obj ms) ∧ (0 : Int) + path.length ≤ 0 ∧
          ∃ e ∈ ms, Copied ms e ∧ Marked e) := by
  have distinct : hybridClauses.DistinctKeys := by
    simp [hybridClauses, Json.DistinctKeys, Json.DistinctMembers, Json.DistinctItems]
  exact ⟨distinct, usesSimplified_canonicalize_iff 0 0 distinct⟩

end SearchDesk.Query
