import SearchDesk.Proofs.Query.Level
import Mathlib.Tactic.ByContra
import Mathlib.Tactic.SplitIfs

/-!
# The meaning of a query

What a boolean query says of a document, given which of its leaves hold, and that the
canonical form says the same:

* `truth` reads a query in either dialect; members that are no compound are ignored;
* `IsTree` holds of the queries in which every object is a leaf or carries exactly one
  compound key, over queries of the same kind;
* `depth` counts the levels of a query below its root;
* `formValue_tree` is the induction over trees: a form with enough levels is a tree again,
  with the same truth.

`should` has no truth of its own, because how many of its queries have to match is up to
the engine; no tree carries it.
-/

namespace SearchDesk.Query

namespace Key

/-- The keys over a list of queries that all have to hold. -/
def conjunctive : List String := [and, conjuncts]

/-- The keys over a list of queries of which one has to hold. -/
def disjunctive : List String := [or, disjuncts]

/-- The keys over a query that must not hold. -/
def negative : List String := [not, mustNot]

end Key

/-! ## Reading a query -/

mutual

/-- The truth of a query, given which leaves hold. -/
def truth (leaf : Members → Bool) : Json → Bool
  | .obj ms => (clauseTruth leaf ms).getD (leaf ms)
  | _ => false

/-- The truth of the first compound among the members of an object. -/
def clauseTruth (leaf : Members → Bool) : List (String × Json) → Option Bool
  | [] => none
  | (key, .arr items) :: rest =>
    if key ∈ Key.conjunctive then some ((truths leaf items).all id)
    else if key ∈ Key.disjunctive then some ((truths leaf items).any id)
    else clauseTruth leaf rest
  | (key, v) :: rest =>
    if key ∈ Key.negative then some (!truth leaf v)
    else if key = Key.must then some (truth leaf v)
    else clauseTruth leaf rest

/-- The truth of every query in a list. -/
def truths (leaf : Members → Bool) : List Json → List Bool
  | [] => []
  | q :: rest => truth leaf q :: truths leaf rest

end

mutual

/-- The number of levels of a query below its root. -/
def depth : Json → Nat
  | .obj ms => membersDepth ms
  | _ => 0

/-- The number of levels below an object with the given members. -/
def membersDepth : List (String × Json) → Nat
  | [] => 0
  | (key, .arr items) :: rest =>
    max (if key ∈ Key.itemwise then itemsDepth items else 0) (membersDepth rest)
  | (key, v) :: rest =>
    max (if key ∈ Key.single then depth v + 1 else 0) (membersDepth rest)

/-- The number of levels from an object down through a list of queries. -/
def itemsDepth : List Json → Nat
  | [] => 0
  | q :: rest => max (depth q + 1) (itemsDepth rest)

end

/-- An object carries no structural key but the given one. -/
def OnlyKey (key : String) (ms : Members) : Prop :=
  ∀ k ∈ Key.structural, k ≠ key → ms.get? k = none

instance (key : String) (ms : Members) : Decidable (OnlyKey key ms) :=
  inferInstanceAs (Decidable (∀ k ∈ Key.structural, k ≠ key → ms.get? k = none))

/-- A query whose objects are leaves or carry exactly one compound key. -/
inductive IsTree : Json → Prop
  | leaf {ms : Members} (plain : ∀ k ∈ Key.structural, ms.get? k = none) : IsTree (.obj ms)
  | combination {ms : Members} {key : String} {items : List Json} (only : OnlyKey key ms)
      (kind : key ∈ Key.itemwise) (value : ms.get? key = some (.arr items))
      (trees : ∀ q ∈ items, IsTree q) : IsTree (.obj ms)
  | clause {ms : Members} {key : String} {q : Json} (only : OnlyKey key ms)
      (kind : key ∈ Key.must :: Key.negative) (value : ms.get? key = some q) (tree : IsTree q) :
      IsTree (.obj ms)

/-! ## Truth of a tree -/

theorem truths_eq_map (leaf : Members → Bool) (qs : List Json) :
    truths leaf qs = qs.map (truth leaf) := by
  induction qs with
  | nil => rfl
  | cons q rest ih => rw [truths, ih, List.map_cons]

/-- The first member that is a compound decides. -/
theorem clauseTruth_cons (leaf : Members → Bool) (e : String × Json) (rest : Members) :
    clauseTruth leaf (e :: rest) = (clauseTruth leaf [e]).or (clauseTruth leaf rest) := by
  obtain ⟨key, v⟩ := e
  cases v <;> simp only [clauseTruth] <;> split_ifs <;> rfl

/-- The keys with a truth of their own are structural. -/
theorem Key.read_structural :
    Key.conjunctive ++ Key.disjunctive ++ Key.negative ++ [Key.must] ⊆ Key.structural := by
  decide

theorem clauseTruth_of_not_structural (leaf : Members → Bool) {key : String}
    (h : key ∉ Key.structural) (v : Json) : clauseTruth leaf [(key, v)] = none := by
  have unread : key ∉ Key.conjunctive ++ Key.disjunctive ++ Key.negative ++ [Key.must] :=
    fun m => h (Key.read_structural m)
  simp only [List.mem_append, List.mem_singleton, not_or] at unread
  obtain ⟨⟨⟨noAll, noAny⟩, noNegation⟩, noMust⟩ := unread
  cases v <;> simp [clauseTruth, noAll, noAny, noNegation, noMust]

theorem not_structural_of_plain {ms : Members}
    (plain : ∀ k ∈ Key.structural, ms.get? k = none) :
    ∀ e ∈ ms, e.1 ∉ Key.structural := fun e member structural => by
  have present : ms.has e.1 = true := List.any_eq_true.mpr ⟨e, member, by simp⟩
  rw [Entries.has_iff_get?_isSome, plain e.1 structural] at present
  cases present

theorem clauseTruth_of_plain (leaf : Members → Bool) {ms : Members}
    (plain : ∀ e ∈ ms, e.1 ∉ Key.structural) : clauseTruth leaf ms = none := by
  induction ms with
  | nil => rfl
  | cons e rest ih =>
    obtain ⟨here, later⟩ := List.forall_mem_cons.mp plain
    rw [clauseTruth_cons, clauseTruth_of_not_structural leaf here, Option.none_or, ih later]

/-- The only structural member of an object decides. -/
theorem clauseTruth_of_only (leaf : Members → Bool) {ms : Members} {key : String} {v : Json}
    {b : Bool} (only : OnlyKey key ms) (value : ms.get? key = some v)
    (read : clauseTruth leaf [(key, v)] = some b) : clauseTruth leaf ms = some b := by
  induction ms with
  | nil => simp [Entries.get?] at value
  | cons e rest ih =>
    obtain ⟨k, w⟩ := e
    rw [clauseTruth_cons]
    by_cases here : k = key
    · subst here
      have same : w = v := by simpa [Entries.get?] using value
      rw [same, read, Option.some_or]
    · have other : k ∉ Key.structural := fun m => by
        simpa [Entries.get?] using only k m here
      rw [clauseTruth_of_not_structural leaf other, Option.none_or]
      refine ih (fun k' m ne => ?_) (by simpa [Entries.get?, here] using value)
      have differs : k ≠ k' := fun same => other (same ▸ m)
      simpa [Entries.get?, differs] using only k' m ne

theorem truth_leaf (leaf : Members → Bool) {ms : Members}
    (plain : ∀ k ∈ Key.structural, ms.get? k = none) : truth leaf (.obj ms) = leaf ms := by
  rw [truth, clauseTruth_of_plain leaf (not_structural_of_plain plain), Option.getD_none]

section
variable (leaf : Members → Bool) {ms : Members} {key : String} {items : List Json} {q : Json}

theorem truth_conjunction (only : OnlyKey key ms) (kind : key ∈ Key.conjunctive)
    (value : ms.get? key = some (.arr items)) :
    truth leaf (.obj ms) = (items.map (truth leaf)).all id := by
  have read : clauseTruth leaf [(key, .arr items)] = some ((items.map (truth leaf)).all id) := by
    rw [clauseTruth, if_pos kind, truths_eq_map]
  rw [truth, clauseTruth_of_only leaf only value read, Option.getD_some]

theorem truth_disjunction (only : OnlyKey key ms) (kind : key ∈ Key.disjunctive)
    (value : ms.get? key = some (.arr items)) :
    truth leaf (.obj ms) = (items.map (truth leaf)).any id := by
  have notAll : key ∉ Key.conjunctive :=
    (by decide : ∀ k ∈ Key.disjunctive, k ∉ Key.conjunctive) key kind
  have read : clauseTruth leaf [(key, .arr items)] = some ((items.map (truth leaf)).any id) := by
    rw [clauseTruth, if_neg notAll, if_pos kind, truths_eq_map]
  rw [truth, clauseTruth_of_only leaf only value read, Option.getD_some]

theorem truth_negation (only : OnlyKey key ms) (kind : key ∈ Key.negative)
    (value : ms.get? key = some q) (object : q.isObject = true) :
    truth leaf (.obj ms) = !truth leaf q := by
  have read : clauseTruth leaf [(key, q)] = some (!truth leaf q) := by
    cases q <;> simp [clauseTruth, kind, Json.isObject] at object ⊢
  rw [truth, clauseTruth_of_only leaf only value read, Option.getD_some]

theorem truth_must (only : OnlyKey Key.must ms) (value : ms.get? Key.must = some q)
    (object : q.isObject = true) : truth leaf (.obj ms) = truth leaf q := by
  have read : clauseTruth leaf [(Key.must, q)] = some (truth leaf q) := by
    cases q <;>
      simp [clauseTruth, Json.isObject, show Key.must ∉ Key.negative by decide] at object ⊢
  rw [truth, clauseTruth_of_only leaf only value read, Option.getD_some]

end

theorem IsTree.isObject {q : Json} (tree : IsTree q) : q.isObject = true := by
  cases tree <;> rfl

theorem onlyKey_negation (q : Json) :
    OnlyKey Key.disjuncts [(Key.disjuncts, .arr [q])] := by
  intro k _ ne
  simp [Entries.get?, ne.symm]

/-- A disjunction of a single query is as true as the query. -/
theorem truth_singleton (leaf : Members → Bool) (q : Json) :
    truth leaf (negation q) = truth leaf q := by
  have only := onlyKey_negation q
  rw [negation, truth_disjunction leaf only (by decide) rfl]
  simp

theorem IsTree.negation {q : Json} (tree : IsTree q) : IsTree (negation q) :=
  .combination (onlyKey_negation q) (by decide) rfl (by simpa using tree)

/-! ## Depth -/

theorem depth_lt_of_mem_items {q : Json} {items : List Json} (h : q ∈ items) :
    depth q < itemsDepth items := by
  induction items with
  | nil => simp at h
  | cons p rest ih =>
    rw [itemsDepth]
    rcases List.mem_cons.mp h with rfl | later
    · omega
    · have := ih later
      omega

theorem membersDepth_cons (e : String × Json) (rest : Members) :
    membersDepth (e :: rest) = max (membersDepth [e]) (membersDepth rest) := by
  obtain ⟨key, v⟩ := e
  cases v <;> simp [membersDepth]

theorem membersDepth_member {e : String × Json} {ms : Members} (h : e ∈ ms) :
    membersDepth [e] ≤ membersDepth ms := by
  induction ms with
  | nil => cases h
  | cons e' rest ih =>
    rw [membersDepth_cons e' rest]
    rcases List.mem_cons.mp h with rfl | later
    · exact Nat.le_max_left _ _
    · exact Nat.le_trans (ih later) (Nat.le_max_right _ _)

theorem itemsDepth_le {ms : Members} {key : String} {items : List Json}
    (kind : key ∈ Key.itemwise) (value : ms.get? key = some (.arr items)) :
    itemsDepth items ≤ membersDepth ms := by
  have here := membersDepth_member (Entries.mem_of_get? value)
  rw [membersDepth, if_pos kind] at here
  omega

theorem depth_lt_of_clause {ms : Members} {key : String} {q : Json}
    (kind : key ∈ Key.single) (value : ms.get? key = some q)
    (object : q.isObject = true) : depth q < membersDepth ms := by
  have here := membersDepth_member (Entries.mem_of_get? value)
  cases q <;> simp only [Json.isObject, Bool.false_eq_true] at object
  rw [membersDepth, if_pos kind] at here
  · omega
  · rintro _ ⟨⟩

/-! ## The canonical form of a tree -/

/-- The single structural key of an object is the one that is rewritten, if any is. -/
theorem OnlyKey.eq_of_rewritten {ms : Members} {key k : String} (only : OnlyKey key ms)
    (found : rewrittenKey? ms = some k) : k = key := by
  by_contra ne
  obtain ⟨w, present⟩ := rewrittenKey?_get? found
  have structural : k ∈ Key.structural :=
    (by decide : Key.simplified ⊆ Key.structural) (rewrittenKey?_mem found)
  rw [only k structural ne] at present
  cases present

theorem OnlyKey.opens {ms : Members} {key : String} {v : Json} (only : OnlyKey key ms)
    (structural : key ∈ Key.structural) (value : ms.get? key = some v) : Opens ms key := by
  unfold Opens
  cases found : rewrittenKey? ms with
  | some k => exact (only.eq_of_rewritten found).symm
  | none =>
    rw [Key.structural, List.append_assoc] at structural
    exact (List.mem_append.mp structural).resolve_left (not_mem_simplified found value)

theorem OnlyKey.formMembers {ms : Members} {key : String} {v : Json} (form : Json → Json)
    (only : OnlyKey key ms) (value : ms.get? key = some v) :
    OnlyKey (Key.target key) (formMembers form ms) := by
  intro k structural ne
  cases found : rewrittenKey? ms with
  | some k' =>
    have same := only.eq_of_rewritten found
    subst same
    by_cases erased : k = k'
    · rw [erased, get?_formMembers_self form found]
    · rw [get?_formMembers_of_ne form found erased ne, only k structural erased]
  | none =>
    rw [Key.target_of_not_mem (not_mem_simplified found value)] at ne
    rw [get?_formMembers_of_unrewritten form found, only k structural ne, Option.map_none]

theorem formValue_leaf (ceiling : Int) (levels : Nat) {ms : Members}
    (plain : ∀ k ∈ Key.structural, ms.get? k = none) :
    formValue ceiling (levels + 1) (.obj ms) = .obj ms := by
  have unrewritten : rewrittenKey? ms = none :=
    (rewrittenKey?_eq_none_iff ms).mpr fun k m =>
      plain k ((by decide : Key.simplified ⊆ Key.structural) m)
  rw [formValue_obj, formMembers_of_unrewritten _ unrewritten]
  congr 1
  refine (List.map_congr_left fun e member => ?_).trans (List.map_id ms)
  have other := not_structural_of_plain plain e member
  have noClause : e.1 ∉ Key.clauses := fun m =>
    other ((by decide : Key.clauses ⊆ Key.structural) m)
  have noList : e.1 ∉ Key.lists := fun m => other ((by decide : Key.lists ⊆ Key.structural) m)
  simp [kept, noClause, noList]

section
variable (form : Json → Json) {ms : Members} {key : String} {items : List Json} {q : Json}

/-- If the items of a list have forms with their truth, so has the object around the list. -/
theorem formMembers_combination (only : OnlyKey key ms) (kind : key ∈ Key.itemwise)
    (value : ms.get? key = some (.arr items))
    (forms : ∀ q ∈ items, IsTree (form q) ∧ ∀ leaf, truth leaf (form q) = truth leaf q) :
    IsTree (.obj (formMembers form ms)) ∧
      ∀ leaf, truth leaf (.obj (formMembers form ms)) = truth leaf (.obj ms) := by
  have structural : key ∈ Key.structural := (by decide : Key.itemwise ⊆ Key.structural) kind
  have only' := only.formMembers form value
  have value' := get?_formMembers_target form (only.opens structural value) value
  rw [changed_items form kind] at value'
  have kind' : Key.target key ∈ Key.itemwise :=
    (by decide : ∀ k ∈ Key.itemwise, Key.target k ∈ Key.itemwise) key kind
  refine ⟨.combination only' kind' value' ?_, fun leaf => ?_⟩
  · intro q' m
    obtain ⟨q, inItems, rfl⟩ := List.mem_map.mp m
    exact (forms q inItems).1
  · have same : items.map (truth leaf ∘ form) = items.map (truth leaf) :=
      List.map_congr_left fun q m => (forms q m).2 leaf
    have read : key ∈ Key.conjunctive ∨ key ∈ Key.disjunctive :=
      (by decide : ∀ k ∈ Key.itemwise, k ∈ Key.conjunctive ∨ k ∈ Key.disjunctive) key kind
    rcases read with all | any
    · have all' : Key.target key ∈ Key.conjunctive :=
        (by decide : ∀ k ∈ Key.conjunctive, Key.target k ∈ Key.conjunctive) key all
      rw [truth_conjunction leaf only all value, truth_conjunction leaf only' all' value',
        List.map_map, same]
    · have any' : Key.target key ∈ Key.disjunctive :=
        (by decide : ∀ k ∈ Key.disjunctive, Key.target k ∈ Key.disjunctive) key any
      rw [truth_disjunction leaf only any value, truth_disjunction leaf only' any' value',
        List.map_map, same]

/-- If the value of a clause has a form with its truth, so has the object around the clause. -/
theorem formMembers_clause (only : OnlyKey key ms) (kind : key ∈ Key.must :: Key.negative)
    (value : ms.get? key = some q) (object : q.isObject = true) (tree : IsTree (form q))
    (same : ∀ leaf, truth leaf (form q) = truth leaf q) :
    IsTree (.obj (formMembers form ms)) ∧
      ∀ leaf, truth leaf (.obj (formMembers form ms)) = truth leaf (.obj ms) := by
  have single : key ∈ Key.single := (by decide : Key.must :: Key.negative ⊆ Key.single) kind
  have structural : key ∈ Key.structural := (by decide : Key.single ⊆ Key.structural) single
  have only' := only.formMembers form value
  have value' := get?_formMembers_target form (only.opens structural value) value
  rw [changed_clause form single] at value'
  have kind' : Key.target key ∈ Key.must :: Key.negative :=
    (by decide : ∀ k ∈ Key.must :: Key.negative, Key.target k ∈ Key.must :: Key.negative) key kind
  -- below `not` there is one query more, the disjunction of one element
  have inner : IsTree (if key = Key.not then negation (form q) else form q) := by
    split_ifs
    · exact tree.negation
    · exact tree
  have innerTruth : ∀ leaf,
      truth leaf (if key = Key.not then negation (form q) else form q) = truth leaf q := by
    intro leaf
    split_ifs
    · rw [truth_singleton, same leaf]
    · exact same leaf
  refine ⟨.clause only' kind' value' inner, fun leaf => ?_⟩
  rcases List.mem_cons.mp kind with rfl | negative
  · rw [truth_must leaf only value object, truth_must leaf only' value' inner.isObject,
      innerTruth leaf]
  · have negative' : Key.target key ∈ Key.negative :=
      (by decide : ∀ k ∈ Key.negative, Key.target k ∈ Key.negative) key negative
    rw [truth_negation leaf only negative value object,
      truth_negation leaf only' negative' value' inner.isObject, innerTruth leaf]

end

/-- A form with enough levels is a tree with the same truth. -/
theorem formValue_tree (ceiling : Int) {q : Json} (tree : IsTree q) :
    ∀ levels, depth q < levels →
      IsTree (formValue ceiling levels q) ∧
        ∀ leaf : Members → Bool, truth leaf (formValue ceiling levels q) = truth leaf q := by
  -- one level of the tree takes one level of the form, so the last level is never passed
  induction tree with
  | leaf plain =>
    intro levels deep
    obtain ⟨n, rfl⟩ := Nat.exists_eq_succ_of_ne_zero (by omega : levels ≠ 0)
    rw [formValue_leaf ceiling n plain]
    exact ⟨.leaf plain, fun _ => rfl⟩
  | combination only kind value trees ih =>
    intro levels deep
    obtain ⟨n, rfl⟩ := Nat.exists_eq_succ_of_ne_zero (by omega : levels ≠ 0)
    rw [formValue_obj]
    refine formMembers_combination _ only kind value fun q m => ih q m n ?_
    have inItems := depth_lt_of_mem_items m
    have inMembers := itemsDepth_le kind value
    rw [depth] at deep
    omega
  | clause only kind value tree ih =>
    intro levels deep
    obtain ⟨n, rfl⟩ := Nat.exists_eq_succ_of_ne_zero (by omega : levels ≠ 0)
    have single := (by decide : Key.must :: Key.negative ⊆ Key.single) kind
    have inMembers := depth_lt_of_clause single value tree.isObject
    rw [depth] at deep
    obtain ⟨tree', same⟩ := ih n (by omega)
    rw [formValue_obj]
    exact formMembers_clause _ only kind value tree.isObject tree' same

/-- **Meaning.** A tree whose levels lie within the ceiling has a canonical form that is a
tree again and holds of the same documents, whichever leaves hold. -/
theorem canonicalize_preserves_truth {q : Json} (tree : IsTree q) {ceiling : Int}
    (deep : (depth q : Int) ≤ ceiling) :
    IsTree (canonicalize 0 ceiling q) ∧
      ∀ leaf : Members → Bool, truth leaf (canonicalize 0 ceiling q) = truth leaf q := by
  rw [canonicalize_eq_formValue]
  have levels : depth q < levelsLeft 0 ceiling := by
    unfold levelsLeft
    omega
  exact formValue_tree ceiling tree _ levels

/-- Both dialects in one tree, with an attribute beside a compound and an empty conjunction. -/
def mixedTree : Json :=
  .obj [("boost", .int 3), ("or", .arr [
    .obj [("not", .obj [("term", .str "a")])],
    .obj [("must_not", .obj [("conjuncts", .arr [])])],
    .obj [("must", .obj [("and", .arr [.obj [("term", .str "b"), ("boost", .int 2)]])])]])]

theorem canonicalize_preserves_truth_mixedTree :
    IsTree mixedTree ∧ (depth mixedTree : Int) ≤ 3 ∧ IsTree (canonicalize 0 3 mixedTree) ∧
      ∀ leaf : Members → Bool, truth leaf (canonicalize 0 3 mixedTree) = truth leaf mixedTree := by
  have negated : IsTree (.obj [("not", .obj [("term", .str "a")])]) :=
    .clause (by decide : OnlyKey Key.not _) (by decide) rfl (.leaf (by decide))
  have nothing : IsTree (.obj [("conjuncts", .arr [])]) :=
    .combination (by decide : OnlyKey Key.conjuncts _) (by decide) rfl (by simp)
  have excluded : IsTree (.obj [("must_not", .obj [("conjuncts", .arr [])])]) :=
    .clause (by decide : OnlyKey Key.mustNot _) (by decide) rfl nothing
  have single : IsTree (.obj [("and", .arr [.obj [("term", .str "b"), ("boost", .int 2)]])]) :=
    .combination (by decide : OnlyKey Key.and _) (by decide) rfl
      (by simpa using IsTree.leaf (by decide))
  have required : IsTree (.obj [("must", .obj [("and",
      .arr [.obj [("term", .str "b"), ("boost", .int 2)]])])]) :=
    .clause (by decide : OnlyKey Key.must _) (by decide) rfl single
  have tree : IsTree mixedTree :=
    .combination (by decide : OnlyKey Key.or _) (by decide) rfl
      (by simpa using ⟨negated, excluded, required⟩)
  have deep : (depth mixedTree : Int) ≤ 3 := by decide
  exact ⟨tree, deep, canonicalize_preserves_truth tree deep⟩

end SearchDesk.Query
