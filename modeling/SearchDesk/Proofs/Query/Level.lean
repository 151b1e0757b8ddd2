import SearchDesk.Query.Dialect

/-!
# One level of the canonical form

What the canonical form of an object is, given the canonical forms of the queries right
below it. `formValue` is the canonical form without the notices, and `formValue_obj` is its
only rule for objects: the members of the form are `formMembers`, which reads an object in
one of two ways:

* the simplified key that `rewrittenKey?` names is taken out, and its value, rewritten, is
  put under the key `Key.target`; all other members stay;
* without a simplified key every member stays in its place, and the queries in its value
  become canonical.

No proof elsewhere opens the recursion of `canonicalForm` for its value.
-/

namespace SearchDesk.Query

/-- The keys over a list of queries. -/
def Key.itemwise : List String := [Key.and, Key.or] ++ Key.lists

/-- The keys over one query. -/
def Key.single : List String := Key.not :: Key.clauses

/-- The canonical key that takes the place of a simplified one. -/
def Key.target (key : String) : String :=
  if key = Key.and then Key.conjuncts
  else if key = Key.or then Key.disjuncts
  else if key = Key.not then Key.mustNot
  else key

/-- The simplified key of an object that is rewritten. -/
def rewrittenKey? (ms : Members) : Option String := Key.simplified.find? fun k => ms.has k

/-- Canonicalization goes on from an object through the value of a key: the key that is
rewritten, or else any canonical one. -/
def Opens (ms : Members) (key : String) : Prop :=
  match rewrittenKey? ms with
  | some k => key = k
  | none => key ∈ Key.lists ++ Key.clauses

instance (ms : Members) (key : String) : Decidable (Opens ms key) :=
  match h : rewrittenKey? ms with
  | some k => decidable_of_iff (key = k) (by simp [Opens, h])
  | none => decidable_of_iff (key ∈ Key.lists ++ Key.clauses) (by simp [Opens, h])

/-- What the value of a simplified key becomes under its target key. -/
def rewritten (form : Json → Json) (key : String) (value : Json) : Json :=
  if key = Key.not then negation (form value) else .arr ((childrenOf value).map form)

/-- What the value of a member becomes that keeps its key. -/
def kept (form : Json → Json) (key : String) (value : Json) : Json :=
  if key ∈ Key.clauses then form value
  else if key ∈ Key.lists then
    match value with
    | .arr items => .arr (items.map form)
    | v => v
  else value

/-- What the value of a key becomes from which canonicalization goes on. -/
def changed (form : Json → Json) (key : String) (value : Json) : Json :=
  if key ∈ Key.simplified then rewritten form key value else kept form key value

/-- The members of the canonical form of an object, given the form of the queries below. -/
def formMembers (form : Json → Json) (ms : Members) : Members :=
  match rewrittenKey? ms with
  | some key =>
    (ms.erase key).put (Key.target key) (rewritten form key ((ms.get? key).getD .null))
  | none => ms.map fun e => (e.1, kept form e.1 e.2)

/-- The canonical form of a tree of which `levels` levels lie within the ceiling. -/
def formValue (ceiling : Int) (levels : Nat) (q : Json) : Json :=
  (canonicalForm ceiling levels q).value

/-! ## Which key is rewritten -/

theorem rewrittenKey?_mem {ms : Members} {key : String} (h : rewrittenKey? ms = some key) :
    key ∈ Key.simplified :=
  List.mem_of_find?_eq_some h

theorem rewrittenKey?_get? {ms : Members} {key : String} (h : rewrittenKey? ms = some key) :
    ∃ v, ms.get? key = some v := by
  have present : ms.has key = true := by simpa using List.find?_some h
  rw [Entries.has_iff_get?_isSome] at present
  exact Option.isSome_iff_exists.mp present

theorem rewrittenKey?_eq_none_iff (ms : Members) :
    rewrittenKey? ms = none ↔ ∀ k ∈ Key.simplified, ms.get? k = none := by
  simp [rewrittenKey?, List.find?_eq_none, Entries.has_eq_false_iff]

theorem rewrittenKey?_congr {ms ns : Members} (same : ∀ k, ms.has k = ns.has k) :
    rewrittenKey? ms = rewrittenKey? ns := by
  simp only [rewrittenKey?, same]

/-- A simplified key is rewritten only if the keys that win over it are missing. -/
theorem rewrittenKey?_cases {ms : Members} {key : String} (h : rewrittenKey? ms = some key) :
    key = Key.and ∨ (key = Key.or ∧ ms.get? Key.and = none) ∨
      (key = Key.not ∧ ms.get? Key.and = none ∧ ms.get? Key.or = none) := by
  simp only [← Entries.has_eq_false_iff]
  unfold rewrittenKey? Key.simplified at h
  cases hand : ms.has Key.and with
  | true => simp [hand] at h; exact .inl h.symm
  | false =>
    cases hor : ms.has Key.or with
    | true => simp [hand, hor] at h; exact .inr (.inl ⟨h.symm, rfl⟩)
    | false => simp [hand, hor] at h; exact .inr (.inr ⟨h.2.symm, rfl, rfl⟩)

theorem not_mem_simplified {ms : Members} (h : rewrittenKey? ms = none) {key : String} {v : Json}
    (value : ms.get? key = some v) : key ∉ Key.simplified := fun simplified => by
  rw [(rewrittenKey?_eq_none_iff ms).mp h key simplified] at value
  cases value

/-- A simplified key is no canonical one, so it is never its own target. -/
theorem Key.target_ne {key : String} (h : key ∈ Key.simplified) : Key.target key ≠ key := by
  simp only [Key.simplified, List.mem_cons, List.not_mem_nil, or_false] at h
  rcases h with rfl | rfl | rfl <;> decide

theorem Key.target_of_not_mem {key : String} (h : key ∉ Key.simplified) :
    Key.target key = key := by
  simp only [Key.simplified, List.mem_cons, List.not_mem_nil, or_false, not_or] at h
  simp [Key.target, h]

/-! ## The value under the key -/

theorem changed_items (form : Json → Json) {key : String} (kind : key ∈ Key.itemwise)
    (items : List Json) : changed form key (.arr items) = .arr (items.map form) := by
  simp only [Key.itemwise, Key.lists, List.cons_append, List.nil_append, List.mem_cons,
    List.not_mem_nil, or_false] at kind
  rcases kind with rfl | rfl | rfl | rfl <;> simp +decide [changed, rewritten, kept, childrenOf]

theorem changed_clause (form : Json → Json) {key : String} (kind : key ∈ Key.single) (q : Json) :
    changed form key q = if key = Key.not then negation (form q) else form q := by
  simp only [Key.single, Key.clauses, List.mem_cons, List.not_mem_nil, or_false] at kind
  rcases kind with rfl | rfl | rfl | rfl <;> simp +decide [changed, rewritten, kept]

/-! ## The members of the form -/

section
variable (form : Json → Json) {ms : Members} {key : String}

theorem formMembers_of_rewritten (h : rewrittenKey? ms = some key) {v : Json}
    (value : ms.get? key = some v) :
    formMembers form ms = (ms.erase key).put (Key.target key) (rewritten form key v) := by
  simp only [formMembers, h, value, Option.getD_some]

theorem formMembers_of_unrewritten (h : rewrittenKey? ms = none) :
    formMembers form ms = ms.map fun e => (e.1, kept form e.1 e.2) := by
  simp only [formMembers, h]

/-- The rewritten key itself is gone. -/
theorem get?_formMembers_self (h : rewrittenKey? ms = some key) :
    (formMembers form ms).get? key = none := by
  obtain ⟨v, value⟩ := rewrittenKey?_get? h
  rw [formMembers_of_rewritten form h value,
    Entries.get?_put_of_ne (Key.target_ne (rewrittenKey?_mem h)).symm, Entries.get?_erase_self]

/-- Its value, rewritten, stands under the target. -/
theorem get?_formMembers_rewritten (h : rewrittenKey? ms = some key) {v : Json}
    (value : ms.get? key = some v) :
    (formMembers form ms).get? (Key.target key) = some (rewritten form key v) := by
  rw [formMembers_of_rewritten form h value, Entries.get?_put_self]

/-- Next to a rewritten key only its target changes. -/
theorem get?_formMembers_of_ne (h : rewrittenKey? ms = some key) {other : String}
    (ne : other ≠ key) (noTarget : other ≠ Key.target key) :
    (formMembers form ms).get? other = ms.get? other := by
  obtain ⟨v, value⟩ := rewrittenKey?_get? h
  rw [formMembers_of_rewritten form h value, Entries.get?_put_of_ne noTarget,
    Entries.get?_erase_of_ne ne]

/-- Without a rewritten key every member keeps its key. -/
theorem get?_formMembers_of_unrewritten (h : rewrittenKey? ms = none) (other : String) :
    (formMembers form ms).get? other = (ms.get? other).map (kept form other) := by
  rw [formMembers_of_unrewritten form h, Entries.get?_map]

/-- A key from which canonicalization goes on leads to its changed value. -/
theorem get?_formMembers_target (opens : Opens ms key) {v : Json}
    (value : ms.get? key = some v) :
    (formMembers form ms).get? (Key.target key) = some (changed form key v) := by
  unfold Opens at opens
  cases h : rewrittenKey? ms with
  | some k =>
    rw [h] at opens
    subst opens
    rw [get?_formMembers_rewritten form h value, changed, if_pos (rewrittenKey?_mem h)]
  | none =>
    rw [h] at opens
    have canonical : ∀ k ∈ Key.lists ++ Key.clauses, k ∉ Key.simplified ∧ Key.target k = k := by
      decide
    obtain ⟨notSimplified, target⟩ := canonical key opens
    rw [target, get?_formMembers_of_unrewritten form h, value, changed, if_neg notSimplified,
      Option.map_some]

end

/-! ## The rules -/

@[simp] theorem formValue_zero (ceiling : Int) (q : Json) :
    formValue ceiling 0 q = emptyQuery := rfl

theorem formValue_of_not_object (ceiling : Int) (levels : Nat) {q : Json}
    (h : q.isObject = false) : formValue ceiling levels q = emptyQuery := by
  cases levels with
  | zero => rfl
  | succ levels => cases q <;> first | rfl | simp [Json.isObject] at h

/-- A member of an object without a simplified key keeps its key. -/
theorem canonicalEntry_value (form : Json → Noted Json) (key : String) (v : Json) :
    (canonicalEntry form (key, v)).value = (key, kept (fun q => (form q).value) key v) := by
  unfold canonicalEntry kept
  by_cases clause : key ∈ Key.clauses
  · simp [clause]
  · by_cases list : key ∈ Key.lists <;> cases v <;> simp [clause, list]

theorem formValue_obj (ceiling : Int) (levels : Nat) (ms : Members) :
    formValue ceiling (levels + 1) (.obj ms) =
      .obj (formMembers (formValue ceiling levels) ms) := by
  have pointwise : (fun x => x.value) ∘ canonicalForm ceiling levels = formValue ceiling levels :=
    rfl
  cases h : rewrittenKey? ms with
  | some key =>
    -- which branch of the recursion is taken depends on the keys that win over `key`
    obtain ⟨v, value⟩ := rewrittenKey?_get? h
    rw [formMembers_of_rewritten _ h value]
    rcases rewrittenKey?_cases h with rfl | ⟨rfl, noAnd⟩ | ⟨rfl, noAnd, noOr⟩
    · simp +decide [formValue, canonicalForm, Node.ofJson, Node.ofMembers, value, rewritten,
        Key.target, pointwise]
    · simp +decide [formValue, canonicalForm, Node.ofJson, Node.ofMembers, value, rewritten,
        Key.target, pointwise, noAnd]
    · simp +decide [formValue, canonicalForm, Node.ofJson, Node.ofMembers, value, rewritten,
        Key.target, noAnd, noOr]
  | none =>
    rw [formMembers_of_unrewritten _ h]
    rw [rewrittenKey?_eq_none_iff] at h
    have noAnd : ms.get? Key.and = none := h _ (by decide)
    have noOr : ms.get? Key.or = none := h _ (by decide)
    have noNot : ms.get? Key.not = none := h _ (by decide)
    simp only [formValue, canonicalForm, Node.ofJson, Node.ofMembers, noAnd, noOr, noNot,
      Noted.value_map, Noted.value_collect, List.map_map]
    congr 1
    exact List.map_congr_left fun e _ => canonicalEntry_value _ e.1 e.2

theorem canonicalize_eq_formValue (depth ceiling : Int) (q : Json) :
    canonicalize depth ceiling q = formValue ceiling (levelsLeft depth ceiling) q := by
  unfold canonicalize canonicalizeNoted
  by_cases beyond : ceiling < depth
  · rw [if_pos beyond, (levelsLeft_eq_zero_iff depth ceiling).mpr beyond, formValue_zero]
  · rw [if_neg beyond, formValue]

theorem canonicalize_beyond {depth ceiling : Int} (beyond : ceiling < depth) (q : Json) :
    canonicalize depth ceiling q = emptyQuery := by
  rw [canonicalize_eq_formValue, (levelsLeft_eq_zero_iff depth ceiling).mpr beyond, formValue_zero]

theorem canonicalize_of_not_object (depth ceiling : Int) {q : Json} (h : q.isObject = false) :
    canonicalize depth ceiling q = emptyQuery := by
  rw [canonicalize_eq_formValue, formValue_of_not_object ceiling _ h]

/-- An object within the ceiling, given the canonical form of the queries one level deeper. -/
theorem canonicalize_obj {depth ceiling : Int} (within : depth ≤ ceiling) (ms : Members) :
    canonicalize depth ceiling (.obj ms) =
      .obj (formMembers (canonicalize (depth + 1) ceiling) ms) := by
  have below : canonicalize (depth + 1) ceiling =
      formValue ceiling (levelsLeft (depth + 1) ceiling) :=
    funext fun q => canonicalize_eq_formValue (depth + 1) ceiling q
  rw [canonicalize_eq_formValue, levelsLeft_succ within, formValue_obj, below]

theorem canonicalize_emptyQuery (depth ceiling : Int) :
    canonicalize depth ceiling emptyQuery = emptyQuery := by
  by_cases within : depth ≤ ceiling
  · rw [emptyQuery, canonicalize_obj within]
    rfl
  · exact canonicalize_beyond (by omega) emptyQuery

end SearchDesk.Query
