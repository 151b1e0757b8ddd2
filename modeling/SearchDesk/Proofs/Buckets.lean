import Mathlib.Algebra.BigOperators.Group.List.Basic
import Mathlib.Algebra.GroupWithZero.Nat
import SearchDesk.Proofs.Order

/-!
# Collecting by key

A walk over a list of entries that keeps one bucket for each key:

* `upsert` changes the bucket of a key, or opens a new one at the end;
* `upsert_map` is one step of the walk, for buckets that stand under different keys, and
  `find?_map` is the look-up of a bucket;
* `foldl_upsert` is the whole walk: there is one bucket for each key that occurs, in the order
  in which the keys first occur, and it is what the entries of that key alone make of it;
* `sum_countP` adds up: counting bucket by bucket counts every entry once.

Whatever is collected in this way never depends on how entries of different keys are mixed.
-/

namespace SearchDesk.Buckets

variable {κ ε β : Type} [DecidableEq κ]

/-- Change the first bucket with a key, or open a new one at the end. -/
def upsert (label : β → κ) (key : κ) (opened : β) (change : β → β) : List β → List β
  | [] => [opened]
  | b :: rest =>
    if label b = key then change b :: rest else b :: upsert label key opened change rest

/-- Among buckets with different keys the one of the key changes, or a new one comes last. -/
theorem upsert_map {label : β → κ} {bucket : κ → β} (labelled : ∀ k, label (bucket k) = k)
    (key : κ) (opened : β) (change : β → β) {keys : List κ} (distinct : keys.Nodup) :
    upsert label key opened change (keys.map bucket) =
      if key ∈ keys then keys.map fun k => if k = key then change (bucket k) else bucket k
      else keys.map bucket ++ [opened] := by
  induction keys with
  | nil => rfl
  | cons k rest ih =>
    obtain ⟨fresh, distinct'⟩ := List.nodup_cons.mp distinct
    rw [List.map_cons, upsert, labelled]
    by_cases same : k = key
    · subst same
      have others : ∀ l ∈ rest, bucket l = if l = k then change (bucket l) else bucket l := by
        intro l hl
        have ne : l ≠ k := fun h => fresh (h ▸ hl)
        rw [if_neg ne]
      rw [if_pos rfl, if_pos List.mem_cons_self, List.map_cons, if_pos rfl,
        List.map_congr_left others]
    · have same' : key ∈ k :: rest ↔ key ∈ rest := by simp [Ne.symm same]
      rw [if_neg same, ih distinct', List.map_cons, if_neg same, List.cons_append]
      by_cases seen : key ∈ rest
      · rw [if_pos seen, if_pos (same'.mpr seen)]
      · rw [if_neg seen, if_neg (mt same'.mp seen)]

/-- The bucket of a key is found if the key has one. -/
theorem find?_map (label : β → κ) {bucket : κ → β} (labelled : ∀ k, label (bucket k) = k)
    (key : κ) (keys : List κ) :
    (keys.map bucket).find? (fun b => label b = key) =
      if key ∈ keys then some (bucket key) else none := by
  induction keys with
  | nil => rfl
  | cons k rest ih =>
    rw [List.map_cons, List.find?_cons, labelled]
    by_cases same : k = key
    · subst same
      simp
    · have same' : key ∈ k :: rest ↔ key ∈ rest := by simp [Ne.symm same]
      rw [decide_eq_false same, ih]
      simp only [same']

/-- A walk that opens a bucket with the first entry of a key and changes it with every further
one leaves the bucket `whole` of the entries of the key, for each key in first-seen order. -/
theorem foldl_upsert {label : β → κ} {keyOf : ε → κ} {opened : ε → β} (change : ε → β → β)
    (whole : κ → List ε → β) (labelled : ∀ k es, label (whole k es) = k)
    (first : ∀ e, whole (keyOf e) [e] = opened e)
    (further : ∀ k es e, es ≠ [] → whole k (es ++ [e]) = change e (whole k es)) (es : List ε) :
    es.foldl (fun bs e => upsert label (keyOf e) (opened e) (change e) bs) [] =
      (es.map keyOf).eraseDups.map fun k => whole k (es.filter fun e => keyOf e = k) := by
  induction es using List.reverseRecOn with
  | nil => rfl
  | append_singleton es e ih =>
    have others : ∀ k, k ≠ keyOf e →
        (es ++ [e]).filter (fun e => keyOf e = k) = es.filter fun e => keyOf e = k := by
      intro k ne
      simp [List.filter_append, Ne.symm ne]
    have own : (es ++ [e]).filter (fun e' => keyOf e' = keyOf e) =
        es.filter (fun e' => keyOf e' = keyOf e) ++ [e] := by
      simp [List.filter_append]
    rw [List.foldl_concat, ih, upsert_map (fun k => labelled k _) _ _ _ (Order.nodup_eraseDups _),
      List.map_append, List.map_singleton, Order.eraseDups_concat]
    simp only [List.mem_eraseDups]
    by_cases seen : keyOf e ∈ es.map keyOf
    · -- the keys stay the same, and only the bucket of the entry's key changes
      have some : es.filter (fun e' => keyOf e' = keyOf e) ≠ [] := by
        obtain ⟨e', here, same⟩ := List.mem_map.mp seen
        exact List.ne_nil_of_mem (List.mem_filter.mpr ⟨here, by simpa using same⟩)
      rw [if_pos seen, if_pos seen]
      refine List.map_congr_left fun k _ => ?_
      by_cases same : k = keyOf e
      · subst same
        rw [if_pos rfl, own, further _ _ _ some]
      · rw [if_neg same, others k same]
    · -- the entry is the first of its key, whose bucket comes last
      have none : es.filter (fun e' => keyOf e' = keyOf e) = [] := by
        rw [List.filter_eq_nil_iff]
        intro e' here same
        exact seen (List.mem_map.mpr ⟨e', here, by simpa using same⟩)
      have before : ∀ k ∈ (es.map keyOf).eraseDups,
          whole k (es.filter fun e => keyOf e = k) =
            whole k ((es ++ [e]).filter fun e => keyOf e = k) := by
        intro k hk
        have ne : k ≠ keyOf e := fun h => seen (h ▸ List.mem_eraseDups.mp hk)
        rw [others k ne]
      rw [if_neg seen, if_neg seen, List.map_append, List.map_singleton, own, none,
        List.nil_append, first, List.map_congr_left before]

/-- A number that stands under one of some different keys is the sum over all of them. -/
theorem sum_map_if {keys : List κ} (distinct : keys.Nodup) {key : κ} (here : key ∈ keys)
    (n : Nat) : (keys.map fun k => if key = k then n else 0).sum = n := by
  induction keys with
  | nil => cases here
  | cons k rest ih =>
    obtain ⟨fresh, distinct'⟩ := List.nodup_cons.mp distinct
    rw [List.map_cons, List.sum_cons]
    by_cases same : key = k
    · subst same
      have others : ∀ l ∈ rest, (if key = l then n else 0) = 0 := by
        intro l hl
        exact if_neg fun h : key = l => fresh (h ▸ hl)
      rw [if_pos rfl, List.map_congr_left others]
      simp
    · rw [if_neg same, Nat.zero_add]
      rcases List.mem_cons.mp here with first | later
      · exact absurd first same
      · exact ih distinct' later

/-- Counting bucket by bucket counts every entry once. -/
theorem sum_countP (keyOf : ε → κ) (p : ε → Bool) {keys : List κ} (distinct : keys.Nodup)
    {es : List ε} (covered : ∀ e ∈ es, keyOf e ∈ keys) :
    (keys.map fun k => (es.filter fun e => keyOf e = k).countP p).sum = es.countP p := by
  induction es with
  | nil => simp
  | cons e rest ih =>
    obtain ⟨here, later⟩ := List.forall_mem_cons.mp covered
    have step : ∀ k ∈ keys, ((e :: rest).filter fun e => keyOf e = k).countP p =
        (rest.filter fun e => keyOf e = k).countP p +
          if keyOf e = k then (if p e then 1 else 0) else 0 := by
      intro k _
      by_cases same : keyOf e = k
      · rw [List.filter_cons_of_pos (by simpa using same), if_pos same, List.countP_cons]
      · rw [List.filter_cons_of_neg (by simpa using same), if_neg same, Nat.add_zero]
    rw [List.map_congr_left step, List.sum_map_add, ih later, sum_map_if distinct here,
      List.countP_cons]

end SearchDesk.Buckets
