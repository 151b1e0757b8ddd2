import Mathlib.Data.List.Induction
import Mathlib.Data.List.Nodup

/-!
# First-seen order and stable sorting

Facts about lists that everything counted in the order of its first occurrence needs:

* `eraseDups` lists what occurs in a list in the order of the first occurrences
  (`pairwise_eraseDups`), leaving elements out commutes with it (`eraseDups_filter`), and of two
  lists in a row the second one adds what is new in it (`eraseDups_append`);
* a stable sort keeps the order of the list where the sorted order says nothing
  (`pairwise_mergeSort_stable`);
* a list without repetitions is fixed by its elements and an asymmetric order
  (`eq_of_mem_iff_of_pairwise`).
-/

namespace SearchDesk.Order

variable {α : Type}

section
variable [DecidableEq α]

/-- The last element adds itself unless it was seen before. -/
theorem eraseDups_concat (l : List α) (a : α) :
    (l ++ [a]).eraseDups = if a ∈ l then l.eraseDups else l.eraseDups ++ [a] := by
  rw [List.eraseDups_append]
  by_cases seen : a ∈ l <;> simp [List.removeAll, seen, List.eraseDups_cons]

theorem nodup_eraseDups (l : List α) : l.eraseDups.Nodup := by
  induction l using List.reverseRecOn with
  | nil => exact List.nodup_nil
  | append_singleton l a ih =>
    rw [eraseDups_concat]
    by_cases seen : a ∈ l
    · rw [if_pos seen]
      exact ih
    · rw [if_neg seen, List.nodup_append]
      refine ⟨ih, List.nodup_singleton a, ?_⟩
      intro b before c here same
      rw [List.mem_singleton.mp here] at same
      exact seen (List.mem_eraseDups.mp (same ▸ before))

theorem eraseDups_filter (p : α → Bool) (l : List α) :
    (l.filter p).eraseDups = l.eraseDups.filter p := by
  induction l using List.reverseRecOn with
  | nil => rfl
  | append_singleton l a ih =>
    rw [eraseDups_concat, List.filter_append]
    by_cases seen : a ∈ l <;> by_cases holds : p a = true <;>
      simp [eraseDups_concat, List.filter_append, seen, holds, ih]

/-- The first occurrences in a list stay, and those that are new behind it follow. -/
theorem eraseDups_append (l l' : List α) :
    (l ++ l').eraseDups = l.eraseDups ++ l'.eraseDups.filter fun a => a ∉ l := by
  have absent : (fun a => !l.elem a) = fun a => decide (a ∉ l) := by
    funext a
    by_cases here : a ∈ l <;> simp [here]
  rw [List.eraseDups_append, List.removeAll, absent, eraseDups_filter]

/-- What occurs in a list is listed in the order of its first occurrences. -/
theorem pairwise_eraseDups (l : List α) :
    l.eraseDups.Pairwise fun a b => l.idxOf a < l.idxOf b := by
  induction l using List.reverseRecOn with
  | nil => exact List.Pairwise.nil
  | append_singleton l a ih =>
    have earlier : l.eraseDups.Pairwise fun b c => (l ++ [a]).idxOf b < (l ++ [a]).idxOf c := by
      refine ih.imp_of_mem fun {b c} hb hc less => ?_
      rwa [List.idxOf_append_of_mem (List.mem_eraseDups.mp hb),
        List.idxOf_append_of_mem (List.mem_eraseDups.mp hc)]
    rw [eraseDups_concat]
    by_cases seen : a ∈ l
    · rwa [if_pos seen]
    · rw [if_neg seen, List.pairwise_append]
      refine ⟨earlier, List.pairwise_singleton _ _, fun b hb c hc => ?_⟩
      rw [List.mem_singleton.mp hc, List.idxOf_append_of_mem (List.mem_eraseDups.mp hb),
        List.idxOf_append_of_notMem seen]
      have inside := List.idxOf_lt_length_of_mem (List.mem_eraseDups.mp hb)
      omega

/-- Elements that stand in a list once stand in the order of their places. -/
theorem pairwise_idxOf {l : List α} (distinct : l.Nodup) :
    l.Pairwise fun a b => l.idxOf a < l.idxOf b := by
  rw [List.pairwise_iff_getElem]
  intro i j hi hj less
  rwa [distinct.idxOf_getElem i hi, distinct.idxOf_getElem j hj]

end

/-- Numbering a list numbers it upwards. -/
theorem pairwise_zipIdx (l : List α) (n : Nat) : (l.zipIdx n).Pairwise fun a b => a.2 < b.2 := by
  induction l generalizing n with
  | nil => exact List.Pairwise.nil
  | cons a rest ih =>
    rw [List.zipIdx_cons, List.pairwise_cons]
    exact ⟨fun b mem => List.le_snd_of_mem_zipIdx mem, ih (n + 1)⟩

/-- Lists with the same elements, each at most once and in an asymmetric order, are the same. -/
theorem eq_of_mem_iff_of_pairwise {r : α → α → Prop} (asymm : ∀ a b, r a b → ¬r b a)
    {l l' : List α} (distinct : l.Nodup) (distinct' : l'.Nodup) (same : ∀ a, a ∈ l ↔ a ∈ l')
    (ordered : l.Pairwise r) (ordered' : l'.Pairwise r) : l = l' := by
  have perm : l.Perm l' := (List.perm_ext_iff_of_nodup distinct distinct').mpr same
  exact perm.eq_of_pairwise (fun a b _ _ ab ba => absurd ba (asymm a b ab)) ordered ordered'

/-- Elements that the sorted order does not tell apart keep the order of the list. -/
theorem pairwise_mergeSort_stable (le : α → α → Bool) {r : α → α → Prop}
    (trans : ∀ a b c, le a b → le b c → le a c) (total : ∀ a b, le a b || le b a)
    {l : List α} (ordered : l.Pairwise r) :
    (l.mergeSort le).Pairwise fun a b => le a b ∧ (le b a → r a b) := by
  induction l with
  | nil => simp
  | cons a rest ih =>
    obtain ⟨first, ordered'⟩ := List.pairwise_cons.mp ordered
    -- sorting puts `a` into the sorted rest, behind what comes strictly before it
    obtain ⟨l₁, l₂, sorted, sortedRest, before⟩ := List.mergeSort_cons trans total a rest
    have all := List.pairwise_mergeSort trans total (a :: rest)
    have rest' := ih ordered'
    have member : ∀ b ∈ l₂, b ∈ rest := fun b h => by
      have inRest : b ∈ rest.mergeSort le := by
        rw [sortedRest]
        exact List.mem_append_right l₁ h
      exact List.mem_mergeSort.mp inRest
    rw [sorted, List.pairwise_append, List.pairwise_cons] at all
    rw [sortedRest, List.pairwise_append] at rest'
    obtain ⟨-, ⟨aLe, -⟩, leA⟩ := all
    obtain ⟨left, right, across⟩ := rest'
    rw [sorted, List.pairwise_append, List.pairwise_cons]
    refine ⟨left, ⟨fun b hb => ⟨aLe b hb, fun _ => first b (member b hb)⟩, right⟩, ?_⟩
    intro b hb c hc
    rcases List.mem_cons.mp hc with rfl | later
    · have strict := before b hb
      refine ⟨leA b hb c List.mem_cons_self, fun back => ?_⟩
      rw [back] at strict
      exact absurd strict Bool.false_ne_true
    · exact across b hb c later

end SearchDesk.Order
