import Mathlib.Tactic.Choose

/-!
# Steps that may fail

What it says that a computation of several steps succeeded, each of which may fail: every step
did (`exists_of_bind_eq_ok` for two steps). A walk over a list that makes something of every
element, and puts it to use, succeeds if and only if something is made of every element, and it
then comes to what the walk over the made things comes to (`foldlM_eq_ok_iff`). A walk that fails
fails as one of its steps does (`exists_error_of_foldlM`). For a walk that only collects what is
made, the two directions are `exists_ok_of_mapM` and `exists_error_of_mapM`.
-/

namespace SearchDesk.Outcome

variable {ε α β γ : Type}

theorem exists_of_bind_eq_ok {x : Except ε α} {f : α → Except ε β} {b : β}
    (bound : x >>= f = .ok b) : ∃ a, x = .ok a ∧ f a = .ok b := by
  cases x with
  | error => cases bound
  | ok a => exact ⟨a, rfl, bound⟩

theorem foldlM_of_ok {make : α → Except ε β} (use : γ → α → β → γ) {made : α → β} {l : List α}
    (ok : ∀ a ∈ l, make a = .ok (made a)) (c : γ) :
    l.foldlM (fun c a => (make a).map (use c a)) c =
      .ok (l.foldl (fun c a => use c a (made a)) c) := by
  induction l generalizing c with
  | nil => rfl
  | cons a rest ih =>
    obtain ⟨here, later⟩ := List.forall_mem_cons.mp ok
    rw [List.foldlM_cons, here, List.foldl_cons, ← ih later]
    rfl

theorem exists_ok_of_foldlM {make : α → Except ε β} {use : γ → α → β → γ} {l : List α} {c c' : γ}
    (done : l.foldlM (fun c a => (make a).map (use c a)) c = .ok c') :
    ∀ a ∈ l, ∃ b, make a = .ok b := by
  induction l generalizing c with
  | nil =>
    intro a here
    cases here
  | cons a rest ih =>
    rw [List.foldlM_cons] at done
    cases first : make a with
    | error e =>
      rw [first] at done
      cases done
    | ok b =>
      rw [first] at done
      exact List.forall_mem_cons.mpr ⟨⟨b, first⟩, ih done⟩

theorem foldlM_eq_ok_iff [Inhabited β] {make : α → Except ε β} (use : γ → α → β → γ) {l : List α}
    {c c' : γ} :
    l.foldlM (fun c a => (make a).map (use c a)) c = .ok c' ↔
      ∃ made : α → β, (∀ a ∈ l, make a = .ok (made a)) ∧
        l.foldl (fun c a => use c a (made a)) c = c' := by
  constructor
  · intro done
    choose! made ok using exists_ok_of_foldlM done
    rw [foldlM_of_ok use ok] at done
    exact ⟨made, ok, Except.ok.inj done⟩
  · rintro ⟨made, ok, rfl⟩
    exact foldlM_of_ok use ok c

/-- Two steps fail as the first one does, or as the second one does after it. -/
theorem error_or_of_bind_eq_error {x : Except ε α} {f : α → Except ε β} {e : ε}
    (failed : x >>= f = .error e) : x = .error e ∨ ∃ a, x = .ok a ∧ f a = .error e := by
  cases x with
  | error e' =>
    cases failed
    exact .inl rfl
  | ok a => exact .inr ⟨a, rfl, failed⟩

theorem exists_error_of_foldlM {make : α → Except ε β} {use : γ → α → β → γ} {l : List α} {c : γ}
    {e : ε} (failed : l.foldlM (fun c a => (make a).map (use c a)) c = .error e) :
    ∃ a ∈ l, make a = .error e := by
  induction l generalizing c with
  | nil => cases failed
  | cons a rest ih =>
    rw [List.foldlM_cons] at failed
    rcases error_or_of_bind_eq_error failed with here | ⟨c', -, later⟩
    · refine ⟨a, List.mem_cons_self, ?_⟩
      cases first : make a with
      | error e' =>
        rw [first] at here
        cases here
        rfl
      | ok b =>
        rw [first] at here
        cases here
    · obtain ⟨a', inRest, fails⟩ := ih later
      exact ⟨a', List.mem_cons_of_mem a inRest, fails⟩

theorem exists_ok_of_mapM {make : α → Except ε β} {l : List α} {made : List β}
    (done : l.mapM make = .ok made) : ∀ a ∈ l, ∃ b, make a = .ok b := by
  induction l generalizing made with
  | nil =>
    intro a here
    cases here
  | cons a rest ih =>
    rw [List.mapM_cons] at done
    obtain ⟨b, first, done⟩ := exists_of_bind_eq_ok done
    obtain ⟨bs, later, -⟩ := exists_of_bind_eq_ok done
    exact List.forall_mem_cons.mpr ⟨⟨b, first⟩, ih later⟩

theorem exists_error_of_mapM {make : α → Except ε β} {l : List α} {e : ε}
    (failed : l.mapM make = .error e) : ∃ a ∈ l, make a = .error e := by
  induction l with
  | nil => cases failed
  | cons a rest ih =>
    rw [List.mapM_cons] at failed
    rcases error_or_of_bind_eq_error failed with here | ⟨b, -, failed⟩
    · exact ⟨a, List.mem_cons_self, here⟩
    · rcases error_or_of_bind_eq_error failed with later | ⟨bs, -, no⟩
      · obtain ⟨a', inRest, fails⟩ := ih later
        exact ⟨a', List.mem_cons_of_mem a inRest, fails⟩
      · cases no

end SearchDesk.Outcome
