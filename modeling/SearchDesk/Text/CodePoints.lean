/-!
# Sets of characters

A set of characters is given as a list of ranges of code points, both ends included.
`CodePoints.has` decides membership; the tables that use it are in the modules named for
the property that they list.
-/

namespace SearchDesk

/-- A set of characters, as ranges of code points with both ends included. -/
abbrev CodePoints := List (Nat × Nat)

/-- Whether a character belongs to the set. -/
def CodePoints.has (set : CodePoints) (c : Char) : Bool :=
  set.any fun r => r.1 ≤ c.toNat && c.toNat ≤ r.2

/-- Sets whose ranges lie apart have no character in common. -/
theorem CodePoints.has_eq_false_of_apart {a b : CodePoints}
    (apart : ∀ r ∈ a, ∀ q ∈ b, r.2 < q.1 ∨ q.2 < r.1) {c : Char} (here : a.has c = true) :
    b.has c = false := by
  simp only [has, List.any_eq_true, Bool.and_eq_true, decide_eq_true_eq] at here
  obtain ⟨r, inA, above, below⟩ := here
  simp only [has, List.any_eq_false, Bool.and_eq_true, decide_eq_true_eq]
  rintro q inB ⟨above', below'⟩
  have between := apart r inA q inB
  omega

end SearchDesk
