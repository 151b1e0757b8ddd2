import Mathlib.Data.List.Basic
import SearchDesk.Logging.Hierarchy

/-!
# The names above a name

The names above a dotted name are its beginnings before a dot, the longest one first:

* each of them ends where a dot parts the name (`exists_of_mem_ancestors`), and each is a
  beginning of those before it (`ancestors_pairwise`);
* what comes after one of them is what stands above that one, unless it ends in a dot
  (`ancestors_of_split`);
* if no two dots stand side by side, the names above a name are exactly its beginnings that a dot
  follows (`mem_ancestors_iff`).
-/

namespace SearchDesk.Logging

/-! ## Dots -/

/-- A place that parts a name is one of a dot, and not the first one. -/
theorem mem_cuts {name : List Char} {passOver : Bool} {k n : Nat}
    (mem : n ∈ cuts name passOver k) : n < k ∧ n ≠ 0 ∧ name[n]? = some '.' := by
  induction k generalizing passOver with
  | zero => cases mem
  | succ k ih =>
    rw [cuts] at mem
    split at mem
    · next parts =>
      rcases List.mem_cons.mp mem with rfl | later
      · simp only [Bool.and_eq_true, decide_eq_true_eq] at parts
        exact ⟨Nat.lt_succ_self n, parts.1.2, parts.2⟩
      · obtain ⟨less, rest⟩ := ih later
        exact ⟨Nat.lt_succ_of_lt less, rest⟩
    · obtain ⟨less, rest⟩ := ih mem
      exact ⟨Nat.lt_succ_of_lt less, rest⟩

/-- What comes after a place does not depend on what comes before it. -/
theorem cuts_of_split {name : List Char} {passOver : Bool} {k n : Nat} {before after : List Nat}
    (split : cuts name passOver k = before ++ n :: after) : after = cuts name true n := by
  induction k generalizing passOver before with
  | zero => simp [cuts] at split
  | succ k ih =>
    rw [cuts] at split
    split at split
    · cases before with
      | nil =>
        obtain ⟨rfl, rest⟩ := List.cons.inj split
        exact rest.symm
      | cons m before => exact ih (List.cons.inj split).2
    · exact ih split

/-- The places depend only on the characters before the bound. -/
theorem cuts_congr {name other : List Char} {k : Nat} (same : ∀ i < k, name[i]? = other[i]?)
    (passOver : Bool) : cuts name passOver k = cuts other passOver k := by
  induction k generalizing passOver with
  | zero => rfl
  | succ k ih =>
    have below : ∀ i < k, name[i]? = other[i]? := fun i less => same i (Nat.lt_succ_of_lt less)
    rw [cuts, cuts, same k (Nat.lt_succ_self k), ih below, ih below]

/-- Only a dot is passed over. -/
theorem cuts_true_of_no_dot {name : List Char} {k : Nat} (noDot : name[k - 1]? ≠ some '.') :
    cuts name true k = cuts name false k := by
  cases k with
  | zero => rfl
  | succ k =>
    have noDot' : name[k]? ≠ some '.' := noDot
    simp [cuts, noDot']

/-- If no two dots stand side by side, every dot but one at the start parts the name. -/
theorem mem_cuts_iff {name : List Char}
    (apart : ∀ i, name[i]? = some '.' → name[i + 1]? ≠ some '.') {passOver : Bool} {k : Nat}
    (passes : passOver = true → name[k]? = some '.') (n : Nat) :
    n ∈ cuts name passOver k ↔ n < k ∧ n ≠ 0 ∧ name[n]? = some '.' := by
  refine ⟨mem_cuts, fun found => ?_⟩
  induction k generalizing passOver with
  | zero => exact absurd found.1 (Nat.not_lt_zero n)
  | succ k ih =>
    obtain ⟨less, inside, dot⟩ := found
    rw [cuts]
    rcases Nat.lt_succ_iff_lt_or_eq.mp less with below | rfl
    · split
      · next parts =>
        simp only [Bool.and_eq_true, decide_eq_true_eq] at parts
        exact List.mem_cons_of_mem k (ih (fun _ => parts.2) ⟨below, inside, dot⟩)
      · exact ih (fun no => absurd no Bool.false_ne_true) ⟨below, inside, dot⟩
    · -- a dot right before the bound is passed over only for another dot at the bound
      have seen : passOver = false := by
        cases passOver with
        | false => rfl
        | true => exact absurd (passes rfl) (apart n dot)
      simp [seen, inside, dot]

/-! ## Names -/

/-- The name up to a place. -/
theorem toList_take (name : String) (n : Nat) :
    (String.ofList (name.toList.take n)).toList = name.toList.take n :=
  String.toList_ofList

/-- A name above another one ends where a dot parts it. -/
theorem exists_of_mem_ancestors {name above : String} (mem : above ∈ ancestors name) :
    ∃ n, n < name.toList.length ∧ n ≠ 0 ∧ name.toList[n]? = some '.' ∧
      above.toList = name.toList.take n := by
  obtain ⟨n, cut, rfl⟩ := List.mem_map.mp mem
  obtain ⟨less, inside, dot⟩ := mem_cuts cut
  exact ⟨n, less, inside, dot, toList_take name n⟩

theorem length_lt_of_mem_ancestors {name above : String} (mem : above ∈ ancestors name) :
    above.toList.length < name.toList.length := by
  obtain ⟨n, less, -, -, text⟩ := exists_of_mem_ancestors mem
  rw [text, List.length_take]
  omega

theorem not_mem_ancestors_self (name : String) : name ∉ ancestors name := fun mem =>
  Nat.lt_irrefl _ (length_lt_of_mem_ancestors mem)

/-- A name above another one, with the names after it. -/
theorem exists_of_ancestors_split {name above : String} {before after : List String}
    (split : ancestors name = before ++ above :: after) :
    ∃ n, n < name.toList.length ∧ n ≠ 0 ∧ above.toList = name.toList.take n ∧
      after = (cuts name.toList true n).map fun m => String.ofList (name.toList.take m) := by
  obtain ⟨first, rest, cut, -, others⟩ := List.map_eq_append_iff.mp split
  obtain ⟨n, last, rfl, here, later⟩ := List.map_eq_cons_iff.mp others
  obtain ⟨less, inside, -⟩ := mem_cuts (cut ▸ List.mem_append_right first List.mem_cons_self)
  refine ⟨n, less, inside, here ▸ toList_take name n, ?_⟩
  rw [← later, cuts_of_split cut]

/-- The names above a name are beginnings of each other and get shorter. -/
theorem prefix_of_ancestors_split {name above : String} {before after : List String}
    (split : ancestors name = before ++ above :: after) {other : String} (mem : other ∈ after) :
    other.toList <+: above.toList ∧ other.toList.length < above.toList.length := by
  obtain ⟨n, less, -, text, rest⟩ := exists_of_ancestors_split split
  rw [rest] at mem
  obtain ⟨m, cut, rfl⟩ := List.mem_map.mp mem
  have shorter : m < n := (mem_cuts cut).1
  rw [toList_take, text]
  refine ⟨List.take_prefix_take_left (Nat.le_of_lt shorter), ?_⟩
  rw [List.length_take, List.length_take]
  omega

theorem ancestors_pairwise (name : String) :
    (ancestors name).Pairwise fun above other =>
      other.toList <+: above.toList ∧ other.toList.length < above.toList.length := by
  suffices all : ∀ before l, ancestors name = before ++ l → l.Pairwise fun above other =>
      other.toList <+: above.toList ∧ other.toList.length < above.toList.length from all [] _ rfl
  intro before l split
  induction l generalizing before with
  | nil => exact .nil
  | cons above after ih =>
    refine .cons (fun other mem => prefix_of_ancestors_split split mem) (ih (before ++ [above]) ?_)
    rw [split, List.append_assoc, List.singleton_append]

theorem nodup_ancestors (name : String) : (ancestors name).Nodup := by
  refine (ancestors_pairwise name).imp ?_
  rintro above other ⟨-, shorter⟩ rfl
  exact Nat.lt_irrefl _ shorter

/-- What stands above a name that ends in no dot does not depend on what follows it. -/
theorem ancestors_of_split {name above : String} {before after : List String}
    (split : ancestors name = before ++ above :: after)
    (closed : above.toList.getLast? ≠ some '.') : after = ancestors above := by
  obtain ⟨n, less, inside, text, rest⟩ := exists_of_ancestors_split split
  have long : above.toList.length = n := by
    rw [text, List.length_take]
    omega
  have noDot : name.toList[n - 1]? ≠ some '.' := by
    rw [List.getLast?_eq_getElem?, long, text, List.getElem?_take_of_lt (by omega)] at closed
    exact closed
  have same : ∀ i < n, name.toList[i]? = above.toList[i]? := fun i inside => by
    rw [text, List.getElem?_take_of_lt inside]
  have sameCuts : cuts name.toList true n = cuts above.toList false above.length := by
    rw [cuts_true_of_no_dot noDot, cuts_congr same, ← String.length_toList, long]
  rw [rest, sameCuts, ancestors]
  refine List.map_congr_left fun m cut => ?_
  have shorter : m < n := by
    have := (mem_cuts cut).1
    rw [← String.length_toList, long] at this
    exact this
  rw [text, List.take_take, Nat.min_eq_left (Nat.le_of_lt shorter)]

/-- Above the root's name there is nothing. -/
theorem ancestors_rootName : ancestors rootName = [] := by
  decide +kernel

/-- The names above a name are its beginnings that a dot follows, if no two dots stand side by
side. -/
theorem mem_ancestors_iff {name : String}
    (apart : ∀ i, name.toList[i]? = some '.' → name.toList[i + 1]? ≠ some '.') (above : String) :
    above ∈ ancestors name ↔ above ≠ "" ∧ ∃ rest, name = above ++ "." ++ rest := by
  rw [ancestors, List.mem_map]
  constructor
  · rintro ⟨n, cut, rfl⟩
    obtain ⟨less, inside, dot⟩ := mem_cuts cut
    rw [← String.length_toList] at less
    refine ⟨fun none => ?_, String.ofList (name.toList.drop (n + 1)), ?_⟩
    · have empty : name.toList.take n = [] := by
        rw [← toList_take, none]
        rfl
      rcases List.take_eq_nil_iff.mp empty with rfl | nothing
      · exact inside rfl
      · rw [nothing] at less
        exact Nat.not_lt_zero n less
    · apply String.toList_injective
      have here : name.toList[n] = '.' := by
        rw [List.getElem?_eq_getElem less] at dot
        exact Option.some.inj dot
      have parted : name.toList = name.toList.take n ++ '.' :: name.toList.drop (n + 1) := by
        conv_lhs => rw [← List.take_append_drop n name.toList, List.drop_eq_getElem_cons less, here]
      simpa using parted
  · rintro ⟨some, rest, rfl⟩
    have text : (above ++ "." ++ rest).toList = above.toList ++ '.' :: rest.toList := by simp
    have inside : above.toList.length ≠ 0 := by
      intro none
      exact some (String.toList_eq_nil_iff.mp (List.length_eq_zero_iff.mp none))
    refine ⟨above.toList.length, (mem_cuts_iff apart (fun no => absurd no Bool.false_ne_true) _).mpr
      ⟨?_, inside, ?_⟩, ?_⟩
    · rw [← String.length_toList, text, List.length_append, List.length_cons]
      omega
    · rw [text]
      simp
    · rw [text, List.take_left, String.ofList_toList]

end SearchDesk.Logging
