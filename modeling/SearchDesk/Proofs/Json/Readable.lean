import SearchDesk.Proofs.Json.ReadBack
import SearchDesk.Proofs.Outcome

/-!
# Values that are read

What is read from a document is readable: its text is read as the same value again
(`readable_of_read`). The three functions on nested values are taken together, by induction on the
bound of the nesting.
-/

namespace SearchDesk.Json

open Outcome (exists_of_bind_eq_ok)

/-! ## Values without parts -/

theorem readable_null : Readable .null :=
  everywhere_of_no_parts (by simp) (by simp) trivial

theorem readable_bool (b : Bool) : Readable (.bool b) :=
  everywhere_of_no_parts (by simp) (by simp) trivial

theorem readable_str (s : String) : Readable (.str s) :=
  everywhere_of_no_parts (by simp) (by simp) trivial

theorem readable_float {x : Binary64} (formed : x.WellFormed) : Readable (.float x) :=
  everywhere_of_no_parts (by simp) (by simp) formed

theorem readable_int {n : Int} (small : n.natAbs < 10 ^ digitLimit) : Readable (.int n) := by
  refine everywhere_of_no_parts (by simp) (by simp) ?_
  exact (Nat.length_toDigits_le_iff (by decide) (by decide)).mpr small

/-! ## Arrays and objects -/

theorem readable_arr_iff {items : List Json} :
    Readable (.arr items) ↔ ∀ v ∈ items, Readable v :=
  everywhere_arr_iff.trans (and_iff_right trivial)

theorem readable_obj_iff {ms : Members} :
    Readable (.obj ms) ↔ ms.keys.Nodup ∧ ∀ e ∈ ms, Readable e.2 :=
  everywhere_obj_iff

theorem readable_put {ms : Members} (readable : Readable (.obj ms)) (key : String) {v : Json}
    (value : Readable v) : Readable (.obj (ms.put key v)) := by
  obtain ⟨distinct, each⟩ := readable_obj_iff.mp readable
  refine readable_obj_iff.mpr ⟨Entries.nodup_keys_put distinct key v, fun e mem => ?_⟩
  rcases Entries.eq_or_mem_of_mem_put mem with rfl | old
  · exact value
  · exact each e old

theorem readable_erase {ms : Members} (readable : Readable (.obj ms)) (key : String) :
    Readable (.obj (ms.erase key)) := by
  obtain ⟨distinct, each⟩ := readable_obj_iff.mp readable
  exact readable_obj_iff.mpr ⟨Entries.nodup_keys_erase distinct key,
    fun e mem => each e (List.mem_of_mem_filter mem)⟩

/-- The parts of what is readable are readable. -/
theorem inherited_readable : Inherited Readable where
  null := readable_null
  item readable mem := readable_arr_iff.mp readable _ mem
  member readable mem := (readable_obj_iff.mp readable).2 _ mem

theorem Inherited.get? {P : Json → Prop} (inherited : Inherited P) {ms : Members} {key : String}
    {v : Json} (whole : P (.obj ms)) (found : ms.get? key = some v) : P v :=
  inherited.member whole (Entries.mem_of_get? found)

namespace Reader

/-! ## Numbers -/

theorem digitsValue_lt {ds : List Char} (row : Digits ds) : digitsValue ds < 10 ^ ds.length := by
  have each : ∀ (ds : List Char) (init : Nat), Digits ds →
      Nat.ofDigitChars 10 ds init < 10 ^ ds.length * (init + 1) := by
    intro ds
    induction ds with
    | nil => intro init _; simp [Nat.ofDigitChars]
    | cons c rest ih =>
      intro init row
      obtain ⟨digit, later⟩ := List.forall_mem_cons.mp row
      have small : c.toNat - '0'.toNat ≤ 9 := by
        simp only [Char.isDigit, Bool.and_eq_true, decide_eq_true_eq] at digit
        exact Nat.sub_le_of_le_add (UInt32.le_iff_toNat_le.mp digit.2)
      have rest := ih (10 * init + (c.toNat - '0'.toNat)) later
      rw [Nat.ofDigitChars_cons]
      refine lt_of_lt_of_le rest ?_
      rw [List.length_cons, Nat.pow_succ, Nat.mul_assoc]
      exact Nat.mul_le_mul_left _ (by omega)
  rw [digitsValue_eq]
  simpa using each ds 0 row

theorem digits_fst (s : List Char) : Digits (digits s).1 :=
  List.all_eq_true.mp List.all_takeWhile

theorem readable_of_number {start s rest : List Char} {negative : Bool} {v : Json}
    (read : number start negative s = .ok (v, rest)) : Readable v := by
  unfold number at read
  dsimp only at read
  split at read
  · cases read
  · rename_i ds after _ whole
    -- the digits before the point are a row of digits, also a zero alone
    have row : Digits ds := by
      split at whole
      · obtain ⟨rfl, -⟩ := Prod.mk.inj whole
        exact digits_zeros 1
      · rw [← (Prod.mk.inj whole).1]
        exact digits_fst s
    split at read
    · split at read
      · cases read
      · rename_i long
        obtain ⟨rfl, -⟩ := Prod.mk.inj (Except.ok.inj read)
        have bound : 10 ^ ds.length ≤ 10 ^ digitLimit :=
          Nat.pow_le_pow_right (by decide) (Nat.not_lt.mp long)
        refine readable_int (lt_of_lt_of_le ?_ bound)
        split <;> simpa using digitsValue_lt row
    · obtain ⟨rfl, -⟩ := Prod.mk.inj (Except.ok.inj read)
      exact readable_float (Binary64.wellFormed_ofDecimal _ _ _)

theorem readable_of_scalar {s rest : List Char} {v : Json} (read : scalar s = .ok (v, rest)) :
    Readable v := by
  unfold scalar at read
  dsimp only at read
  split at read
  · rename_i r found
    obtain rfl := Except.ok.inj read
    obtain ⟨w, mem, stands⟩ := List.exists_of_findSome?_eq_some found
    obtain ⟨after, -, same⟩ := Option.map_eq_some_iff.mp stands
    obtain ⟨rfl, -⟩ := Prod.mk.inj same
    simp only [List.mem_cons, List.not_mem_nil, or_false] at mem
    rcases mem with rfl | rfl | rfl | rfl | rfl | rfl
    · exact readable_null
    · exact readable_bool true
    · exact readable_bool false
    · exact readable_float trivial
    · exact readable_float trivial
    · exact readable_float trivial
  · split at read
    · exact readable_of_number read
    · exact readable_of_number read

/-! ## Nested values -/

/-- Whatever is read within a bound of the nesting is readable. -/
structure ReadableWithin (n : Nat) : Prop where
  value : ∀ {s v rest}, value n s = .ok (v, rest) → Readable v
  items : ∀ {s vs rest}, items n s = .ok (vs, rest) → ∀ v ∈ vs, Readable v
  members : ∀ {s ms rest}, members n s = .ok (ms, rest) → ∀ e ∈ ms, Readable e.2

section Step

variable {n : Nat} {s rest : List Char}

theorem ReadableWithin.value_succ (within : ReadableWithin n) {v : Json}
    (read : Reader.value (n + 1) s = .ok (v, rest)) : Readable v := by
  unfold Reader.value at read
  split at read
  · obtain ⟨x, -, same⟩ := exists_of_bind_eq_ok read
    obtain ⟨rfl, -⟩ := Prod.mk.inj (Except.ok.inj same)
    exact readable_str _
  · split at read
    · obtain ⟨rfl, -⟩ := Prod.mk.inj (Except.ok.inj read)
      exact readable_arr_iff.mpr (by simp)
    · obtain ⟨x, found, same⟩ := exists_of_bind_eq_ok read
      obtain ⟨rfl, -⟩ := Prod.mk.inj (Except.ok.inj same)
      exact readable_arr_iff.mpr (within.items found)
  · split at read
    · obtain ⟨rfl, -⟩ := Prod.mk.inj (Except.ok.inj read)
      exact readable_obj_iff.mpr ⟨List.nodup_nil, by simp⟩
    · obtain ⟨x, found, same⟩ := exists_of_bind_eq_ok read
      obtain ⟨rfl, -⟩ := Prod.mk.inj (Except.ok.inj same)
      -- a key that comes twice is kept once, with a value that was read
      refine readable_obj_iff.mpr ⟨Entries.nodup_keys_ofList _, fun e mem => ?_⟩
      exact within.members found e (Entries.mem_of_mem_ofList mem)
  · exact readable_of_scalar read

theorem ReadableWithin.items_succ (within : ReadableWithin n) {vs : List Json}
    (read : Reader.items (n + 1) s = .ok (vs, rest)) : ∀ v ∈ vs, Readable v := by
  unfold Reader.items at read
  obtain ⟨x, found, read⟩ := exists_of_bind_eq_ok read
  have first := within.value found
  dsimp only at read
  split at read
  · obtain ⟨rfl, -⟩ := Prod.mk.inj (Except.ok.inj read)
    simpa using first
  · obtain ⟨y, more, same⟩ := exists_of_bind_eq_ok read
    obtain ⟨rfl, -⟩ := Prod.mk.inj (Except.ok.inj same)
    exact List.forall_mem_cons.mpr ⟨first, within.items more⟩
  · cases read

theorem ReadableWithin.members_succ (within : ReadableWithin n) {ms : Members}
    (read : Reader.members (n + 1) s = .ok (ms, rest)) : ∀ e ∈ ms, Readable e.2 := by
  unfold Reader.members at read
  split at read
  · obtain ⟨k, -, read⟩ := exists_of_bind_eq_ok read
    dsimp only at read
    split at read
    · obtain ⟨x, found, read⟩ := exists_of_bind_eq_ok read
      have first := within.value found
      split at read
      · obtain ⟨rfl, -⟩ := Prod.mk.inj (Except.ok.inj read)
        simpa using first
      · obtain ⟨y, more, same⟩ := exists_of_bind_eq_ok read
        obtain ⟨rfl, -⟩ := Prod.mk.inj (Except.ok.inj same)
        exact List.forall_mem_cons.mpr ⟨first, within.members more⟩
      · cases read
    · cases read
  · cases read

end Step

theorem readableWithin (n : Nat) : ReadableWithin n := by
  induction n with
  | zero => constructor <;> intro s _ rest read <;> cases read
  | succ n within => exact ⟨within.value_succ, within.items_succ, within.members_succ⟩

end Reader

/-- What a document stands for is readable. -/
theorem readable_of_read {text : String} {v : Json} (read : Json.read text = .ok v) :
    Readable v := by
  have whole := document_of_read read
  unfold Reader.document at whole
  split at whole
  · cases whole
  · split at whole
    · cases whole
    · rename_i found
      split at whole
      · obtain rfl := Except.ok.inj whole
        exact (Reader.readableWithin _).value found
      · cases whole

end SearchDesk.Json
