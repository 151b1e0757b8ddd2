/-!
# Ordered dictionaries

A dictionary with text keys that keeps the order in which its keys were first put in.

* `get?` finds the value of a key, `has` tells whether the key is there;
* `put` replaces the value of a key in place, or adds the key at the end;
* `erase` removes a key.

A list that repeats a key is read as a dictionary by its first entry for that key; `put`
and `ofList` make no repetitions.
-/

namespace SearchDesk

/-- Keys with values, in order. -/
abbrev Entries (α : Type) := List (String × α)

namespace Entries

variable {α : Type}

/-- The keys, in order. -/
def keys (es : Entries α) : List String := es.map (·.1)

/-- The value of a key. -/
def get? (key : String) : Entries α → Option α
  | [] => none
  | (k, v) :: rest => if k = key then some v else get? key rest

/-- Whether a key is present. -/
def has (key : String) (es : Entries α) : Bool := es.any fun e => e.1 = key

/-- Give a key a value: in place if the key is present, else at the end. -/
def put (key : String) (value : α) : Entries α → Entries α
  | [] => [(key, value)]
  | (k, v) :: rest => if k = key then (k, value) :: rest else (k, v) :: put key value rest

/-- The dictionary without a key. -/
def erase (key : String) (es : Entries α) : Entries α := es.filter fun e => e.1 ≠ key

/-- A dictionary from a list; a repeated key keeps its first place and its last value. -/
def ofList (es : List (String × α)) : Entries α := es.foldl (fun acc e => put e.1 e.2 acc) []

/-! ## Laws -/

theorem get?_put_self (key : String) (value : α) (es : Entries α) :
    get? key (put key value es) = some value := by
  induction es with
  | nil => simp [put, get?]
  | cons e rest ih =>
    obtain ⟨k, v⟩ := e
    by_cases h : k = key <;> simp [put, get?, h, ih]

theorem get?_put_of_ne {key other : String} (h : other ≠ key) (value : α) (es : Entries α) :
    get? other (put key value es) = get? other es := by
  induction es with
  | nil => simp [put, get?, Ne.symm h]
  | cons e rest ih =>
    obtain ⟨k, v⟩ := e
    by_cases hk : k = key
    · subst hk; simp [put, get?, Ne.symm h]
    · rw [put, if_neg hk]
      by_cases ho : k = other <;> simp [get?, ho, ih]

theorem erase_cons (key k : String) (v : α) (rest : Entries α) :
    erase key ((k, v) :: rest) = if k = key then erase key rest else (k, v) :: erase key rest := by
  by_cases hk : k = key <;> simp [erase, hk]

theorem get?_erase_of_ne {key other : String} (h : other ≠ key) (es : Entries α) :
    get? other (erase key es) = get? other es := by
  induction es with
  | nil => rfl
  | cons e rest ih =>
    obtain ⟨k, v⟩ := e
    rw [erase_cons]
    by_cases hk : k = key
    · subst hk
      rw [if_pos rfl, ih, get?, if_neg (Ne.symm h)]
    · rw [if_neg hk]
      by_cases ho : k = other <;> simp [get?, ho, ih]

theorem get?_erase_self (key : String) (es : Entries α) : get? key (erase key es) = none := by
  induction es with
  | nil => rfl
  | cons e rest ih =>
    obtain ⟨k, v⟩ := e
    rw [erase_cons]
    by_cases hk : k = key
    · rw [if_pos hk, ih]
    · rw [if_neg hk, get?, if_neg hk, ih]

theorem mem_of_get? {key : String} {value : α} {es : Entries α} (h : get? key es = some value) :
    (key, value) ∈ es := by
  induction es with
  | nil => cases h
  | cons e rest ih =>
    obtain ⟨k, v⟩ := e
    by_cases hk : k = key
    · rw [get?, if_pos hk, Option.some.injEq] at h
      rw [hk, h]
      exact List.mem_cons_self
    · rw [get?, if_neg hk] at h
      exact List.mem_cons_of_mem _ (ih h)

/-- If no key is repeated, every entry is the value of its key. -/
theorem get?_of_mem {key : String} {value : α} {es : Entries α} (distinct : (keys es).Nodup)
    (h : (key, value) ∈ es) : get? key es = some value := by
  induction es with
  | nil => cases h
  | cons e rest ih =>
    obtain ⟨k, v⟩ := e
    have tail : k ∉ keys rest ∧ (keys rest).Nodup := List.nodup_cons.mp distinct
    rcases List.mem_cons.mp h with same | later
    · obtain ⟨rfl, rfl⟩ := Prod.mk.inj same
      rw [get?, if_pos rfl]
    · have other : k ≠ key := fun same => tail.1 (same ▸ List.mem_map.mpr ⟨_, later, rfl⟩)
      rw [get?, if_neg other, ih tail.2 later]

/-- Changing values in place leaves the keys where they are. -/
theorem get?_map {β : Type} (f : String → α → β) (key : String) (es : Entries α) :
    get? key (es.map fun e => (e.1, f e.1 e.2)) = (get? key es).map (f key) := by
  induction es with
  | nil => rfl
  | cons e rest ih =>
    obtain ⟨k, v⟩ := e
    by_cases hk : k = key
    · subst hk
      simp [get?]
    · rw [List.map_cons, get?, if_neg hk, ih, get?, if_neg hk]

theorem keys_map {β : Type} (f : String → α → β) (es : Entries α) :
    keys (es.map fun e => (e.1, f e.1 e.2)) = keys es := by
  rw [keys, keys, List.map_map]
  rfl

theorem has_iff_get?_isSome (key : String) (es : Entries α) :
    has key es = (get? key es).isSome := by
  induction es with
  | nil => rfl
  | cons e rest ih =>
    obtain ⟨k, v⟩ := e
    by_cases h : k = key
    · simp [has, get?, h]
    · simp only [has] at ih
      simp [has, get?, h, ih]

theorem has_eq_false_iff (key : String) (es : Entries α) :
    has key es = false ↔ get? key es = none := by
  rw [has_iff_get?_isSome]
  cases get? key es <;> simp

/-- A key that is not there yet goes to the end with its value. -/
theorem put_of_get?_eq_none {key : String} {es : Entries α} (h : get? key es = none) (value : α) :
    put key value es = es ++ [(key, value)] := by
  induction es with
  | nil => rfl
  | cons e rest ih =>
    obtain ⟨k, v⟩ := e
    by_cases hk : k = key
    · rw [get?, if_pos hk] at h
      cases h
    · rw [get?, if_neg hk] at h
      rw [put, if_neg hk, ih h, List.cons_append]

/-- The entry that a new value for its key replaces, between those that stay. -/
theorem exists_split {key : String} {v : α} {es : Entries α} (h : get? key es = some v) :
    ∃ before after, es = before ++ (key, v) :: after ∧
      ∀ w, put key w es = before ++ (key, w) :: after := by
  induction es with
  | nil => cases h
  | cons e rest ih =>
    obtain ⟨k, u⟩ := e
    by_cases hk : k = key
    · rw [get?, if_pos hk, Option.some.injEq] at h
      subst hk h
      exact ⟨[], rest, rfl, fun w => by rw [put, if_pos rfl, List.nil_append]⟩
    · rw [get?, if_neg hk] at h
      obtain ⟨before, after, all, written⟩ := ih h
      refine ⟨(k, u) :: before, after, by rw [all, List.cons_append], fun w => ?_⟩
      rw [put, if_neg hk, written, List.cons_append]

theorem keys_put_of_mem {key : String} {es : Entries α} (h : key ∈ keys es) (value : α) :
    keys (put key value es) = keys es := by
  induction es with
  | nil => simp [keys] at h
  | cons e rest ih =>
    obtain ⟨k, v⟩ := e
    by_cases hk : k = key
    · simp [put, keys, hk]
    · have tail : key ∈ keys rest := by simpa [keys, Ne.symm hk] using h
      have := ih tail
      simp only [keys] at this
      simp [put, keys, hk, this]

theorem keys_put_of_not_mem {key : String} {es : Entries α} (h : key ∉ keys es) (value : α) :
    keys (put key value es) = keys es ++ [key] := by
  induction es with
  | nil => rfl
  | cons e rest ih =>
    obtain ⟨k, v⟩ := e
    simp only [keys, List.map_cons, List.mem_cons, not_or] at h
    have := ih h.2
    simp only [keys] at this
    simp [put, keys, Ne.symm h.1, this]

theorem nodup_keys_put {es : Entries α} (distinct : (keys es).Nodup) (key : String) (value : α) :
    (keys (put key value es)).Nodup := by
  by_cases here : key ∈ keys es
  · rw [keys_put_of_mem here]
    exact distinct
  · rw [keys_put_of_not_mem here, List.nodup_append]
    refine ⟨distinct, by simp, ?_⟩
    rintro k old l new rfl
    exact here (List.mem_singleton.mp new ▸ old)

theorem eq_or_mem_of_mem_put {key : String} {value : α} {es : Entries α} {e : String × α}
    (mem : e ∈ put key value es) : e = (key, value) ∨ e ∈ es := by
  induction es with
  | nil => exact .inl (List.mem_singleton.mp mem)
  | cons e' rest ih =>
    obtain ⟨k, v⟩ := e'
    by_cases same : k = key
    · rw [put, if_pos same, same] at mem
      rcases List.mem_cons.mp mem with rfl | later
      · exact .inl rfl
      · exact .inr (List.mem_cons_of_mem _ later)
    · rw [put, if_neg same] at mem
      rcases List.mem_cons.mp mem with rfl | later
      · exact .inr List.mem_cons_self
      · exact (ih later).imp_right (List.mem_cons_of_mem _)

theorem mem_put_iff {es : Entries α} (distinct : (keys es).Nodup) (key : String) (value : α)
    (e : String × α) : e ∈ put key value es ↔ e = (key, value) ∨ e ∈ es ∧ e.1 ≠ key := by
  induction es with
  | nil => simp [put]
  | cons e' rest ih =>
    obtain ⟨k, v⟩ := e'
    obtain ⟨fresh, distinct'⟩ : k ∉ keys rest ∧ (keys rest).Nodup := List.nodup_cons.mp distinct
    by_cases same : k = key
    · subst same
      have later : e ∈ rest → e.1 ≠ k := fun mem here =>
        fresh (here ▸ List.mem_map_of_mem mem)
      rw [put, if_pos rfl, List.mem_cons, List.mem_cons]
      constructor
      · rintro (rfl | mem)
        · exact .inl rfl
        · exact .inr ⟨.inr mem, later mem⟩
      · rintro (rfl | ⟨rfl | mem, other⟩)
        · exact .inl rfl
        · exact absurd rfl other
        · exact .inr mem
    · rw [put, if_neg same, List.mem_cons, List.mem_cons, ih distinct']
      constructor
      · rintro (rfl | rfl | ⟨mem, other⟩)
        · exact .inr ⟨.inl rfl, same⟩
        · exact .inl rfl
        · exact .inr ⟨.inr mem, other⟩
      · rintro (rfl | ⟨rfl | mem, other⟩)
        · exact .inr (.inl rfl)
        · exact .inl rfl
        · exact .inr (.inr ⟨mem, other⟩)

theorem keys_erase (key : String) (es : Entries α) :
    keys (erase key es) = (keys es).filter fun k => k ≠ key := by
  rw [keys, keys, erase, List.filter_map]
  rfl

theorem nodup_keys_erase {es : Entries α} (distinct : (keys es).Nodup) (key : String) :
    (keys (erase key es)).Nodup :=
  distinct.sublist (List.Sublist.map _ List.filter_sublist)

theorem get?_eq_none_iff (key : String) (es : Entries α) : get? key es = none ↔ key ∉ keys es := by
  rw [← has_eq_false_iff, ← Bool.not_eq_true]
  simp [has, keys]

/-- New keys go to the end one after the other. -/
theorem foldl_put {es fs : Entries α} (distinct : (keys (es ++ fs)).Nodup) :
    fs.foldl (fun acc e => put e.1 e.2 acc) es = es ++ fs := by
  induction fs generalizing es with
  | nil => simp
  | cons e rest ih =>
    obtain ⟨k, v⟩ := e
    have all : es ++ (k, v) :: rest = es ++ [(k, v)] ++ rest := by simp
    have fresh : k ∉ keys es := by
      intro old
      rw [keys, List.map_append, List.nodup_append] at distinct
      exact distinct.2.2 k old k List.mem_cons_self rfl
    rw [all] at distinct
    rw [List.foldl_cons, put_of_get?_eq_none ((get?_eq_none_iff k es).mpr fresh), ih distinct, all]

/-- A list that repeats no key is a dictionary already. -/
theorem ofList_eq_self {es : Entries α} (distinct : (keys es).Nodup) : ofList es = es :=
  foldl_put distinct

theorem nodup_keys_foldl_put {es : Entries α} (distinct : (keys es).Nodup)
    (fs : List (String × α)) : (keys (fs.foldl (fun acc e => put e.1 e.2 acc) es)).Nodup := by
  induction fs generalizing es with
  | nil => exact distinct
  | cons e rest ih => exact ih (nodup_keys_put distinct e.1 e.2)

theorem nodup_keys_ofList (es : List (String × α)) : (keys (ofList es)).Nodup :=
  nodup_keys_foldl_put (show (keys ([] : Entries α)).Nodup from List.nodup_nil) es

theorem mem_or_mem_of_mem_foldl_put {es : Entries α} {fs : List (String × α)} {e : String × α}
    (mem : e ∈ fs.foldl (fun acc e => put e.1 e.2 acc) es) : e ∈ es ∨ e ∈ fs := by
  induction fs generalizing es with
  | nil => exact .inl mem
  | cons f rest ih =>
    rcases ih mem with written | later
    · rcases eq_or_mem_of_mem_put written with rfl | old
      · exact .inr List.mem_cons_self
      · exact .inl old
    · exact .inr (List.mem_cons_of_mem f later)

theorem mem_of_mem_ofList {es : List (String × α)} {e : String × α} (mem : e ∈ ofList es) :
    e ∈ es :=
  (mem_or_mem_of_mem_foldl_put mem).resolve_left List.not_mem_nil

end Entries

end SearchDesk
