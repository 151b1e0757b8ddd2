import SearchDesk.Entries
import SearchDesk.Proofs.Order

/-!
# Dictionaries made from lists

What the dictionary of a list of keys with values is, said of the list:

* it has the keys of the list, in the order in which they first occur (`keys_ofList`);
* a key has the last of the values that the list gives it (`get?_ofList`);
* without a key it is the dictionary of the other entries (`erase_ofList`).

So what a list says of one key neither moves nor changes the entries of the others.
-/

namespace SearchDesk.Entries

variable {α : Type}

theorem keys_put (key : String) (value : α) (es : Entries α) :
    keys (put key value es) = if key ∈ keys es then keys es else keys es ++ [key] := by
  by_cases here : key ∈ keys es
  · rw [if_pos here, keys_put_of_mem here]
  · rw [if_neg here, keys_put_of_not_mem here]

/-- The last value that a key is given counts. -/
theorem put_put (key : String) (first value : α) (es : Entries α) :
    put key value (put key first es) = put key value es := by
  induction es with
  | nil => simp [put]
  | cons e rest ih =>
    obtain ⟨k, v⟩ := e
    by_cases same : k = key <;> simp [put, same, ih]

theorem erase_put_self (key : String) (value : α) (es : Entries α) :
    erase key (put key value es) = erase key es := by
  induction es with
  | nil => simp [put, erase]
  | cons e rest ih =>
    obtain ⟨k, v⟩ := e
    by_cases same : k = key
    · rw [put, if_pos same, erase_cons, erase_cons, if_pos same, if_pos same]
    · rw [put, if_neg same, erase_cons, erase_cons, if_neg same, if_neg same, ih]

theorem erase_put_of_ne {key other : String} (ne : other ≠ key) (value : α) (es : Entries α) :
    erase key (put other value es) = put other value (erase key es) := by
  induction es with
  | nil => simp [put, erase, ne]
  | cons e rest ih =>
    obtain ⟨k, v⟩ := e
    by_cases replaced : k = other
    · subst replaced
      rw [put, if_pos rfl, erase_cons, erase_cons, if_neg ne, if_neg ne, put, if_pos rfl]
    · rw [put, if_neg replaced, erase_cons, erase_cons]
      by_cases erased : k = key
      · rw [if_pos erased, if_pos erased, ih]
      · rw [if_neg erased, if_neg erased, put, if_neg replaced, ih]

/-- Leaving out entries by their keys keeps the values of the other keys. -/
theorem get?_filter {p : String → Bool} {key : String} (kept : p key = true) (es : Entries α) :
    get? key (es.filter fun e => p e.1) = get? key es := by
  induction es with
  | nil => rfl
  | cons e rest ih =>
    obtain ⟨k, v⟩ := e
    by_cases same : k = key
    · subst same
      simp [kept, get?]
    · rw [get?, if_neg same, List.filter_cons]
      split
      · rw [get?, if_neg same, ih]
      · exact ih

/-- The last entry of a list is put into the dictionary of those before it. -/
theorem ofList_concat (es : List (String × α)) (e : String × α) :
    ofList (es ++ [e]) = put e.1 e.2 (ofList es) :=
  List.foldl_concat _ _ _ _

theorem keys_ofList (es : List (String × α)) : keys (ofList es) = (keys es).eraseDups := by
  induction es using List.reverseRecOn with
  | nil => rfl
  | append_singleton es e ih =>
    have all : keys (es ++ [e]) = keys es ++ [e.1] := by simp [keys]
    rw [ofList_concat, keys_put, ih, all, Order.eraseDups_concat]
    simp only [List.mem_eraseDups]

/-- A key has the last of its values. -/
theorem get?_ofList (key : String) (es : List (String × α)) :
    get? key (ofList es) = ((es.filter fun e => e.1 = key).getLast?).map (·.2) := by
  induction es using List.reverseRecOn with
  | nil => rfl
  | append_singleton es e ih =>
    rw [ofList_concat, List.filter_append]
    by_cases own : e.1 = key
    · have last : [e].filter (fun e => e.1 = key) = [e] := by simp [own]
      rw [← own, get?_put_self, own, last, List.getLast?_concat]
      rfl
    · have none : [e].filter (fun e => e.1 = key) = [] := by simp [own]
      rw [get?_put_of_ne (Ne.symm own), ih, none, List.append_nil]

/-- The entries of a key leave those of the other keys alone. -/
theorem erase_ofList (key : String) (es : List (String × α)) :
    erase key (ofList es) = ofList (es.filter fun e => e.1 ≠ key) := by
  induction es using List.reverseRecOn with
  | nil => rfl
  | append_singleton es e ih =>
    rw [ofList_concat, List.filter_append]
    by_cases own : e.1 = key
    · have none : [e].filter (fun e => e.1 ≠ key) = [] := by simp [own]
      rw [← own, erase_put_self, own, ih, none, List.append_nil]
    · have kept : [e].filter (fun e => e.1 ≠ key) = [e] := by simp [own]
      rw [erase_put_of_ne own, ih, kept, ofList_concat]

end SearchDesk.Entries
