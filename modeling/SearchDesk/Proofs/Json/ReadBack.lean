import SearchDesk.Proofs.Json.Everywhere
import SearchDesk.Proofs.Json.Numbers
import SearchDesk.Proofs.Json.Texts

/-!
# Values that read back

The indented text of a value is read as that value.

* `Readable` holds of the values that have such a text: everywhere in them integers have no more
  digits than are read, numbers are in their only form and no object repeats a key;
* `value_array`, `items_cons`, `members_cons` and the lemmas beside them are the rules by which
  arrays and objects are read;
* `value_indentedAt` reads the text of a value back at any level, by recursion on the value;
* `read_indented` is the result for a whole document.
-/

namespace SearchDesk.Json

/-- What has to hold of a value and of its parts for the text to stand for it. -/
def Fits : Json → Prop
  | .int n => (decimalDigits n.natAbs).length ≤ digitLimit
  | .float x => x.WellFormed
  | .obj ms => (Entries.keys ms).Nodup
  | _ => True

/-- The value has a text that stands for it. -/
def Readable : Json → Prop := Everywhere Fits

namespace Reader

/-! ## Space -/

/-- The characters of a line feed and an indentation are passed over. -/
theorem skipSpace_newLine (level : Nat) (s : List Char) :
    skipSpace ((newLine level).toList ++ s) = skipSpace s := by
  have space : ∀ c ∈ (newLine level).toList, isSpace c = true := by
    intro c mem
    rw [newLine, String.toList_ofList, List.mem_cons] at mem
    rcases mem with rfl | mem
    · rfl
    · rw [List.eq_of_mem_replicate mem]
      rfl
  exact List.dropWhile_append_of_pos space

theorem skipSpace_cons {c : Char} (notSpace : isSpace c = false) (s : List Char) :
    skipSpace (c :: s) = c :: s := List.dropWhile_cons_of_neg (by simp [notSpace])

/-- A value starts neither with space nor with what closes an array, nor with the mark that is
refused at the start of a document. -/
theorem head_of_value {n : Nat} {s : List Char} {r : Json × List Char} (read : value n s = .ok r) :
    ∃ c tail, s = c :: tail ∧ isSpace c = false ∧ c ≠ ']' ∧ c ≠ '\uFEFF' := by
  cases n with
  | zero => cases read
  | succ n =>
    cases s with
    | nil => cases read
    | cons c tail =>
      refine ⟨c, tail, rfl, ?_, ?_, ?_⟩
      · by_contra space
        simp only [isSpace, Bool.not_eq_false, Bool.or_eq_true, decide_eq_true_eq] at space
        rcases space with ((rfl | rfl) | rfl) | rfl <;> cases read
      · rintro rfl
        cases read
      · rintro rfl
        cases read

theorem skipSpace_of_value {n : Nat} {s : List Char} {r : Json × List Char}
    (read : value n s = .ok r) : skipSpace s = s := by
  obtain ⟨c, tail, rfl, notSpace, -⟩ := head_of_value read
  exact skipSpace_cons notSpace tail

/-- What is read as a word or a number starts as no other value does. -/
theorem value_of_scalar {s : List Char} {r : Json × List Char} (read : scalar s = .ok r) (n : Nat) :
    value (n + 1) s = .ok r := by
  have notText : ∀ rest, s = '"' :: rest → False := by
    rintro rest rfl
    cases read
  have notArray : ∀ rest, s = '[' :: rest → False := by
    rintro rest rfl
    cases read
  have notObject : ∀ rest, s = '\x7b' :: rest → False := by
    rintro rest rfl
    cases read
  simp only [value, read]

/-! ## Arrays and objects -/

theorem items_singleton {n : Nat} {s after rest : List Char} {v : Json}
    (read : value n s = .ok (v, after)) (close : skipSpace after = ']' :: rest) :
    items (n + 1) s = .ok ([v], rest) := by
  rw [items, read]
  simp only [bind, Except.bind, close]
  rfl

theorem items_cons {n : Nat} {s after more rest : List Char} {v : Json} {vs : List Json}
    (read : value n s = .ok (v, after)) (comma : skipSpace after = ',' :: more)
    (later : items n (skipSpace more) = .ok (vs, rest)) :
    items (n + 1) s = .ok (v :: vs, rest) := by
  rw [items, read]
  simp only [bind, Except.bind, comma, later]
  rfl

/-- Items start as the first one does. -/
theorem head_of_items {n : Nat} {s : List Char} {r : List Json × List Char}
    (read : items n s = .ok r) : ∃ n x, value n s = .ok x := by
  cases n with
  | zero => cases read
  | succ n =>
    rw [items] at read
    rcases first : value n s with f | x
    · rw [first] at read
      cases read
    · exact ⟨n, x, first⟩

theorem value_array {n : Nat} {s rest : List Char} {vs : List Json}
    (read : items n (skipSpace s) = .ok (vs, rest)) :
    value (n + 1) ('[' :: s) = .ok (.arr vs, rest) := by
  obtain ⟨_, _, first⟩ := head_of_items read
  obtain ⟨c, tail, start, -, notClose, -⟩ := head_of_value first
  have given : ∀ r, c :: tail = ']' :: r → False := fun r same => notClose (List.cons.inj same).1
  rw [start] at read
  simp only [value, start, read, bind, Except.bind]
  rfl

theorem members_singleton {n : Nat} {s afterKey s' after rest : List Char} {k : String} {v : Json}
    (key : textTail ('"' :: s) 0 [] s = .ok (k, afterKey))
    (colon : skipSpace afterKey = ':' :: s') (read : value n (skipSpace s') = .ok (v, after))
    (close : skipSpace after = '}' :: rest) :
    members (n + 1) ('"' :: s) = .ok ([(k, v)], rest) := by
  rw [members, key]
  simp only [bind, Except.bind, colon, read, close]
  rfl

theorem members_cons {n : Nat} {s afterKey s' after more rest : List Char} {k : String} {v : Json}
    {ms : List (String × Json)}
    (key : textTail ('"' :: s) 0 [] s = .ok (k, afterKey))
    (colon : skipSpace afterKey = ':' :: s') (read : value n (skipSpace s') = .ok (v, after))
    (comma : skipSpace after = ',' :: more)
    (later : members n (skipSpace more) = .ok (ms, rest)) :
    members (n + 1) ('"' :: s) = .ok ((k, v) :: ms, rest) := by
  rw [members, key]
  simp only [bind, Except.bind, colon, read, comma, later]
  rfl

theorem value_object {n : Nat} {s more rest : List Char} {ms : List (String × Json)}
    (start : skipSpace s = '"' :: more) (read : members n ('"' :: more) = .ok (ms, rest)) :
    value (n + 1) ('\x7b' :: s) = .ok (.obj (Entries.ofList ms), rest) := by
  simp only [value, start]
  show (members n ('"' :: more) >>= fun x => pure (Json.obj (Entries.ofList x.1), x.2)) = _
  rw [read]
  rfl

/-! ## The text of a value -/

/-- The text of items, the first one among them. -/
def itemsText (level : Nat) : List Json → List Char
  | [] => []
  | v :: rest => (indentedAt level v).toList ++ (indentedItems level rest).toList

/-- The text of members, the first one among them. -/
def membersText (level : Nat) : List (String × Json) → List Char
  | [] => []
  | (k, v) :: rest => (writeText k).toList ++ ':' :: ' ' ::
      ((indentedAt level v).toList ++ (indentedMembers level rest).toList)

theorem toList_writeText (s : String) :
    (writeText s).toList = '"' :: (s.toList.flatMap writeChar ++ ['"']) := by
  simp [writeText]

theorem toList_indentedItems (level : Nat) (v : Json) (rest : List Json) :
    (indentedItems level (v :: rest)).toList =
      ',' :: ((newLine level).toList ++ itemsText level (v :: rest)) := by
  simp [indentedItems, itemsText]

theorem toList_indentedMembers (level : Nat) (e : String × Json) (rest : List (String × Json)) :
    (indentedMembers level (e :: rest)).toList =
      ',' :: ((newLine level).toList ++ membersText level (e :: rest)) := by
  simp [indentedMembers, membersText]

/-- Members start with the quote of the first key. -/
theorem exists_membersText (level : Nat) (e : String × Json) (rest : List (String × Json)) :
    ∃ s, membersText level (e :: rest) = '"' :: s := by
  rw [membersText, toList_writeText]
  exact ⟨_, rfl⟩

theorem toList_indentedAt_arr (level : Nat) (v : Json) (rest : List Json) :
    (indentedAt level (.arr (v :: rest))).toList =
      '[' :: ((newLine (level + 1)).toList ++
        (itemsText (level + 1) (v :: rest) ++ ((newLine level).toList ++ [']']))) := by
  simp [indentedAt, itemsText]

theorem toList_indentedAt_obj (level : Nat) (e : String × Json) (rest : List (String × Json)) :
    (indentedAt level (.obj (e :: rest))).toList =
      '\x7b' :: ((newLine (level + 1)).toList ++
        (membersText (level + 1) (e :: rest) ++ ((newLine level).toList ++ ['}']))) := by
  simp [indentedAt, membersText]

theorem endsNumber_cons {c : Char} (ends : c.isDigit = false ∧ c ≠ '.' ∧ c ≠ 'e' ∧ c ≠ 'E')
    (rest : List Char) : EndsNumber (c :: rest) := by
  intro d mem
  obtain rfl := Option.some.inj mem
  exact ends

theorem endsNumber_newLine (level : Nat) (rest : List Char) :
    EndsNumber ((newLine level).toList ++ rest) := by
  rw [newLine, String.toList_ofList, List.cons_append]
  exact endsNumber_cons (by decide) _

/-- The text of a value is read as the value, with what follows it left over. -/
def ReadsBack (v : Json) : Prop :=
  ∀ (level n : Nat) (tail : List Char), EndsNumber tail →
    (indentedAt level v).toList.length ≤ n →
    value n ((indentedAt level v).toList ++ tail) = .ok (v, tail)

/-- The text of items is read as the items, up to the end of their array. -/
theorem items_itemsText {vs : List Json} (some : vs ≠ []) (reads : ∀ v ∈ vs, ReadsBack v)
    (level outer : Nat) (tail : List Char) {n : Nat} (fuel : (itemsText level vs).length < n) :
    items n (itemsText level vs ++ ((newLine outer).toList ++ ']' :: tail)) = .ok (vs, tail) := by
  induction vs generalizing n with
  | nil => exact absurd rfl some
  | cons v rest ih =>
    obtain ⟨first, later⟩ := List.forall_mem_cons.mp reads
    cases n with
    | zero => cases fuel
    | succ n =>
      rw [itemsText, List.length_append] at fuel
      rw [itemsText, List.append_assoc]
      cases rest with
      | nil =>
        rw [indentedItems, String.toList_empty, List.nil_append]
        apply items_singleton (first level n _ (endsNumber_newLine outer _) (by omega))
        rw [skipSpace_newLine, skipSpace_cons rfl]
      | cons w rest =>
        have next := ih (by simp) later (n := n) (by
          simp [toList_indentedItems] at fuel
          omega)
        rw [toList_indentedItems, List.cons_append, List.append_assoc]
        apply items_cons (first level n _ (endsNumber_cons (by decide) _) (by omega))
          (skipSpace_cons rfl _)
        obtain ⟨_, _, start⟩ := head_of_items next
        rw [skipSpace_newLine, skipSpace_of_value start, next]

theorem value_space {n : Nat} {s rest : List Char} {v : Json} (read : value n s = .ok (v, rest)) :
    value n (skipSpace (' ' :: s)) = .ok (v, rest) := by
  have skipped : skipSpace (' ' :: s) = skipSpace s := rfl
  rw [skipped, skipSpace_of_value read, read]

/-- The text of members is read as the members, up to the end of their object. -/
theorem members_membersText {ms : List (String × Json)} (some : ms ≠ [])
    (reads : ∀ e ∈ ms, ReadsBack e.2) (level outer : Nat) (tail : List Char) {n : Nat}
    (fuel : (membersText level ms).length < n) :
    members n (membersText level ms ++ ((newLine outer).toList ++ '}' :: tail)) =
      .ok (ms, tail) := by
  induction ms generalizing n with
  | nil => exact absurd rfl some
  | cons e rest ih =>
    obtain ⟨k, v⟩ := e
    obtain ⟨first, later⟩ := List.forall_mem_cons.mp reads
    dsimp only at first
    cases n with
    | zero => cases fuel
    | succ n =>
      have enough : (indentedAt level v).toList.length ≤ n := by
        simp [membersText] at fuel
        omega
      simp only [membersText, toList_writeText, List.cons_append, List.append_assoc, List.nil_append]
      cases rest with
      | nil =>
        rw [indentedMembers, String.toList_empty, List.nil_append]
        apply members_singleton (textTail_writeText _ k _) (skipSpace_cons rfl _)
        · exact value_space (first level n _ (endsNumber_newLine outer _) enough)
        · rw [skipSpace_newLine, skipSpace_cons rfl]
      | cons e rest =>
        have next := ih (by simp) later (n := n) (by
          simp [membersText, toList_indentedMembers] at fuel ⊢
          omega)
        rw [toList_indentedMembers, List.cons_append, List.append_assoc]
        apply members_cons (textTail_writeText _ k _) (skipSpace_cons rfl _)
        · exact value_space (first level n _ (endsNumber_cons (by decide) _) enough)
        · exact skipSpace_cons rfl _
        · obtain ⟨s, start⟩ := exists_membersText level e rest
          rw [start, List.cons_append] at next ⊢
          rw [skipSpace_newLine, skipSpace_cons rfl, next]

theorem readsBack_of_scalar {v : Json} (shape : ∀ level, indentedAt level v = writeScalar v)
    (read : ∀ n tail, EndsNumber tail →
      value (n + 1) ((writeScalar v).toList ++ tail) = .ok (v, tail)) : ReadsBack v := by
  intro level n tail ends fuel
  rw [shape] at fuel ⊢
  cases n with
  | zero =>
    -- no value is read from nothing
    have none := read 0 [] (fun _ mem => by cases mem)
    rw [List.eq_nil_of_length_eq_zero (by omega : (writeScalar v).toList.length = 0)] at none
    cases none
  | succ n => exact read n tail ends

theorem readsBack_arr {items : List Json} (reads : ∀ v ∈ items, ReadsBack v) :
    ReadsBack (.arr items) := by
  intro level n tail ends fuel
  cases items with
  | nil =>
    cases n with
    | zero => simp [indentedAt] at fuel
    | succ n => simp only [indentedAt]; rfl
  | cons v rest =>
    rw [toList_indentedAt_arr] at fuel ⊢
    cases n with
    | zero => cases fuel
    | succ n =>
      have read := items_itemsText (List.cons_ne_nil v rest) reads (level + 1) level tail
        (n := n) (by
          simp at fuel
          omega)
      simp only [List.cons_append, List.append_assoc, List.nil_append]
      apply value_array
      -- the line end before the first item is skipped, and no more
      obtain ⟨_, _, start⟩ := head_of_items read
      rw [skipSpace_newLine, skipSpace_of_value start, read]

/-- An object is built from its members anew, so its keys have to be distinct. -/
theorem readsBack_obj {ms : Members} (distinct : ms.keys.Nodup)
    (reads : ∀ e ∈ ms, ReadsBack e.2) : ReadsBack (.obj ms) := by
  intro level n tail ends fuel
  cases ms with
  | nil =>
    cases n with
    | zero => simp [indentedAt] at fuel
    | succ n => simp only [indentedAt]; rfl
  | cons e rest =>
    rw [toList_indentedAt_obj] at fuel ⊢
    cases n with
    | zero => cases fuel
    | succ n =>
      have read := members_membersText (List.cons_ne_nil e rest) reads (level + 1) level tail
        (n := n) (by
          simp at fuel
          omega)
      have kept : Entries.ofList (e :: rest) = e :: rest := Entries.ofList_eq_self distinct
      obtain ⟨s, start⟩ := exists_membersText (level + 1) e rest
      simp only [List.cons_append, List.append_assoc, List.nil_append]
      rw [start, List.cons_append] at read ⊢
      rw [← kept]
      exact value_object (by rw [skipSpace_newLine, skipSpace_cons rfl]) read

theorem readsBack {v : Json} (readable : Readable v) : ReadsBack v := by
  induction v with
  | null => exact readsBack_of_scalar (fun _ => by simp [indentedAt]) fun n tail _ => rfl
  | bool b =>
    refine readsBack_of_scalar (fun _ => by simp [indentedAt]) fun n tail _ => ?_
    cases b <;> rfl
  | int i =>
    exact readsBack_of_scalar (fun _ => by simp [indentedAt]) fun n tail ends =>
      value_of_scalar (scalar_integerText readable.self ends) n
  | float x =>
    exact readsBack_of_scalar (fun _ => by simp [indentedAt]) fun n tail ends =>
      value_of_scalar (scalar_render readable.self ends) n
  | str s =>
    refine readsBack_of_scalar (fun _ => by simp [indentedAt]) fun n tail _ => ?_
    simp only [writeScalar, toList_writeText, List.cons_append, List.append_assoc, List.nil_append]
    rw [value, textTail_writeText]
    rfl
  | arr items ih =>
    obtain ⟨-, each⟩ := everywhere_arr_iff.mp readable
    exact readsBack_arr fun v mem => ih v mem (each v mem)
  | obj ms ih =>
    obtain ⟨distinct, each⟩ := everywhere_obj_iff.mp readable
    exact readsBack_obj distinct fun e mem => ih e mem (each e mem)

/-- After the value of a document there is nothing but space. -/
theorem document_of_value {s rest : List Char} {v : Json}
    (read : value (2 * s.length + 1) s = .ok (v, rest)) :
    document s = if skipSpace rest = [] then .ok v
      else .error (.malformed .extraData (skipSpace rest)) := by
  obtain ⟨c, tail, start, -, -, notMark⟩ := head_of_value read
  have unmarked : ∀ rest, s = '\uFEFF' :: rest → False := by
    rintro rest rfl
    exact notMark (List.cons.inj start).1.symm
  have skipped := skipSpace_of_value read
  simp only [document, skipped, read]
  cases skipSpace rest <;> rfl

/-- A number with a hyphen after it, as at the start of a date, is no document. -/
theorem document_date_ne_ok {n : Nat} (short : (decimalDigits n).length ≤ digitLimit)
    (rest : List Char) (v : Json) : document (decimalDigits n ++ '-' :: rest) ≠ .ok v := by
  have number := scalar_of_unsigned (unsigned_natural short) false
    (endsNumber_cons (c := '-') (by decide) rest)
  rw [if_neg (by decide)] at number
  rw [document_of_value (value_of_scalar number _), skipSpace_cons rfl, if_neg (by simp)]
  nofun

end Reader

theorem document_of_read {text : String} {v : Json} (found : read text = .ok v) :
    Reader.document text.toList = .ok v := by
  unfold read at found
  split at found
  · rename_i whole
    rw [whole, Except.ok.inj found]
  · cases found

open Reader in
/-- The indented text of a value is a document that stands for it, also with a line feed at its
end. -/
theorem read_indented {v : Json} (readable : Readable v) : read (v.indented ++ "\n") = .ok v := by
  have whole : (v.indented ++ "\n").toList = (indentedAt 0 v).toList ++ ['\n'] := by
    rw [String.toList_append]
    rfl
  have value := readsBack readable 0 (2 * (v.indented ++ "\n").toList.length + 1) ['\n']
    (endsNumber_cons (by decide) []) (by rw [whole, List.length_append]; omega)
  rw [← whole] at value
  rw [read, document_of_value value]
  rfl

end SearchDesk.Json
