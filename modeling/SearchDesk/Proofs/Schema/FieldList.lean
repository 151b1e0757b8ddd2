import Mathlib.Data.Prod.Basic
import SearchDesk.Json.Equality
import SearchDesk.Proofs.Schema.Tally

/-!
# The field list of a detection

What the fields of a detection report are, said of the sample and not of the walk over it.
`FieldList` names the four things that fix the list:

* a name is listed at most once;
* a name is listed if it is counted and some document has it;
* a listed field is `fieldOf` its name, which reads the documents that have it;
* fields are listed by falling count, then by the first document that has them, then by
  their place in that document (`Before`).

`detect_fields_iff` says that the list of a report is this list and no other. The walk is
replaced by its tallies (`foldl_addDocument`), which turns the fields into a sorted list of
names; the order comes from the first-seen order of the names and a stable sort.
-/

namespace SearchDesk.Schema

/-! ## The list from the sample -/

/-- The documents of a sample. -/
def documents (sample : List Json) : List Members :=
  sample.filterMap fun
    | .obj doc => some doc
    | _ => none

/-- A name that is neither internal nor reserved. -/
def Counted (rules : Rules) (name : String) : Prop :=
  ¬rules.internalStart.toList <+: name.toList ∧ name ∉ rules.reserved

instance (rules : Rules) (name : String) : Decidable (Counted rules name) :=
  inferInstanceAs (Decidable (_ ∧ _))

/-- How many documents have a name. -/
def holders (docs : List Members) (name : String) : Nat := docs.countP fun doc => doc.has name

/-- The field of a name: the kind of its first value, the first value that is not null, and
the share of the documents that have it in a sample of the given size. -/
def fieldOf (docs : List Members) (size : Nat) (name : String) : Field :=
  let kind := classify ((valuesOf name docs).head?.getD .null)
  let exampleValue := ((valuesOf name docs).find? fun v => !v.isNull).getD .null
  { name := name
    kind := kind
    exampleValue := exampleValue
    frequency := Binary64.ofRatio false (holders docs name) size
    sampleCount := size
    suggestions := suggest kind exampleValue }

/-- The first document that has a name, and the place of the name in it. -/
def firstPlace (docs : List Members) (name : String) : Nat × Nat :=
  (docs.findIdx fun doc => doc.has name,
    (((docs.find? fun doc => doc.has name).getD []).keys).idxOf name)

/-- Document by document, and inside a document place by place. -/
def Earlier : Nat × Nat → Nat × Nat → Prop := Prod.Lex (· < ·) (· < ·)

/-- More documents have the first name, or as many and it is seen earlier. -/
def Before (docs : List Members) (a b : String) : Prop :=
  holders docs b < holders docs a ∨
    holders docs a = holders docs b ∧ Earlier (firstPlace docs a) (firstPlace docs b)

instance (docs : List Members) (a b : String) : Decidable (Before docs a b) :=
  inferInstanceAs (Decidable (_ ∨ _ ∧ Prod.Lex _ _ _ _))

/-- The fields of a sample. -/
structure FieldList (rules : Rules) (sample : List Json) (fields : List Field) : Prop where
  distinct : (fields.map Field.name).Nodup
  listed : ∀ name, name ∈ fields.map Field.name ↔
    Counted rules name ∧ ∃ doc ∈ documents sample, doc.has name = true
  described : ∀ field ∈ fields,
    field = fieldOf (documents sample) sample.length field.name
  ordered : (fields.map Field.name).Pairwise (Before (documents sample))

/-! ## Names and their order -/

theorem excludes_eq_false_iff {rules : Rules} {name : String} :
    rules.excludes name = false ↔ Counted rules name := by
  rw [Rules.excludes, Counted, Bool.or_eq_false_iff, ← Bool.not_eq_true, ← Bool.not_eq_true,
    List.isPrefixOf_iff_prefix, List.contains_iff_mem]

theorem has_iff_mem_keys {doc : Members} {name : String} :
    doc.has name = true ↔ name ∈ doc.keys := by
  simp [Entries.has, Entries.keys]

theorem mem_namesOf {docs : List Members} {name : String} :
    name ∈ namesOf docs ↔ ∃ doc ∈ docs, doc.has name = true := by
  simp only [namesOf, List.mem_eraseDups, List.mem_flatMap, has_iff_mem_keys]

theorem firstPlace_cons_of_has {doc : Members} {name : String} (has : doc.has name = true)
    (rest : List Members) : firstPlace (doc :: rest) name = (0, doc.keys.idxOf name) := by
  simp [firstPlace, List.findIdx_cons, has]

theorem firstPlace_cons_of_not_has {doc : Members} {name : String} (has : ¬doc.has name = true)
    (rest : List Members) :
    firstPlace (doc :: rest) name = ((firstPlace rest name).1 + 1, (firstPlace rest name).2) := by
  simp [firstPlace, List.findIdx_cons, has]

theorem earlier_of_idxOf_lt {docs : List Members} {a b : String}
    (less : (docs.flatMap Entries.keys).idxOf a < (docs.flatMap Entries.keys).idxOf b) :
    Earlier (firstPlace docs a) (firstPlace docs b) := by
  induction docs with
  | nil => exact absurd less (Nat.lt_irrefl 0)
  | cons doc rest ih =>
    rw [List.flatMap_cons] at less
    by_cases hasA : doc.has a = true <;> by_cases hasB : doc.has b = true
    · rw [List.idxOf_append_of_mem (has_iff_mem_keys.mp hasA),
        List.idxOf_append_of_mem (has_iff_mem_keys.mp hasB)] at less
      rw [firstPlace_cons_of_has hasA, firstPlace_cons_of_has hasB]
      exact .right 0 less
    · rw [firstPlace_cons_of_has hasA, firstPlace_cons_of_not_has hasB]
      exact .left _ _ (Nat.succ_pos _)
    · -- `b` is in the document and `a` is not, so `b` is seen first
      have insideB := List.idxOf_lt_length_of_mem (has_iff_mem_keys.mp hasB)
      rw [List.idxOf_append_of_notMem (mt has_iff_mem_keys.mpr hasA),
        List.idxOf_append_of_mem (has_iff_mem_keys.mp hasB)] at less
      omega
    · rw [List.idxOf_append_of_notMem (mt has_iff_mem_keys.mpr hasA),
        List.idxOf_append_of_notMem (mt has_iff_mem_keys.mpr hasB)] at less
      rw [firstPlace_cons_of_not_has hasA, firstPlace_cons_of_not_has hasB]
      rcases Prod.lex_def.mp (ih (Nat.lt_of_add_lt_add_left less)) with document | ⟨same, place⟩
      · exact .left _ _ (Nat.succ_lt_succ document)
      · rw [same]
        exact .right _ place

/-- Names are first seen document by document, and inside a document place by place. -/
theorem namesOf_pairwise (docs : List Members) :
    (namesOf docs).Pairwise fun a b => Earlier (firstPlace docs a) (firstPlace docs b) :=
  (Order.pairwise_eraseDups _).imp earlier_of_idxOf_lt

theorem Earlier.asymm {p q : Nat × Nat} (h : Earlier p q) : ¬Earlier q p :=
  Std.Asymm.asymm (r := Prod.Lex (· < ·) (· < ·)) p q h

theorem Before.asymm {docs : List Members} {a b : String} (h : Before docs a b) :
    ¬Before docs b a := by
  rintro (more' | ⟨same', earlier'⟩) <;> rcases h with more | ⟨same, earlier⟩
  · omega
  · omega
  · omega
  · exact earlier.asymm earlier'

/-- There is only one field list. -/
theorem FieldList.unique {rules : Rules} {sample : List Json} {fields fields' : List Field}
    (h : FieldList rules sample fields) (h' : FieldList rules sample fields') :
    fields = fields' := by
  have names : fields.map Field.name = fields'.map Field.name :=
    Order.eq_of_mem_iff_of_pairwise (fun _ _ => Before.asymm) h.distinct h'.distinct
      (fun name => (h.listed name).trans (h'.listed name).symm) h.ordered h'.ordered
  have rebuilt : ∀ {fs : List Field}, FieldList rules sample fs →
      fs = (fs.map Field.name).map (fieldOf (documents sample) sample.length) := by
    intro fs list
    rw [List.map_map]
    exact (List.map_id fs).symm.trans (List.map_congr_left list.described)
  rw [rebuilt h, rebuilt h', names]

/-! ## The fields of a walk -/

/-- The names of the fields of some documents, sorted by falling count. -/
def fieldNames (rules : Rules) (docs : List Members) : List String :=
  ((namesOf docs).filter fun n => !rules.excludes n).mergeSort fun a b =>
    holders docs b ≤ holders docs a

theorem mem_fieldNames {rules : Rules} {docs : List Members} {name : String} :
    name ∈ fieldNames rules docs ↔ Counted rules name ∧ ∃ doc ∈ docs, doc.has name = true := by
  rw [fieldNames, List.mem_mergeSort, List.mem_filter, mem_namesOf, Bool.not_eq_true',
    excludes_eq_false_iff, and_comm]

theorem nodup_fieldNames (rules : Rules) (docs : List Members) : (fieldNames rules docs).Nodup :=
  (List.mergeSort_perm _ _).nodup_iff.mpr ((Order.nodup_eraseDups _).filter _)

/-- The sort is stable, so names of equal count stay in the order in which they are seen. -/
theorem fieldNames_pairwise (rules : Rules) (docs : List Members) :
    (fieldNames rules docs).Pairwise (Before docs) := by
  have stable := Order.pairwise_mergeSort_stable
    (fun a b => decide (holders docs b ≤ holders docs a))
    (fun a b c => by simpa using fun ab bc => Nat.le_trans bc ab)
    (fun a b => by simpa using Nat.le_total (holders docs b) (holders docs a))
    ((namesOf_pairwise docs).filter fun n => !rules.excludes n)
  refine stable.imp fun {a b} h => ?_
  obtain ⟨notMore, tie⟩ := h
  rw [decide_eq_true_eq] at notMore
  rcases Nat.lt_or_eq_of_le notMore with more | same
  · exact .inl more
  · exact .inr ⟨same.symm, tie (by simp [same])⟩

theorem length_valuesOf (name : String) (docs : List Members) :
    (valuesOf name docs).length = holders docs name := by
  rw [valuesOf, List.length_filterMap_eq_countP, holders]
  simp only [Entries.has_iff_get?_isSome]

theorem toField_ofValues (docs : List Members) (size : Nat) (name : String) :
    (Tally.ofValues name (valuesOf name docs)).toField size = fieldOf docs size name := by
  rw [fieldOf, ← length_valuesOf]
  rfl

/-- Sorting the tallies is sorting the names. -/
theorem summarize_foldl_addDocument (rules : Rules) (size : Nat) {docs : List Members}
    (distinct : ∀ doc ∈ docs, doc.keys.Nodup) :
    Tally.summarize (docs.foldl (Tally.addDocument rules) []) size =
      (fieldNames rules docs).map (fieldOf docs size) := by
  rw [Tally.foldl_addDocument rules distinct, Tally.summarize, fieldNames,
    ← List.map_mergeSort (r := fun a b => decide (holders docs b ≤ holders docs a)), List.map_map]
  · exact List.map_congr_left fun name _ => toField_ofValues docs size name
  · intro a _ b _
    rw [← length_valuesOf, ← length_valuesOf]
    rfl

/-- The tallies of a walk are those of the documents; other entries leave them alone. -/
theorem overall_foldl_step (rules : Rules) (w : Walk) (sample : List Json) :
    (sample.foldl (Walk.step rules) w).overall =
      (documents sample).foldl (Tally.addDocument rules) w.overall := by
  induction sample generalizing w with
  | nil => rfl
  | cons v rest ih => cases v <;> exact ih _

theorem detect_of_nonempty (rules : Rules) {sample : List Json} (nonempty : sample ≠ []) :
    detect rules sample = (sample.foldl (Walk.step rules) {}).report sample.length := by
  rw [detect, detectNoted, if_neg (by simpa using nonempty)]

/-- The fields of a report come from the tallies of the documents. -/
theorem detect_fields_eq_summarize (rules : Rules) {sample : List Json} (nonempty : sample ≠ []) :
    (detect rules sample).fields =
      Tally.summarize ((documents sample).foldl (Tally.addDocument rules) []) sample.length := by
  rw [detect_of_nonempty rules nonempty, Walk.report, overall_foldl_step]

/-- An empty sample has no documents, and no fields either. -/
theorem detect_fields_of_documents (rules : Rules) (sample : List Json) :
    (detect rules sample).fields =
      Tally.summarize ((documents sample).foldl (Tally.addDocument rules) []) sample.length := by
  by_cases nonempty : sample = []
  · have none : Tally.summarize [] 0 = [] := by simp [Tally.summarize]
    subst nonempty
    exact none.symm
  · exact detect_fields_eq_summarize rules nonempty

theorem detect_fields {rules : Rules} {sample : List Json} (nonempty : sample ≠ [])
    (distinct : ∀ doc ∈ documents sample, doc.keys.Nodup) :
    (detect rules sample).fields =
      (fieldNames rules (documents sample)).map (fieldOf (documents sample) sample.length) := by
  rw [detect_fields_eq_summarize rules nonempty, summarize_foldl_addDocument rules _ distinct]

theorem fieldList_detect {rules : Rules} {sample : List Json} (nonempty : sample ≠ [])
    (distinct : ∀ doc ∈ documents sample, doc.keys.Nodup) :
    FieldList rules sample (detect rules sample).fields := by
  have names : (detect rules sample).fields.map Field.name =
      fieldNames rules (documents sample) := by
    rw [detect_fields nonempty distinct, List.map_map]
    exact List.map_id _
  refine ⟨?_, ?_, ?_, ?_⟩
  · rw [names]
    exact nodup_fieldNames _ _
  · intro name
    rw [names]
    exact mem_fieldNames
  · intro field here
    rw [detect_fields nonempty distinct] at here
    obtain ⟨name, -, rfl⟩ := List.mem_map.mp here
    rfl
  · rw [names]
    exact fieldNames_pairwise _ _

/-- **Field list.** The fields of the report of a sample are its field list and nothing else,
whatever nulls, entries that are no documents and left-out names come between. -/
theorem detect_fields_iff {rules : Rules} {sample : List Json} (nonempty : sample ≠ [])
    (distinct : ∀ doc ∈ documents sample, doc.keys.Nodup) (fields : List Field) :
    (detect rules sample).fields = fields ↔ FieldList rules sample fields := by
  constructor
  · rintro rfl
    exact fieldList_detect nonempty distinct
  · exact (fieldList_detect nonempty distinct).unique

/-- Two documents and an entry that is none; `a` and `b` are in both documents. -/
def mixedSample : List Json :=
  [.obj [("_id", .str "1"), ("b", .null), ("a", .bool true)],
    .str "no document",
    .obj [("c", .null), ("a", .null), ("b", .str "x")]]

/-- A field of the sample above. -/
def mixedField (name : String) (kind : Kind) (exampleValue : Json) (count : Nat)
    (suggestions : List StorageType) : Field :=
  ⟨name, kind, exampleValue, Binary64.ofRatio false count 3, 3, suggestions⟩

/-- The tie goes to `b`, which stands before `a` in the first document. -/
theorem detect_fields_iff_mixedSample :
    mixedSample ≠ [] ∧ (∀ doc ∈ documents mixedSample, doc.keys.Nodup) ∧
      (detect {} mixedSample).fields =
        [mixedField "b" .string (.str "x") 2 [.text],
          mixedField "a" .boolean (.bool true) 2 [],
          mixedField "c" .string .null 1 [.text]] := by
  have nonempty : mixedSample ≠ [] := by decide
  have distinct : ∀ doc ∈ documents mixedSample, doc.keys.Nodup := by decide
  refine ⟨nonempty, distinct, (detect_fields_iff nonempty distinct _).mpr ?_⟩
  refine ⟨by decide, fun name => ⟨?_, ?_⟩, by decide, by decide⟩
  · intro listed
    have all : ∀ n ∈ ["b", "a", "c"], Counted {} n ∧
        ∃ doc ∈ documents mixedSample, doc.has n = true := by decide
    exact all name listed
  · rintro ⟨counted, present⟩
    have all : ∀ n ∈ namesOf (documents mixedSample), Counted {} n → n ∈ ["b", "a", "c"] := by
      decide
    exact all name (mem_namesOf.mpr present) counted

end SearchDesk.Schema
