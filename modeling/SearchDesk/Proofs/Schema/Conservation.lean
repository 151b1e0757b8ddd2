import SearchDesk.Proofs.Schema.Groups
import SearchDesk.Proofs.Schema.Reading

/-!
# What the counts of a detection add up to

The walk over a sample counts every document once for its kind, and every field of a document
once for the whole sample and once for the kind. `Conserved` says what follows for a report:

* its records are accepted when they are made, and no share is one of zero documents;
* kinds, and the names in each list of fields, are listed once;
* the documents of the groups are all documents of the sample;
* a count is at least one and at most the number that it is divided by (`IsShare`);
* the counts of a name in the groups add up to its count in the whole sample.

The counts are those that the walk keeps (`Walk.count`, `Walk.countOfKind`). Each of them is the
number of documents that have the name (`countIn_foldl_addDocument`), and documents are counted
kind by kind without repetition (`Buckets.sum_countP`).
-/

namespace SearchDesk.Schema

/-! ## Counts of a walk -/

/-- How often a name was counted. -/
def Tally.countIn (name : String) (seen : List Tally) : Nat :=
  ((seen.find? fun t => t.name = name).map Tally.count).getD 0

namespace Walk

/-- The walk over a whole sample. -/
def ofSample (rules : Rules) (sample : List Json) : Walk := sample.foldl (Walk.step rules) {}

/-- How often a name was counted in the whole sample. -/
def count (w : Walk) (name : String) : Nat := Tally.countIn name w.overall

/-- How often a name was counted in the documents of a kind. -/
def countOfKind (w : Walk) (kind name : String) : Nat :=
  ((w.kinds.find? fun k => k.kindName = kind).map fun k => Tally.countIn name k.seen).getD 0

end Walk

/-- The count is behind the frequency: some of `size` documents and not more than there are. -/
structure IsShare (count size : Nat) (frequency : Binary64) : Prop where
  quotient : frequency = Binary64.ofRatio false count size
  positive : 1 ≤ count
  atMost : count ≤ size

/-- The counts of a report are those of its sample. -/
structure Conserved (rules : Rules) (sample : List Json) (r : Report) : Prop where
  accepted : Report.ofMembers r.parameters = .valid r
  kindsDistinct : (r.groups.map Group.kindName).Nodup
  docCountPositive : ∀ g ∈ r.groups, 1 ≤ g.docCount
  docCountsAddUp : (r.groups.map Group.docCount).sum = (documents sample).length
  documentsAtMost : (documents sample).length ≤ r.sampleCount
  namesDistinct : (r.fields.map Field.name).Nodup
  groupNamesDistinct : ∀ g ∈ r.groups, (g.fields.map Field.name).Nodup
  shares : ∀ f ∈ r.fields,
    IsShare ((Walk.ofSample rules sample).count f.name) r.sampleCount f.frequency
  groupShares : ∀ g ∈ r.groups, ∀ f ∈ g.fields,
    IsShare ((Walk.ofSample rules sample).countOfKind g.kindName f.name) g.docCount f.frequency
  countsAddUp : ∀ name, (Walk.ofSample rules sample).count name =
    (r.groups.map fun g => (Walk.ofSample rules sample).countOfKind g.kindName name).sum
  namesInGroups : ∀ name, name ∈ r.fields.map Field.name ↔
    ∃ g ∈ r.groups, name ∈ g.fields.map Field.name

/-! ## Counts are numbers of documents -/

/-- How many documents have a name that is counted. -/
def countedHolders (rules : Rules) (docs : List Members) (name : String) : Nat :=
  if Counted rules name then holders docs name else 0

theorem holders_eq_zero_of_not_mem {docs : List Members} {name : String}
    (absent : name ∉ namesOf docs) : holders docs name = 0 := by
  rw [holders, List.countP_eq_zero]
  intro doc here has
  exact absent (mem_namesOf.mpr ⟨doc, here, has⟩)

/-- The tally of a name counts the documents that have it. -/
theorem countIn_foldl_addDocument (rules : Rules) (name : String) {docs : List Members}
    (distinct : ∀ doc ∈ docs, doc.keys.Nodup) :
    Tally.countIn name (docs.foldl (Tally.addDocument rules) []) =
      countedHolders rules docs name := by
  rw [Tally.countIn, Tally.foldl_addDocument rules distinct,
    Buckets.find?_map Tally.name (fun n => Tally.ofValues_name n _), countedHolders]
  by_cases tallied : name ∈ (namesOf docs).filter fun n => !rules.excludes n
  · have counted : Counted rules name := by
      rw [← excludes_eq_false_iff]
      simpa using (List.mem_filter.mp tallied).2
    rw [if_pos tallied, if_pos counted]
    exact length_valuesOf name docs
  · rw [if_neg tallied]
    by_cases counted : Counted rules name
    · have absent : name ∉ namesOf docs := by
        intro seen
        refine tallied (List.mem_filter.mpr ⟨seen, ?_⟩)
        rw [excludes_eq_false_iff.mpr counted]
        rfl
      rw [if_pos counted, holders_eq_zero_of_not_mem absent]
      rfl
    · rw [if_neg counted]
      rfl

theorem Walk.count_ofSample (rules : Rules) (name : String) {sample : List Json}
    (distinct : ∀ doc ∈ documents sample, doc.keys.Nodup) :
    (Walk.ofSample rules sample).count name = countedHolders rules (documents sample) name := by
  rw [Walk.count, Walk.ofSample, overall_foldl_step]
  exact countIn_foldl_addDocument rules name distinct

/-- The documents of a kind. -/
def docsOfKind (rules : Rules) (kind : String) (docs : List Members) : List Members :=
  docs.filter fun doc => rules.kindOf doc = kind

theorem mem_docsOfKind {rules : Rules} {kind : String} {docs : List Members} {doc : Members} :
    doc ∈ docsOfKind rules kind docs ↔ doc ∈ docs ∧ rules.kindOf doc = kind := by
  rw [docsOfKind, List.mem_filter, decide_eq_true_eq]

theorem documents_ofKind (rules : Rules) (kind : String) (sample : List Json) :
    documents (ofKind rules kind sample) = docsOfKind rules kind (documents sample) := by
  rw [ofKind_eq_map, documents_map_obj]
  rfl

theorem length_ofKind (rules : Rules) (kind : String) (sample : List Json) :
    (ofKind rules kind sample).length = (docsOfKind rules kind (documents sample)).length := by
  rw [ofKind_eq_map, List.length_map]
  rfl

/-- The documents of a kind repeat no keys if no document does. -/
theorem nodup_keys_ofKind {rules : Rules} {kind : String} {sample : List Json}
    (distinct : ∀ doc ∈ documents sample, doc.keys.Nodup) :
    ∀ doc ∈ documents (ofKind rules kind sample), doc.keys.Nodup := by
  intro doc here
  rw [documents_ofKind] at here
  exact distinct doc (mem_docsOfKind.mp here).1

theorem Walk.countOfKind_ofSample (rules : Rules) (kind name : String) {sample : List Json}
    (distinct : ∀ doc ∈ documents sample, doc.keys.Nodup) :
    (Walk.ofSample rules sample).countOfKind kind name =
      countedHolders rules (docsOfKind rules kind (documents sample)) name := by
  have kinds : (Walk.ofSample rules sample).kinds =
      (kindsOf rules (documents sample)).map fun kind =>
        KindTally.ofDocuments rules kind (docsOfKind rules kind (documents sample)) := by
    rw [Walk.ofSample, kinds_foldl_step]
    exact KindTally.foldl_add rules (documents sample)
  rw [Walk.countOfKind, kinds,
    Buckets.find?_map KindTally.kindName (fun k => KindTally.ofDocuments_kindName rules k _)]
  by_cases met : kind ∈ kindsOf rules (documents sample)
  · rw [if_pos met]
    refine countIn_foldl_addDocument rules name fun doc here => ?_
    exact distinct doc (mem_docsOfKind.mp here).1
  · -- a kind that no document has counts nothing
    have none : docsOfKind rules kind (documents sample) = [] := by
      rw [List.eq_nil_iff_forall_not_mem]
      intro doc here
      obtain ⟨inside, same⟩ := mem_docsOfKind.mp here
      exact met (mem_kindsOf.mpr ⟨doc, inside, same⟩)
    rw [if_neg met, none, countedHolders]
    split <;> rfl

/-! ## Shares -/

theorem length_documents_le (sample : List Json) :
    (documents sample).length ≤ sample.length := List.length_filterMap_le _ _

theorem detect_fields_eq_map (rules : Rules) {sample : List Json}
    (distinct : ∀ doc ∈ documents sample, doc.keys.Nodup) :
    (detect rules sample).fields =
      (fieldNames rules (documents sample)).map (fieldOf (documents sample) sample.length) := by
  rw [detect_fields_of_documents, summarize_foldl_addDocument rules _ distinct]

theorem map_name_detect (rules : Rules) {sample : List Json}
    (distinct : ∀ doc ∈ documents sample, doc.keys.Nodup) :
    (detect rules sample).fields.map Field.name = fieldNames rules (documents sample) := by
  rw [detect_fields_eq_map rules distinct, List.map_map]
  exact List.map_id _

theorem sampleCount_detect (rules : Rules) (sample : List Json) :
    (detect rules sample).sampleCount = sample.length := by
  by_cases nonempty : sample = []
  · subst nonempty
    rfl
  · rw [detect_of_nonempty rules nonempty]
    rfl

theorem status_detect (rules : Rules) (sample : List Json) :
    (detect rules sample).status = if sample.length = 0 then .noDocuments else .ok := by
  by_cases empty : sample.length = 0
  · rw [if_pos empty, List.length_eq_zero_iff.mp empty]
    rfl
  · rw [if_neg empty, detect_of_nonempty rules (mt List.length_eq_zero_iff.mpr empty)]
    rfl

theorem isShare_of_mem_detect {rules : Rules} {sample : List Json}
    (distinct : ∀ doc ∈ documents sample, doc.keys.Nodup) {f : Field}
    (here : f ∈ (detect rules sample).fields) :
    IsShare (countedHolders rules (documents sample) f.name) sample.length f.frequency := by
  rw [detect_fields_eq_map rules distinct] at here
  obtain ⟨name, listed, rfl⟩ := List.mem_map.mp here
  obtain ⟨counted, doc, inside, has⟩ := mem_fieldNames.mp listed
  have count : countedHolders rules (documents sample) name = holders (documents sample) name :=
    if_pos counted
  show IsShare (countedHolders rules (documents sample) name) _ _
  rw [count]
  refine ⟨rfl, ?_, ?_⟩
  · exact List.countP_pos_iff.mpr ⟨doc, inside, has⟩
  · exact Nat.le_trans List.countP_le_length (length_documents_le sample)

/-- The groups of a report are detections in the documents of their kinds. -/
theorem exists_kind_of_mem_groups {rules : Rules} {sample : List Json} {g : Group}
    (here : g ∈ (detect rules sample).groups) :
    ∃ kind ∈ kindsOf rules (documents sample),
      g = groupAlone rules kind (ofKind rules kind sample) := by
  rw [detect_groups] at here
  obtain ⟨kind, met, rfl⟩ := List.mem_map.mp here
  exact ⟨kind, met, rfl⟩

theorem Report.sound_detect {rules : Rules} {sample : List Json}
    (distinct : ∀ doc ∈ documents sample, doc.keys.Nodup) : (detect rules sample).Sound := by
  constructor
  · intro g inGroups f inFields
    obtain ⟨kind, -, rfl⟩ := exists_kind_of_mem_groups inGroups
    obtain ⟨quotient, -, atMost⟩ := isShare_of_mem_detect (nodup_keys_ofKind distinct) inFields
    rw [quotient]
    exact Binary64.ofRatio_inUnit atMost
  · intro f inFields
    obtain ⟨quotient, -, atMost⟩ := isShare_of_mem_detect distinct inFields
    rw [quotient]
    exact Binary64.ofRatio_inUnit atMost

/-! ## Sums over the groups -/

/-- What is counted kind by kind is counted once. -/
theorem sum_docsOfKind (rules : Rules) (p : Members → Bool) (docs : List Members) :
    ((kindsOf rules docs).map fun kind => (docsOfKind rules kind docs).countP p).sum =
      docs.countP p := by
  refine Buckets.sum_countP rules.kindOf p (Order.nodup_eraseDups _) fun doc here => ?_
  exact mem_kindsOf.mpr ⟨doc, here, rfl⟩

theorem sum_countedHolders (rules : Rules) (name : String) (docs : List Members) :
    ((kindsOf rules docs).map fun kind =>
      countedHolders rules (docsOfKind rules kind docs) name).sum =
        countedHolders rules docs name := by
  unfold countedHolders
  by_cases counted : Counted rules name
  · simp only [if_pos counted]
    exact sum_docsOfKind rules _ docs
  · simp [if_neg counted]

theorem sum_docCount (rules : Rules) (sample : List Json) :
    ((detect rules sample).groups.map Group.docCount).sum = (documents sample).length := by
  have all := sum_docsOfKind rules (fun _ => true) (documents sample)
  simp only [List.countP_true] at all
  rw [detect_groups, List.map_map, ← all]
  refine congrArg List.sum (List.map_congr_left fun kind _ => ?_)
  exact length_ofKind rules kind sample

theorem sum_countOfKind {rules : Rules} (name : String) {sample : List Json}
    (distinct : ∀ doc ∈ documents sample, doc.keys.Nodup) :
    ((detect rules sample).groups.map fun g =>
      (Walk.ofSample rules sample).countOfKind g.kindName name).sum =
        (Walk.ofSample rules sample).count name := by
  rw [Walk.count_ofSample rules name distinct, ← sum_countedHolders, detect_groups, List.map_map]
  refine congrArg List.sum (List.map_congr_left fun kind _ => ?_)
  exact Walk.countOfKind_ofSample rules kind name distinct

/-- A name is listed if and only if the group of some kind lists it. -/
theorem mem_names_iff_mem_groups {rules : Rules} (name : String) {sample : List Json}
    (distinct : ∀ doc ∈ documents sample, doc.keys.Nodup) :
    name ∈ (detect rules sample).fields.map Field.name ↔
      ∃ g ∈ (detect rules sample).groups, name ∈ g.fields.map Field.name := by
  have inGroup : ∀ kind, name ∈ (groupAlone rules kind (ofKind rules kind sample)).fields.map
      Field.name ↔ Counted rules name ∧
        ∃ doc ∈ docsOfKind rules kind (documents sample), doc.has name = true := by
    intro kind
    rw [groupAlone, map_name_detect rules (nodup_keys_ofKind distinct), mem_fieldNames,
      documents_ofKind]
  rw [map_name_detect rules distinct, mem_fieldNames]
  constructor
  · rintro ⟨counted, doc, inside, has⟩
    refine ⟨groupAlone rules (rules.kindOf doc) (ofKind rules (rules.kindOf doc) sample), ?_, ?_⟩
    · rw [detect_groups]
      exact List.mem_map.mpr ⟨_, mem_kindsOf.mpr ⟨doc, inside, rfl⟩, rfl⟩
    · exact (inGroup _).mpr ⟨counted, doc, mem_docsOfKind.mpr ⟨inside, rfl⟩, has⟩
  · rintro ⟨g, here, listed⟩
    obtain ⟨kind, -, rfl⟩ := exists_kind_of_mem_groups here
    obtain ⟨counted, doc, inKind, has⟩ := (inGroup kind).mp listed
    exact ⟨counted, doc, (mem_docsOfKind.mp inKind).1, has⟩

/-! ## The report as a whole -/

/-- **Conservation.** A detection accepts the records that it makes, divides by no zero, and
its counts add up, document by document, kind by kind and name by name. -/
theorem conserved_detect {rules : Rules} {sample : List Json}
    (distinct : ∀ doc ∈ documents sample, doc.keys.Nodup) :
    Conserved rules sample (detect rules sample) where
  accepted := Report.ofMembers_parameters (Report.sound_detect distinct)
  kindsDistinct := by
    rw [map_kindName_detect]
    exact Order.nodup_eraseDups _
  docCountPositive := by
    intro g here
    obtain ⟨kind, met, rfl⟩ := exists_kind_of_mem_groups here
    show 1 ≤ (ofKind rules kind sample).length
    exact List.length_pos_iff.mpr fun none => ofKind_eq_nil_iff.mp none met
  docCountsAddUp := sum_docCount rules sample
  documentsAtMost := by
    rw [sampleCount_detect]
    exact length_documents_le sample
  namesDistinct := by
    rw [map_name_detect rules distinct]
    exact nodup_fieldNames _ _
  groupNamesDistinct := by
    intro g here
    obtain ⟨kind, -, rfl⟩ := exists_kind_of_mem_groups here
    show ((detect rules (ofKind rules kind sample)).fields.map Field.name).Nodup
    rw [map_name_detect rules (nodup_keys_ofKind distinct)]
    exact nodup_fieldNames _ _
  shares := by
    intro f here
    rw [Walk.count_ofSample rules f.name distinct, sampleCount_detect]
    exact isShare_of_mem_detect distinct here
  groupShares := by
    intro g inGroups f inFields
    obtain ⟨kind, -, rfl⟩ := exists_kind_of_mem_groups inGroups
    show IsShare ((Walk.ofSample rules sample).countOfKind kind f.name) _ _
    rw [Walk.countOfKind_ofSample rules kind f.name distinct, ← documents_ofKind]
    exact isShare_of_mem_detect (nodup_keys_ofKind distinct) inFields
  countsAddUp name := (sum_countOfKind name distinct).symm
  namesInGroups name := mem_names_iff_mem_groups name distinct

/-- Two kinds of document share a name, and one entry is no document. -/
def twoKinds : List Json :=
  [.obj [("_type", .str "item"), ("a", .int 1)], .null,
    .obj [("_type", .str "user"), ("a", .null), ("b", .int 2)],
    .obj [("_type", .str "item"), ("b", .int 3)]]

/-- The name `a` is counted once for each of the two kinds. -/
theorem conserved_detect_twoKinds :
    (∀ doc ∈ documents twoKinds, doc.keys.Nodup) ∧ Conserved {} twoKinds (detect {} twoKinds) ∧
      (Walk.ofSample {} twoKinds).count "a" = 2 := by
  have distinct : ∀ doc ∈ documents twoKinds, doc.keys.Nodup := by decide
  exact ⟨distinct, conserved_detect distinct, by decide⟩

end SearchDesk.Schema
