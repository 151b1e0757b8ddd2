import SearchDesk.Proofs.Buckets
import SearchDesk.Proofs.Schema.FieldList

/-!
# The groups of a detection

What the groups of a detection report are, said of the documents of each kind alone. One walk
counts all kinds at once, in whatever order their documents come. `GroupList` names the four
things that fix the result:

* a kind has at most one group;
* a kind has a group if some document is of that kind;
* the group of a kind is `groupAlone`, the detection in the documents of the kind (`ofKind`);
* groups stand in the order of the first documents of their kinds.

`detect_groups_iff` says that the groups of a report are this list and no other, and that the
group found for a kind is a function of `ofKind` alone. The tallies of the walk are buckets
(`KindTally.foldl_add`), so that documents of other kinds never come in.
-/

namespace SearchDesk.Schema

/-! ## The groups from the sample -/

/-- The documents of a kind in their order, as a sample of their own. -/
def ofKind (rules : Rules) (kind : String) (sample : List Json) : List Json :=
  sample.filter fun
    | .obj doc => rules.kindOf doc = kind
    | _ => false

/-- The group of a kind that a sample of its documents gives. -/
def groupAlone (rules : Rules) (kind : String) (sample : List Json) : Group where
  kindName := kind
  fields := (detect rules sample).fields
  docCount := sample.length

/-- The place of the first document of a kind. -/
def firstOfKind (rules : Rules) (docs : List Members) (kind : String) : Nat :=
  docs.findIdx fun doc => rules.kindOf doc = kind

/-- The groups of a sample. -/
structure GroupList (rules : Rules) (sample : List Json) (groups : List Group) : Prop where
  distinct : (groups.map Group.kindName).Nodup
  listed : ∀ kind, kind ∈ groups.map Group.kindName ↔
    ∃ doc ∈ documents sample, rules.kindOf doc = kind
  described : ∀ group ∈ groups,
    group = groupAlone rules group.kindName (ofKind rules group.kindName sample)
  ordered : (groups.map Group.kindName).Pairwise fun a b =>
    firstOfKind rules (documents sample) a < firstOfKind rules (documents sample) b

/-- There is only one group list. -/
theorem GroupList.unique {rules : Rules} {sample : List Json} {groups groups' : List Group}
    (h : GroupList rules sample groups) (h' : GroupList rules sample groups') :
    groups = groups' := by
  have kinds : groups.map Group.kindName = groups'.map Group.kindName :=
    Order.eq_of_mem_iff_of_pairwise (fun _ _ => Nat.lt_asymm) h.distinct h'.distinct
      (fun kind => (h.listed kind).trans (h'.listed kind).symm) h.ordered h'.ordered
  have rebuilt : ∀ {gs : List Group}, GroupList rules sample gs →
      gs = (gs.map Group.kindName).map fun kind =>
        groupAlone rules kind (ofKind rules kind sample) := by
    intro gs list
    rw [List.map_map]
    exact (List.map_id gs).symm.trans (List.map_congr_left list.described)
  rw [rebuilt h, rebuilt h', kinds]

/-! ## The tallies of the kinds -/

namespace KindTally

/-- The tally of a kind from its documents in order. -/
def ofDocuments (rules : Rules) (kind : String) (docs : List Members) : KindTally where
  kindName := kind
  docCount := docs.length
  seen := docs.foldl (Tally.addDocument rules) []

@[simp] theorem ofDocuments_kindName (rules : Rules) (kind : String) (docs : List Members) :
    (ofDocuments rules kind docs).kindName = kind := rfl

/-- The tally after one more document. -/
def again (rules : Rules) (doc : Members) (k : KindTally) : KindTally :=
  { k with docCount := k.docCount + 1, seen := Tally.addDocument rules k.seen doc }

theorem ofDocuments_concat (rules : Rules) (kind : String) (docs : List Members) (doc : Members) :
    ofDocuments rules kind (docs ++ [doc]) = again rules doc (ofDocuments rules kind docs) := by
  rw [ofDocuments, List.foldl_concat, List.length_append]
  rfl

/-- Tallies are buckets of documents under their kinds. -/
theorem add_eq_upsert (rules : Rules) (kind : String) (doc : Members) :
    add rules kind doc =
      Buckets.upsert KindTally.kindName kind (ofDocuments rules kind [doc]) (again rules doc) := by
  funext tallies
  induction tallies with
  | nil => rfl
  | cons k rest ih =>
    rw [add, ih, Buckets.upsert]
    rfl

/-- One tally for each kind, in first-seen order, of the documents of that kind. -/
theorem foldl_add (rules : Rules) (docs : List Members) :
    docs.foldl (fun ks doc => add rules (rules.kindOf doc) doc ks) [] =
      (docs.map rules.kindOf).eraseDups.map fun kind =>
        ofDocuments rules kind (docs.filter fun doc => rules.kindOf doc = kind) := by
  simp only [add_eq_upsert]
  exact Buckets.foldl_upsert (again rules) (ofDocuments rules)
    (fun kind docs => ofDocuments_kindName rules kind docs) (fun _ => rfl)
    (fun kind docs doc _ => ofDocuments_concat rules kind docs doc) docs

end KindTally

/-- Entries that are no documents leave the tallies of the kinds alone. -/
theorem kinds_foldl_step (rules : Rules) (w : Walk) (sample : List Json) :
    (sample.foldl (Walk.step rules) w).kinds =
      (documents sample).foldl (fun ks doc => KindTally.add rules (rules.kindOf doc) doc ks)
        w.kinds := by
  induction sample generalizing w with
  | nil => rfl
  | cons v rest ih => cases v <;> exact ih _

/-! ## The groups of a walk -/

/-- The kinds of some documents, in the order in which they are first met. -/
def kindsOf (rules : Rules) (docs : List Members) : List String :=
  (docs.map rules.kindOf).eraseDups

theorem mem_kindsOf {rules : Rules} {docs : List Members} {kind : String} :
    kind ∈ kindsOf rules docs ↔ ∃ doc ∈ docs, rules.kindOf doc = kind := by
  rw [kindsOf, List.mem_eraseDups, List.mem_map]

theorem firstOfKind_eq_idxOf (rules : Rules) (docs : List Members) (kind : String) :
    firstOfKind rules docs kind = (docs.map rules.kindOf).idxOf kind := by
  rw [firstOfKind, List.idxOf, List.findIdx_map]
  congr 1

theorem kindsOf_pairwise (rules : Rules) (docs : List Members) :
    (kindsOf rules docs).Pairwise fun a b =>
      firstOfKind rules docs a < firstOfKind rules docs b := by
  simp only [firstOfKind_eq_idxOf]
  exact Order.pairwise_eraseDups _

example :
    kindsOf {} [[("_type", .str "")], [("_type", .str "a")], [("_type", .int 1)], []] =
      ["default", "a"] := by
  decide

/-- The documents of a kind are no more and no less than its sample. -/
theorem ofKind_eq_map (rules : Rules) (kind : String) (sample : List Json) :
    ofKind rules kind sample =
      ((documents sample).filter fun doc => rules.kindOf doc = kind).map Json.obj := by
  induction sample with
  | nil => rfl
  | cons v rest ih =>
    cases v with
    | obj doc =>
      have head : documents (.obj doc :: rest) = doc :: documents rest := rfl
      rw [ofKind] at ih ⊢
      by_cases here : rules.kindOf doc = kind
      · rw [head, List.filter_cons_of_pos (by simpa using here),
          List.filter_cons_of_pos (by simpa using here), List.map_cons, ih]
      · rw [head, List.filter_cons_of_neg (by simpa using here),
          List.filter_cons_of_neg (by simpa using here), ih]
    | _ => exact ih

theorem documents_map_obj (docs : List Members) : documents (docs.map Json.obj) = docs := by
  rw [documents, List.filterMap_map]
  exact List.filterMap_some

theorem ofKind_eq_nil_iff {rules : Rules} {kind : String} {sample : List Json} :
    ofKind rules kind sample = [] ↔ kind ∉ kindsOf rules (documents sample) := by
  rw [ofKind_eq_map, List.map_eq_nil_iff, List.filter_eq_nil_iff, mem_kindsOf]
  simp

/-- The tally of a kind gives the group that its documents give when they come alone. -/
theorem toGroup_ofDocuments (rules : Rules) (kind : String) (sample : List Json) :
    (KindTally.ofDocuments rules kind
        ((documents sample).filter fun doc => rules.kindOf doc = kind)).toGroup =
      groupAlone rules kind (ofKind rules kind sample) := by
  rw [groupAlone, detect_fields_of_documents, ofKind_eq_map, documents_map_obj, List.length_map]
  rfl

/-- The groups are those of the kinds that are met, each detected in its own documents. -/
theorem detect_groups (rules : Rules) (sample : List Json) :
    (detect rules sample).groups =
      (kindsOf rules (documents sample)).map fun kind =>
        groupAlone rules kind (ofKind rules kind sample) := by
  by_cases nonempty : sample = []
  · subst nonempty
    rfl
  · rw [detect_of_nonempty rules nonempty, Walk.report, kinds_foldl_step, KindTally.foldl_add,
      List.map_map]
    exact List.map_congr_left fun kind _ => toGroup_ofDocuments rules kind sample

theorem map_kindName_detect (rules : Rules) (sample : List Json) :
    (detect rules sample).groups.map Group.kindName = kindsOf rules (documents sample) := by
  rw [detect_groups, List.map_map]
  exact List.map_id _

theorem groupList_detect (rules : Rules) (sample : List Json) :
    GroupList rules sample (detect rules sample).groups := by
  refine ⟨?_, ?_, ?_, ?_⟩
  · rw [map_kindName_detect]
    exact Order.nodup_eraseDups _
  · intro kind
    rw [map_kindName_detect]
    exact mem_kindsOf
  · intro group here
    rw [detect_groups] at here
    obtain ⟨kind, -, rfl⟩ := List.mem_map.mp here
    rfl
  · rw [map_kindName_detect]
    exact kindsOf_pairwise rules _

/-- The group of a kind is found if the kind is met. -/
theorem group?_detect (rules : Rules) (sample : List Json) (kind : String) :
    (detect rules sample).group? kind =
      if kind ∈ kindsOf rules (documents sample) then
        some (groupAlone rules kind (ofKind rules kind sample))
      else none := by
  rw [Report.group?, detect_groups]
  exact Buckets.find?_map Group.kindName (fun _ => rfl) kind _

/-- **Groups.** The groups of the report of a sample are its group list and nothing else, and
the group of a kind is the detection in the documents of that kind, whatever documents of
other kinds and entries that are no documents come between. -/
theorem detect_groups_iff (rules : Rules) (sample : List Json) :
    (∀ groups, (detect rules sample).groups = groups ↔ GroupList rules sample groups) ∧
      ∀ kind, (detect rules sample).group? kind =
        if ofKind rules kind sample = [] then none
        else some (groupAlone rules kind (ofKind rules kind sample)) := by
  constructor
  · intro groups
    constructor
    · rintro rfl
      exact groupList_detect rules sample
    · exact (groupList_detect rules sample).unique
  · intro kind
    rw [group?_detect]
    by_cases met : kind ∈ kindsOf rules (documents sample)
    · rw [if_pos met, if_neg fun none => ofKind_eq_nil_iff.mp none met]
    · rw [if_neg met, if_pos (ofKind_eq_nil_iff.mpr met)]

end SearchDesk.Schema
