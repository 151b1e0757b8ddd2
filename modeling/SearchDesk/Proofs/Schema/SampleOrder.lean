import Mathlib.Data.List.Forall2
import SearchDesk.Proofs.Json.Reordered
import SearchDesk.Proofs.Schema.Findings

/-!
# Detection and the order of a sample

Two samples with the same documents in another order, and with the keys of their documents in
another order, are detected alike as far as numbers go (`SameStatistics`): the same kinds with
as many documents, the same names with the same shares, and the same shares down the list.

What a field shows of its values comes from the first of them, so it depends on the order of the
documents. It does not depend on the order of keys: if only keys are moved, kinds of fields,
suggestions and examples are the same, the groups come in the same order, and fields that change
places have equal counts (`SameFindings`). When keys are moved inside the values too, an example
is the same up to the order of its keys, which is what the relation of `SameFindings` is for.

All of it follows from two facts about documents. A name is held by as many documents in both
samples (`holders_eq_of_moved`), which gives the names, the shares and, since both lists are
sorted by count, the sequence of shares. And if only keys are moved, a name has related values
document by document (`forall₂_valuesOf`).
-/

namespace SearchDesk.Schema

open Json (Reordered ReorderedMembers reordered_obj_iff)

/-! ## What stays the same -/

/-- A document with its members in another order, or any entry as it was. -/
inductive KeysMoved : Json → Json → Prop
  | same (v : Json) : KeysMoved v v
  | document {doc doc' : Members} (perm : doc.Perm doc') : KeysMoved (.obj doc) (.obj doc')

/-- Fields with the same names, shares and counts, with the same shares down the lists. -/
structure Alike (a b : Findings) : Prop where
  size : a.size = b.size
  count : ∀ name, a.count name = b.count name
  fields : (a.fields.map fun f => (f.name, f.frequency, f.sampleCount)).Perm
    (b.fields.map fun f => (f.name, f.frequency, f.sampleCount))
  frequencies : a.fields.map Field.frequency = b.fields.map Field.frequency

/-- Two samples with the same statistics. -/
structure SameStatistics (rules : Rules) (sample sample' : List Json) : Prop where
  status : (detect rules sample).status = (detect rules sample').status
  sampleCount : (detect rules sample).sampleCount = (detect rules sample').sampleCount
  docCounts : ((detect rules sample).groups.map fun g => (g.kindName, g.docCount)).Perm
    ((detect rules sample').groups.map fun g => (g.kindName, g.docCount))
  overall : Alike (.overall rules sample) (.overall rules sample')
  inKind : ∀ kind, Alike (.inKind rules sample kind) (.inKind rules sample' kind)

/-- Fields that differ in the places of equally frequent ones and in related examples only. -/
structure SameUpToTies (R : Json → Json → Prop) (a b : Findings) : Prop where
  described : ∀ name f g, a.field? name = some f → b.field? name = some g →
    f.kind = g.kind ∧ R f.exampleValue g.exampleValue ∧ f.suggestions = g.suggestions
  tied : ∀ x y, [x, y].Sublist a.names → [y, x].Sublist b.names → a.count x = a.count y

/-- Two samples with the same statistics, in which the same is found in the same order up to
ties, with related examples. -/
structure SameFindings (R : Json → Json → Prop) (rules : Rules) (sample sample' : List Json) :
    Prop extends SameStatistics rules sample sample' where
  kinds : Findings.kinds rules sample = Findings.kinds rules sample'
  overallFields : SameUpToTies R (.overall rules sample) (.overall rules sample')
  inKindFields : ∀ kind,
    SameUpToTies R (.inKind rules sample kind) (.inKind rules sample' kind)

/-! ## Values with their keys in another order -/

theorem classify_eq_of_reordered {v w : Json} (same : Reordered v w) : classify v = classify w := by
  cases same <;> rfl

theorem isNull_eq_of_reordered {v w : Json} (same : Reordered v w) : v.isNull = w.isNull := by
  cases same <;> rfl

/-- Suggestions read the text of a string and no more of a value. -/
theorem suggest_eq_of_reordered {v w : Json} (same : Reordered v w) (kind : Kind) :
    suggest kind v = suggest kind w := by
  cases same <;> cases kind <;> rfl

/-! ## Documents with their keys in another order -/

section
variable {doc doc' : Members} {docs docs' moved : List Members}

/-- The kind of a document is a text under a key, or the default. -/
theorem kindOf_eq_of_reordered (rules : Rules) (same : ReorderedMembers doc doc') :
    rules.kindOf doc = rules.kindOf doc' := by
  unfold Rules.kindOf
  rcases same.get?_cases rules.kindField with ⟨missing, missing'⟩ | ⟨v, w, value, value', reordered⟩
  · rw [missing, missing']
  · rw [value, value']
    cases reordered <;> rfl

theorem holders_eq_of_reordered (same : List.Forall₂ ReorderedMembers docs docs') (name : String) :
    holders docs name = holders docs' name := by
  induction same with
  | nil => rfl
  | cons head _ ih =>
    rw [holders, holders] at ih
    rw [holders, holders, List.countP_cons, List.countP_cons, ih, head.has_eq]

/-- A name is held by as many documents, in whatever order they come. -/
theorem holders_eq_of_moved (perm : docs.Perm moved)
    (same : List.Forall₂ ReorderedMembers moved docs') (name : String) :
    holders docs name = holders docs' name :=
  (perm.countP_eq _).trans (holders_eq_of_reordered same name)

theorem kindsOf_eq_of_reordered (rules : Rules)
    (same : List.Forall₂ ReorderedMembers docs docs') : kindsOf rules docs = kindsOf rules docs' := by
  have kinds : docs.map rules.kindOf = docs'.map rules.kindOf := by
    induction same with
    | nil => rfl
    | cons head _ ih => rw [List.map_cons, List.map_cons, ih, kindOf_eq_of_reordered rules head]
  rw [kindsOf, kindsOf, kinds]

theorem nodup_keys_of_reordered (same : List.Forall₂ ReorderedMembers docs docs')
    (distinct : ∀ doc ∈ docs, doc.keys.Nodup) : ∀ doc ∈ docs', doc.keys.Nodup := by
  induction same with
  | nil => exact distinct
  | cons head _ ih =>
    obtain ⟨here, later⟩ := List.forall_mem_cons.mp distinct
    exact List.forall_mem_cons.mpr ⟨head.keys.nodup_iff.mp here, ih later⟩

/-- Documents that are reordered one by one have the same kinds one by one. -/
theorem forall₂_docsOfKind {S : Members → Members → Prop}
    (reordered : ∀ doc doc', S doc doc' → ReorderedMembers doc doc') (rules : Rules)
    (kind : String) (same : List.Forall₂ S docs docs') :
    List.Forall₂ S (docsOfKind rules kind docs) (docsOfKind rules kind docs') := by
  refine List.rel_filter (fun doc doc' same => ?_) same
  show decide (rules.kindOf doc = kind) = true ↔ decide (rules.kindOf doc' = kind) = true
  rw [kindOf_eq_of_reordered rules (reordered doc doc' same)]

end

/-- Documents with the same keys, in any order, over reordered values that are also related. -/
structure SameKeys (R : Json → Json → Prop) (doc doc' : Members) : Prop
    extends ReorderedMembers doc doc' where
  related : ∀ (key : String) (v w : Json), doc.get? key = some v → doc'.get? key = some w → R v w

/-- The values of a name are related document by document. -/
theorem forall₂_valuesOf {R : Json → Json → Prop} {docs docs' : List Members}
    (same : List.Forall₂ (SameKeys R) docs docs') (name : String) :
    List.Forall₂ R (valuesOf name docs) (valuesOf name docs') := by
  refine List.rel_filterMap (fun doc doc' same => ?_) same
  rcases same.get?_cases name with ⟨missing, missing'⟩ | ⟨v, w, value, value', -⟩
  · rw [missing, missing']
    exact .none
  · rw [value, value']
    exact .some (same.related name v w value value')

/-! ## Samples -/

section
variable {sample sample' : List Json}

/-- The documents of entries that are equal up to the order of keys. -/
theorem forall₂_documents_of_reordered (same : List.Forall₂ Reordered sample sample') :
    List.Forall₂ ReorderedMembers (documents sample) (documents sample') := by
  refine List.rel_filterMap (fun v w reordered => ?_) same
  cases reordered with
  | same =>
    cases v with
    | obj doc => exact .some (.refl doc)
    | _ => exact .none
  | arr => exact .none
  | obj keys values => exact .some ⟨keys, values⟩

/-- The documents of entries whose keys are moved. -/
theorem forall₂_documents_of_keysMoved (distinct : ∀ doc ∈ documents sample, doc.keys.Nodup)
    (same : List.Forall₂ KeysMoved sample sample') :
    List.Forall₂ (SameKeys Eq) (documents sample) (documents sample') := by
  have perms : List.Forall₂ List.Perm (documents sample) (documents sample') := by
    refine List.rel_filterMap (fun v w moved => ?_) same
    cases moved with
    | same =>
      cases v with
      | obj doc => exact .some (.refl doc)
      | _ => exact .none
    | document perm => exact .some perm
  refine ((List.forall₂_and_left _ _).mpr ⟨distinct, perms⟩).imp fun doc doc' both => ?_
  obtain ⟨nodup, perm⟩ := both
  refine ⟨.of_perm nodup perm, fun key v w value value' => ?_⟩
  rw [Entries.get?_eq_of_perm nodup perm, value'] at value
  exact (Option.some.inj value).symm

end

/-! ## Statistics -/

section
variable {docs docs' : List Members}

theorem fieldNames_perm (rules : Rules) (held : ∀ name, holders docs name = holders docs' name) :
    (fieldNames rules docs).Perm (fieldNames rules docs') := by
  have present : ∀ docs name, (∃ doc ∈ docs, Entries.has name doc = true) ↔
      0 < holders docs name := fun docs name => List.countP_pos_iff.symm
  refine (List.perm_ext_iff_of_nodup (nodup_fieldNames _ _) (nodup_fieldNames _ _)).mpr ?_
  intro name
  rw [mem_fieldNames, mem_fieldNames, present, present, held]

theorem falling_holders (rules : Rules) (docs : List Members) :
    ((fieldNames rules docs).map (holders docs)).Pairwise (· ≥ ·) := by
  refine (fieldNames_pairwise rules docs).map _ fun a b before => ?_
  rcases before with more | ⟨same, -⟩ <;> omega

theorem kindsOf_perm (rules : Rules) (perm : docs.Perm docs') :
    (kindsOf rules docs).Perm (kindsOf rules docs') := by
  refine (List.perm_ext_iff_of_nodup (Order.nodup_eraseDups _) (Order.nodup_eraseDups _)).mpr ?_
  intro kind
  rw [List.mem_eraseDups, List.mem_eraseDups]
  exact (perm.map _).mem_iff

/-- Both lists of names are sorted by count, so they show the same counts in the same order. -/
theorem map_holders_fieldNames (rules : Rules)
    (held : ∀ name, holders docs name = holders docs' name) :
    (fieldNames rules docs).map (holders docs) = (fieldNames rules docs').map (holders docs') := by
  have perm : ((fieldNames rules docs).map (holders docs)).Perm
      ((fieldNames rules docs').map (holders docs')) := by
    rw [← show holders docs = holders docs' from funext held]
    exact (fieldNames_perm rules held).map _
  exact perm.eq_of_pairwise (fun m n _ _ notLess notMore => Nat.le_antisymm notMore notLess)
    (falling_holders rules docs) (falling_holders rules docs')

end

section
variable {rules : Rules} {sample sample' : List Json} {moved : List Members}

/-- Samples of the same size in which as many documents have each name give fields alike. -/
theorem alike_overall (distinct : ∀ doc ∈ documents sample, doc.keys.Nodup)
    (distinct' : ∀ doc ∈ documents sample', doc.keys.Nodup)
    (length : sample.length = sample'.length)
    (held : ∀ name, holders (documents sample) name = holders (documents sample') name) :
    Alike (.overall rules sample) (.overall rules sample') := by
  have shares : ∀ (docs : List Members) (size : Nat),
      ((fieldNames rules docs).map (fieldOf docs size)).map Field.frequency =
        ((fieldNames rules docs).map (holders docs)).map
          fun count => Binary64.ofRatio false count size := by
    intro docs size
    rw [List.map_map, List.map_map]
    rfl
  constructor
  · rw [Findings.size_overall, Findings.size_overall, length]
  · intro name
    rw [Findings.count_overall distinct, Findings.count_overall distinct', countedHolders,
      countedHolders, held]
  · have entries : ∀ docs : List Members,
        ((fieldNames rules docs).map (fieldOf docs sample'.length)).map
            (fun f => (f.name, f.frequency, f.sampleCount)) =
          (fieldNames rules docs).map fun name =>
            (name, Binary64.ofRatio false (holders docs name) sample'.length, sample'.length) := by
      intro docs
      rw [List.map_map]
      rfl
    rw [Findings.fields_overall distinct, Findings.fields_overall distinct', length, entries,
      entries]
    simp only [held]
    exact (fieldNames_perm rules held).map _
  · rw [Findings.fields_overall distinct, Findings.fields_overall distinct', length, shares,
      shares, map_holders_fieldNames rules held]

theorem map_docCount_detect (rules : Rules) (sample : List Json) :
    (detect rules sample).groups.map (fun g => (g.kindName, g.docCount)) =
      (kindsOf rules (documents sample)).map fun kind =>
        (kind, (ofKind rules kind sample).length) := by
  rw [detect_groups, List.map_map]
  rfl

/-- Samples of the same size with the same documents, up to their order and that of their keys,
have the same statistics. -/
theorem sameStatistics_of_moved (distinct : ∀ doc ∈ documents sample, doc.keys.Nodup)
    (length : sample.length = sample'.length) (perm : (documents sample).Perm moved)
    (same : List.Forall₂ ReorderedMembers moved (documents sample')) :
    SameStatistics rules sample sample' := by
  have distinct' : ∀ doc ∈ documents sample', doc.keys.Nodup :=
    nodup_keys_of_reordered same fun doc here => distinct doc (perm.mem_iff.mpr here)
  have permOfKind : ∀ kind, (docsOfKind rules kind (documents sample)).Perm
      (docsOfKind rules kind moved) := fun kind => perm.filter _
  have sameOfKind : ∀ kind, List.Forall₂ ReorderedMembers (docsOfKind rules kind moved)
      (docsOfKind rules kind (documents sample')) := fun kind =>
    forall₂_docsOfKind (fun _ _ reordered => reordered) rules kind same
  have docCount : ∀ kind, (ofKind rules kind sample).length =
      (ofKind rules kind sample').length := by
    intro kind
    rw [length_ofKind, length_ofKind, (permOfKind kind).length_eq, (sameOfKind kind).length_eq]
  constructor
  · rw [status_detect, status_detect, length]
  · rw [sampleCount_detect, sampleCount_detect, length]
  · have kinds : (kindsOf rules (documents sample)).Perm (kindsOf rules (documents sample')) :=
      kindsOf_eq_of_reordered rules same ▸ kindsOf_perm rules perm
    rw [map_docCount_detect, map_docCount_detect]
    simp only [docCount]
    exact kinds.map _
  · exact alike_overall distinct distinct' length (holders_eq_of_moved perm same)
  · intro kind
    rw [Findings.inKind_eq_overall distinct, Findings.inKind_eq_overall distinct']
    refine alike_overall (nodup_keys_ofKind distinct) (nodup_keys_ofKind distinct')
      (docCount kind) ?_
    rw [documents_ofKind, documents_ofKind]
    exact holders_eq_of_moved (permOfKind kind) (sameOfKind kind)

end

/-! ## Findings -/

section
variable {R : Json → Json → Prop} {rules : Rules} {sample sample' : List Json}

theorem rel_head?_getD {vs ws : List Json} (null : R .null .null) (same : List.Forall₂ R vs ws) :
    R (vs.head?.getD .null) (ws.head?.getD .null) := by
  cases same with
  | nil => exact null
  | cons head _ => exact head

/-- The first values that are not null stand in the same place of related values. -/
theorem rel_find?_getD {vs ws : List Json} (null : R .null .null)
    (sub : ∀ v w, R v w → Reordered v w) (same : List.Forall₂ R vs ws) :
    R ((vs.find? fun v => !v.isNull).getD .null) ((ws.find? fun v => !v.isNull).getD .null) := by
  induction same with
  | nil => exact null
  | @cons v w vs ws head _ ih =>
    rw [List.find?_cons, List.find?_cons, isNull_eq_of_reordered (sub v w head)]
    cases w.isNull with
    | true => exact ih
    | false => exact head

/-- A field shows the first values of its name, which are related if all values are. -/
theorem fieldOf_described {docs docs' : List Members} (null : R .null .null)
    (sub : ∀ v w, R v w → Reordered v w) (same : List.Forall₂ (SameKeys R) docs docs')
    (size : Nat) (name : String) :
    (fieldOf docs size name).kind = (fieldOf docs' size name).kind ∧
      R (fieldOf docs size name).exampleValue (fieldOf docs' size name).exampleValue ∧
        (fieldOf docs size name).suggestions = (fieldOf docs' size name).suggestions := by
  have values := forall₂_valuesOf same name
  have kind : (fieldOf docs size name).kind = (fieldOf docs' size name).kind :=
    classify_eq_of_reordered (sub _ _ (rel_head?_getD null values))
  have shown : R (fieldOf docs size name).exampleValue (fieldOf docs' size name).exampleValue :=
    rel_find?_getD null sub values
  refine ⟨kind, shown, ?_⟩
  show suggest (fieldOf docs size name).kind (fieldOf docs size name).exampleValue =
    suggest (fieldOf docs' size name).kind (fieldOf docs' size name).exampleValue
  rw [kind, suggest_eq_of_reordered (sub _ _ shown)]

theorem sameUpToTies_overall (null : R .null .null) (sub : ∀ v w, R v w → Reordered v w)
    (distinct : ∀ doc ∈ documents sample, doc.keys.Nodup) (length : sample.length = sample'.length)
    (same : List.Forall₂ (SameKeys R) (documents sample) (documents sample')) :
    SameUpToTies R (.overall rules sample) (.overall rules sample') := by
  have reordered := same.imp fun _ _ keys => keys.toReorderedMembers
  have distinct' := nodup_keys_of_reordered reordered distinct
  constructor
  · intro name f g found found'
    rw [Findings.field?_overall distinct, Option.ite_none_right_eq_some, Option.some.injEq] at found
    rw [Findings.field?_overall distinct', Option.ite_none_right_eq_some,
      Option.some.injEq] at found'
    obtain ⟨-, rfl⟩ := found
    obtain ⟨-, rfl⟩ := found'
    rw [length]
    exact fieldOf_described null sub same sample'.length name
  · intro x y forward backward
    rw [Findings.names_overall distinct] at forward
    rw [Findings.names_overall distinct'] at backward
    have listedX := forward.mem (List.mem_cons_self)
    have listedY := forward.mem (List.mem_cons_of_mem x List.mem_cons_self)
    rw [Findings.count_overall_of_mem distinct listedX,
      Findings.count_overall_of_mem distinct listedY]
    -- `y` is counted at most as often in the one sample and at least as often in the other
    have held := holders_eq_of_reordered reordered
    have notLess := List.pairwise_iff_forall_sublist.mp (fieldNames_pairwise rules _) forward
    have notMore := List.pairwise_iff_forall_sublist.mp (fieldNames_pairwise rules _) backward
    rw [Before, ← held, ← held] at notMore
    rcases notLess with more | ⟨tie, -⟩ <;> rcases notMore with more' | ⟨tie', -⟩ <;> omega

/-- Samples in which only the keys of documents are moved give the same findings. -/
theorem sameFindings_of_forall₂ (null : R .null .null) (sub : ∀ v w, R v w → Reordered v w)
    (distinct : ∀ doc ∈ documents sample, doc.keys.Nodup) (length : sample.length = sample'.length)
    (same : List.Forall₂ (SameKeys R) (documents sample) (documents sample')) :
    SameFindings R rules sample sample' := by
  have reordered := same.imp fun _ _ keys => keys.toReorderedMembers
  have distinct' := nodup_keys_of_reordered reordered distinct
  refine ⟨sameStatistics_of_moved distinct length (.refl _) reordered, ?_,
    sameUpToTies_overall null sub distinct length same, ?_⟩
  · rw [Findings.kinds, Findings.kinds, map_kindName_detect, map_kindName_detect,
      kindsOf_eq_of_reordered rules reordered]
  · intro kind
    have sameOfKind :=
      forall₂_docsOfKind (fun _ _ keys => keys.toReorderedMembers) rules kind same
    rw [Findings.inKind_eq_overall distinct, Findings.inKind_eq_overall distinct']
    refine sameUpToTies_overall null sub (nodup_keys_ofKind distinct) ?_ ?_
    · rw [length_ofKind, length_ofKind, sameOfKind.length_eq]
    · rw [documents_ofKind, documents_ofKind]
      exact sameOfKind

end

/-- **Order of the sample.** Entries in any order, with the keys of their objects in any order at
any level, have the same statistics. If the entries stay in their order, the same is found in the
same order up to ties, with examples that are equal up to the order of their keys, and with the
same examples if only the keys of the documents themselves are moved. -/
theorem detect_reordered (rules : Rules) {sample : List Json}
    (distinct : ∀ doc ∈ documents sample, doc.keys.Nodup) :
    (∀ moved sample', sample.Perm moved → List.Forall₂ Reordered moved sample' →
      SameStatistics rules sample sample') ∧
      (∀ sample', List.Forall₂ Reordered sample sample' →
        SameFindings Reordered rules sample sample') ∧
      ∀ sample', List.Forall₂ KeysMoved sample sample' →
        SameFindings Eq rules sample sample' := by
  refine ⟨?_, ?_, ?_⟩
  · intro moved sample' perm same
    exact sameStatistics_of_moved distinct (perm.length_eq.trans same.length_eq)
      (perm.filterMap _) (forall₂_documents_of_reordered same)
  · intro sample' same
    have keys := (forall₂_documents_of_reordered same).imp
      fun doc doc' members => SameKeys.mk members members.values
    exact sameFindings_of_forall₂ (.same .null) (fun _ _ reordered => reordered) distinct
      same.length_eq keys
  · intro sample' same
    exact sameFindings_of_forall₂ rfl (fun v _ equal => equal ▸ .same v) distinct
      same.length_eq (forall₂_documents_of_keysMoved distinct same)

/-- A value with two keys. -/
def pairMembers : Members := [("x", .int 1), ("y", .null)]

/-- A document with the names `a` and `b`. -/
def tiedMembers : Members := [("a", .null), ("b", .obj pairMembers)]

/-- The document with the keys of its value the other way round. -/
def turnedMembers : Members := [("a", .null), ("b", .obj pairMembers.reverse)]

/-- A document before an entry that is none and another document with the same names. -/
def tiedSample (first : Members) : List Json :=
  [.obj first, .int 3, .obj [("b", .bool true), ("a", .str "text")]]

/-- The names `a` and `b` change places with their keys, and both are found as they were. -/
theorem detect_reordered_tiedSample :
    (∀ doc ∈ documents (tiedSample tiedMembers), doc.keys.Nodup) ∧
      SameStatistics {} (tiedSample tiedMembers) (tiedSample turnedMembers).reverse ∧
      SameFindings Reordered {} (tiedSample tiedMembers) (tiedSample turnedMembers) ∧
      SameFindings Eq {} (tiedSample tiedMembers) (tiedSample tiedMembers.reverse) ∧
      fieldNames {} (documents (tiedSample tiedMembers)) = ["a", "b"] ∧
      fieldNames {} (documents (tiedSample tiedMembers.reverse)) = ["b", "a"] := by
  have distinct : ∀ doc ∈ documents (tiedSample tiedMembers), doc.keys.Nodup := by decide
  have pair : Reordered (.obj pairMembers) (.obj pairMembers.reverse) :=
    reordered_obj_iff.mpr (.of_perm (by decide) (List.reverse_perm _).symm)
  have inside : Reordered (.obj tiedMembers) (.obj turnedMembers) :=
    reordered_obj_iff.mpr ((ReorderedMembers.refl [("a", .null)]).put "b" pair)
  have turned : List.Forall₂ Reordered (tiedSample tiedMembers) (tiedSample turnedMembers) :=
    .cons inside (.cons (.same _) (.cons (.same _) .nil))
  have keysMoved : List.Forall₂ KeysMoved (tiedSample tiedMembers)
      (tiedSample tiedMembers.reverse) :=
    .cons (.document (List.reverse_perm _).symm) (.cons (.same _) (.cons (.same _) .nil))
  obtain ⟨statistics, atEveryLevel, atTheTop⟩ := detect_reordered {} distinct
  refine ⟨distinct, statistics _ _ (List.reverse_perm _).symm (List.rel_reverse turned),
    atEveryLevel _ turned, atTheTop _ keysMoved, ?_, ?_⟩
  · rw [fieldNames, List.mergeSort_of_pairwise (by decide)]
    decide
  · rw [fieldNames, List.mergeSort_of_pairwise (by decide)]
    decide

end SearchDesk.Schema
