import SearchDesk.Proofs.Schema.Conservation

/-!
# What a detection finds

A report says the same things of a whole sample and of the documents of each kind: which
fields there are, how often each of them was counted, and by what the counts are divided.
`Findings` puts these three together, so that one statement serves for both.

What is found of a kind is what is found in a sample of its documents alone
(`inKind_eq_overall`). A law for whole samples is then a law for kinds, and it is enough to
know what `overall` finds: names in their order (`names_overall`), counts (`count_overall`) and
the field of a name (`field?_overall`), each read off the documents of the sample.
-/

namespace SearchDesk.Schema

/-- The fields that are found in some documents, with their counts and the number that the
counts are divided by. -/
structure Findings where
  fields : List Field
  count : String → Nat
  size : Nat

namespace Findings

/-- What is found in a whole sample. -/
def overall (rules : Rules) (sample : List Json) : Findings where
  fields := (detect rules sample).fields
  count := (Walk.ofSample rules sample).count
  size := (detect rules sample).sampleCount

/-- What is found in the documents of a kind; a kind without a group has nothing. -/
def inKind (rules : Rules) (sample : List Json) (kind : String) : Findings where
  fields := (((detect rules sample).group? kind).map Group.fields).getD []
  count := (Walk.ofSample rules sample).countOfKind kind
  size := (((detect rules sample).group? kind).map Group.docCount).getD 0

/-- The names of the fields, in the order of the list. -/
def names (f : Findings) : List String := f.fields.map Field.name

/-- The field of a name. -/
def field? (f : Findings) (name : String) : Option Field :=
  f.fields.find? fun field => field.name = name

/-- The kinds that have a group, in the order of the groups. -/
def kinds (rules : Rules) (sample : List Json) : List String :=
  (detect rules sample).groups.map Group.kindName

section
variable {rules : Rules} {sample : List Json}

theorem size_overall (rules : Rules) (sample : List Json) :
    (overall rules sample).size = sample.length :=
  sampleCount_detect rules sample

theorem names_overall (distinct : ∀ doc ∈ documents sample, doc.keys.Nodup) :
    (overall rules sample).names = fieldNames rules (documents sample) :=
  map_name_detect rules distinct

theorem fields_overall (distinct : ∀ doc ∈ documents sample, doc.keys.Nodup) :
    (overall rules sample).fields =
      (fieldNames rules (documents sample)).map (fieldOf (documents sample) sample.length) :=
  detect_fields_eq_map rules distinct

theorem count_overall (distinct : ∀ doc ∈ documents sample, doc.keys.Nodup) (name : String) :
    (overall rules sample).count name = countedHolders rules (documents sample) name :=
  Walk.count_ofSample rules name distinct

theorem field?_overall (distinct : ∀ doc ∈ documents sample, doc.keys.Nodup) (name : String) :
    (overall rules sample).field? name =
      if name ∈ fieldNames rules (documents sample) then
        some (fieldOf (documents sample) sample.length name)
      else none := by
  rw [field?, fields_overall distinct]
  exact Buckets.find?_map Field.name (fun _ => rfl) name _

/-- A listed name is counted as often as documents have it. -/
theorem count_overall_of_mem (distinct : ∀ doc ∈ documents sample, doc.keys.Nodup)
    {name : String} (listed : name ∈ fieldNames rules (documents sample)) :
    (overall rules sample).count name = holders (documents sample) name := by
  rw [count_overall distinct, countedHolders, if_pos (mem_fieldNames.mp listed).1]

/-- The documents of a kind give the same findings when they come alone. -/
theorem inKind_eq_overall (distinct : ∀ doc ∈ documents sample, doc.keys.Nodup)
    (kind : String) : inKind rules sample kind = overall rules (ofKind rules kind sample) := by
  have count : (Walk.ofSample rules sample).countOfKind kind =
      (Walk.ofSample rules (ofKind rules kind sample)).count := by
    funext name
    rw [Walk.countOfKind_ofSample rules kind name distinct,
      Walk.count_ofSample rules name (nodup_keys_ofKind distinct), documents_ofKind]
  rw [inKind, overall, count, group?_detect, sampleCount_detect]
  by_cases met : kind ∈ kindsOf rules (documents sample)
  · rw [if_pos met]
    rfl
  · rw [if_neg met, ofKind_eq_nil_iff.mpr met]
    rfl

end

end Findings

end SearchDesk.Schema
