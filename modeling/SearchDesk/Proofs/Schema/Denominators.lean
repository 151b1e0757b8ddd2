import SearchDesk.Proofs.Schema.Conservation
import SearchDesk.Proofs.Schema.Payloads

/-!
# Entries that are no documents

A sample may hold entries that are no objects, above all the nulls of hits without a document.
They count for the size of the sample and for nothing else (`OnlyDenominators`): without them a
detection has the same groups, and the same fields in the same order, whose counts are divided by
another number. The counts are those of the walk, which passes over such entries.
-/

namespace SearchDesk.Schema

/-- The entries of a sample that are documents. -/
def objectsOf (sample : List Json) : List Json := sample.filter Json.isObject

/-- A field with another denominator: the count of the name is the same, and everything else. -/
structure Diluted (count : String → Nat) (size size' : Nat) (f f' : Field) : Prop where
  name : f'.name = f.name
  kind : f'.kind = f.kind
  exampleValue : f'.exampleValue = f.exampleValue
  suggestions : f'.suggestions = f.suggestions
  frequency : f.frequency = Binary64.ofRatio false (count f.name) size
  frequency' : f'.frequency = Binary64.ofRatio false (count f.name) size'
  sampleCount : f.sampleCount = size
  sampleCount' : f'.sampleCount = size'

/-- The entries that are no documents only change the denominators. -/
structure OnlyDenominators (rules : Rules) (sample : List Json) : Prop where
  status : (detect rules sample).status = if sample.length = 0 then .noDocuments else .ok
  groups : (detect rules sample).groups = (detect rules (objectsOf sample)).groups
  counts : (Walk.ofSample rules sample).count = (Walk.ofSample rules (objectsOf sample)).count
  fields : List.Forall₂
    (Diluted (Walk.ofSample rules sample).count (objectsOf sample).length sample.length)
    (detect rules (objectsOf sample)).fields (detect rules sample).fields
  sampleCount : (detect rules sample).sampleCount = sample.length

/-! ## The documents stay -/

theorem documents_objectsOf (sample : List Json) :
    documents (objectsOf sample) = documents sample := by
  rw [documents, objectsOf, List.filterMap_filter]
  refine List.filterMap_congr fun v _ => ?_
  cases v <;> rfl

/-- The groups are those of the documents of each kind. -/
theorem groups_objectsOf (rules : Rules) (sample : List Json) :
    (detect rules (objectsOf sample)).groups = (detect rules sample).groups := by
  have ofKind : ∀ kind, ofKind rules kind (objectsOf sample) = ofKind rules kind sample := by
    intro kind
    rw [ofKind_eq_map, ofKind_eq_map, documents_objectsOf]
  rw [detect_groups, detect_groups, documents_objectsOf]
  simp only [ofKind]

/-- So are the tallies. -/
theorem overall_objectsOf (rules : Rules) (sample : List Json) :
    (Walk.ofSample rules (objectsOf sample)).overall = (Walk.ofSample rules sample).overall := by
  rw [Walk.ofSample, Walk.ofSample, overall_foldl_step, overall_foldl_step, documents_objectsOf]

/-! ## The counts of a walk -/

/-- The tally of a name has its count. -/
theorem count_of_mem_overall {rules : Rules} {sample : List Json} {t : Tally}
    (here : t ∈ (Walk.ofSample rules sample).overall) :
    (Walk.ofSample rules sample).count t.name = t.count := by
  have tallies : (Walk.ofSample rules sample).overall = _ :=
    (overall_foldl_step rules {} sample).trans (Tally.foldl_addDocument_eq_map rules _)
  rw [Walk.count, Tally.countIn, tallies, Buckets.find?_map Tally.name fun n => rfl]
  rw [tallies] at here
  obtain ⟨name, listed, rfl⟩ := List.mem_map.mp here
  rw [Tally.ofValues_name, if_pos listed]
  rfl

theorem fields_eq_summarize (rules : Rules) (sample : List Json) :
    (detect rules sample).fields =
      Tally.summarize (Walk.ofSample rules sample).overall sample.length := by
  rw [detect_fields_of_documents, Walk.ofSample, overall_foldl_step]

/-- Each field comes from the tally of its name, with the one denominator or the other. -/
theorem fields_diluted (rules : Rules) (sample : List Json) :
    List.Forall₂
      (Diluted (Walk.ofSample rules sample).count (objectsOf sample).length sample.length)
      (detect rules (objectsOf sample)).fields (detect rules sample).fields := by
  rw [fields_eq_summarize, fields_eq_summarize, overall_objectsOf, Tally.summarize,
    Tally.summarize, List.forall₂_map_left_iff, List.forall₂_map_right_iff, List.forall₂_same]
  intro t sorted
  have count := count_of_mem_overall (List.mem_mergeSort.mp sorted)
  constructor
  case frequency => rw [Tally.toField, count]
  case frequency' => rw [Tally.toField, Tally.toField, count]
  all_goals rfl

theorem onlyDenominators_detect (rules : Rules) (sample : List Json) :
    OnlyDenominators rules sample where
  status := status_detect rules sample
  groups := (groups_objectsOf rules sample).symm
  counts := by
    funext name
    rw [Walk.count, Walk.count, overall_objectsOf]
  fields := fields_diluted rules sample
  sampleCount := sampleCount_detect rules sample

/-- **Denominators.** Entries that are no documents only change the denominators of a detection.
So do hits without a document: the sample of hits has one entry for each, in order, and is as
large as there are hits. -/
theorem detect_onlyDenominators (rules : Rules) :
    (∀ sample, OnlyDenominators rules sample) ∧
      ∀ hits, List.Forall₂ SourceOf hits (documentsOfHits hits) ∧
        OnlyDenominators rules (documentsOfHits hits) ∧
        (detect rules (documentsOfHits hits)).sampleCount = hits.length := by
  refine ⟨onlyDenominators_detect rules, fun hits => ?_⟩
  have sources : List.Forall₂ SourceOf hits (documentsOfHits hits) := forall₂_sourceOf_iff.mpr rfl
  refine ⟨sources, onlyDenominators_detect rules _, ?_⟩
  rw [sampleCount_detect, ← sources.length_eq]

/-- Without any document there is still a sample. -/
example : (detect {} [.null, .int 3]).status = .ok ∧ (detect {} [.null, .int 3]).groups = [] := by
  decide

end SearchDesk.Schema
