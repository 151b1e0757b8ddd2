import SearchDesk.Proofs.Desk.Storeless
import SearchDesk.Proofs.Schema.Groups
import SearchDesk.Proofs.Schema.Properties
import SearchDesk.Schema.Wire

/-!
# Internal and reserved fields stay inside

Of the entries of a document that are not counted, a detection looks at the one that tells the
kind and at no other. `redact` takes the others out, and `detect_unseen` compares two samples
that are equal after that: they have the same report and leave the same log, and the same table
schemas are made of them, or refused, under any overrides. Besides, no name in a report or a
schema is internal or reserved (`OnlyCounted`), whatever the documents are.

A step of the walk over an entry is the step over the redacted one (`step_redact`), and so the
whole walk is the same. The tallies that it ends with have names that are counted
(`counted_of_mem_tallies`); the names of groups and properties are among theirs.
-/

namespace SearchDesk

namespace Schema

/-- A document without its internal and reserved entries; the one that tells the kind stays. -/
def redactMembers (rules : Rules) (doc : Members) : Members :=
  doc.filter fun m => Counted rules m.1 ∨ m.1 = rules.kindField

/-- An entry of a sample with its document redacted. -/
def redact (rules : Rules) : Json → Json
  | .obj doc => .obj (redactMembers rules doc)
  | v => v

/-- The entries are the same but for internal and reserved fields of documents. -/
def SameInSight (rules : Rules) (v w : Json) : Prop := redact rules v = redact rules w

/-- No name of a field or a property is internal or reserved. -/
structure OnlyCounted (rules : Rules) (r : Report) : Prop where
  fields : ∀ f ∈ r.fields, Counted rules f.name
  groupFields : ∀ g ∈ r.groups, ∀ f ∈ g.fields, Counted rules f.name
  properties : ∀ overrides d t, ((Work.tableSchema r overrides).perform d).1 = .ok t →
    ∀ s ∈ t.documents, ∀ name ∈ s.2.keys, Counted rules name

/-! ## What a walk sees -/

/-- The entries of a document that are not counted are passed over. -/
theorem addDocument_eq_foldl (rules : Rules) (seen : List Tally) (doc : Members) :
    Tally.addDocument rules seen doc =
      (doc.filter fun m => Counted rules m.1).foldl (fun acc m => Tally.add m.1 m.2 acc) seen := by
  rw [List.foldl_filter]
  refine List.foldl_ext _ _ _ fun acc m _ => ?_
  by_cases counted : Counted rules m.1
  · simp [counted, excludes_eq_false_iff.mpr counted]
  · have excluded : rules.excludes m.1 = true := by
      rw [← Bool.not_eq_false]
      exact mt excludes_eq_false_iff.mp counted
    simp [counted, excluded]

theorem addDocument_redactMembers (rules : Rules) (seen : List Tally) (doc : Members) :
    Tally.addDocument rules seen (redactMembers rules doc) = Tally.addDocument rules seen doc := by
  have same : (redactMembers rules doc).filter (fun m => Counted rules m.1) =
      doc.filter fun m => Counted rules m.1 := by
    rw [redactMembers, List.filter_filter]
    refine List.filter_congr fun m _ => ?_
    by_cases counted : Counted rules m.1 <;> simp [counted]
  rw [addDocument_eq_foldl, same, ← addDocument_eq_foldl]

/-- The entry that tells the kind is still there. -/
theorem kindOf_redactMembers (rules : Rules) (doc : Members) :
    rules.kindOf (redactMembers rules doc) = rules.kindOf doc := by
  have value : (redactMembers rules doc).get? rules.kindField = doc.get? rules.kindField :=
    Entries.get?_filter (p := fun name => Counted rules name ∨ name = rules.kindField)
      (by simp) doc
  rw [Rules.kindOf, value, Rules.kindOf]

theorem add_redactMembers (rules : Rules) (kind : String) (doc : Members) (ks : List KindTally) :
    KindTally.add rules kind (redactMembers rules doc) ks = KindTally.add rules kind doc ks := by
  induction ks with
  | nil => rw [KindTally.add, KindTally.add, addDocument_redactMembers]
  | cons k rest ih => rw [KindTally.add, KindTally.add, addDocument_redactMembers, ih]

/-- One step of a walk does not see what is redacted. -/
theorem step_redact (rules : Rules) (w : Walk) (v : Json) :
    Walk.step rules w (redact rules v) = Walk.step rules w v := by
  cases v with
  | obj doc =>
    simp only [redact, Walk.step, kindOf_redactMembers, add_redactMembers,
      addDocument_redactMembers]
  | _ => rfl

/-- Nor does a whole run, or what it reports. -/
theorem detectNoted_map_redact (rules : Rules) (sample : List Json) :
    detectNoted rules (sample.map (redact rules)) = detectNoted rules sample := by
  unfold detectNoted
  simp only [List.isEmpty_map, List.length_map, List.foldl_map, step_redact]

theorem detectNoted_eq_of_sameInSight {rules : Rules} {sample sample' : List Json}
    (agree : List.Forall₂ (SameInSight rules) sample sample') :
    detectNoted rules sample = detectNoted rules sample' := by
  have redacted : sample.map (redact rules) = sample'.map (redact rules) := by
    induction agree with
    | nil => rfl
    | cons head _ ih => rw [List.map_cons, List.map_cons, ih, head]
  rw [← detectNoted_map_redact rules sample, redacted, detectNoted_map_redact]

/-! ## The names of a report -/

section
variable {rules : Rules}

/-- Documents add names that are counted, and no others. -/
theorem counted_of_mem_tallies {docs : List Members} {t : Tally}
    (here : t ∈ docs.foldl (Tally.addDocument rules) []) : Counted rules t.name := by
  rw [Tally.foldl_addDocument_eq_map] at here
  obtain ⟨name, listed, rfl⟩ := List.mem_map.mp here
  have included : rules.excludes name = false := by simpa using (List.mem_filter.mp listed).2
  exact excludes_eq_false_iff.mp included

theorem counted_of_mem_detect {sample : List Json} {f : Field}
    (here : f ∈ (detect rules sample).fields) : Counted rules f.name := by
  rw [detect_fields_of_documents, Tally.summarize] at here
  obtain ⟨t, sorted, rfl⟩ := List.mem_map.mp here
  exact counted_of_mem_tallies (List.mem_mergeSort.mp sorted)

/-- The names of a group are those of a detection in its documents. -/
theorem counted_of_mem_groups {sample : List Json} {g : Group} {f : Field}
    (inGroups : g ∈ (detect rules sample).groups) (inFields : f ∈ g.fields) :
    Counted rules f.name := by
  rw [detect_groups] at inGroups
  obtain ⟨kind, -, rfl⟩ := List.mem_map.mp inGroups
  exact counted_of_mem_detect inFields

theorem onlyCounted_detect (rules : Rules) (sample : List Json) :
    OnlyCounted rules (detect rules sample) := by
  refine ⟨fun f => counted_of_mem_detect, fun g inGroups f => counted_of_mem_groups inGroups, ?_⟩
  intro overrides d t made s here name listed
  have schemas := Work.documentSchemas_of_perform_tableSchema made
  obtain ⟨g, inGroups, f, inFields, rfl⟩ := exists_field_of_property schemas s here name listed
  exact counted_of_mem_groups inGroups inFields

end

end Schema

namespace Work

open Schema

/-- **Out of sight.** Samples that are the same entry by entry but for internal and reserved
fields have one report, one log and the same table schemas under any overrides, and no such field
gives its name to anything that is found in any sample. -/
theorem detect_unseen (rules : Rules) :
    (∀ sample sample', List.Forall₂ (SameInSight rules) sample sample' →
      Schema.detect rules sample = Schema.detect rules sample' ∧
      (Schema.detect rules sample).toWire = (Schema.detect rules sample').toWire ∧
      detect (some rules) sample = detect (some rules) sample' ∧
      ∀ overrides, (detect (some rules) sample >>= fun found => tableSchema found overrides) =
        detect (some rules) sample' >>= fun found => tableSchema found overrides) ∧
      ∀ sample, OnlyCounted rules (Schema.detect rules sample) := by
  refine ⟨fun sample sample' agree => ?_, onlyCounted_detect rules⟩
  have noted := detectNoted_eq_of_sameInSight agree
  have report : Schema.detect rules sample = Schema.detect rules sample' := congrArg Prod.fst noted
  have done : detect (some rules) sample = detect (some rules) sample' := by
    show (pure rules >>= fun rules => _) = (pure rules >>= fun rules => _)
    rw [pure_bind, pure_bind, noted]
  refine ⟨report, ?_, done, ?_⟩
  · rw [report]
  · intro overrides
    rw [done]

/-- A document and an entry that is none. -/
def plainSample : List Json :=
  [.obj [("a", .int 1), ("_type", .str "item"), ("b", .null)], .int 3]

/-- The sample above with an internal and a reserved field among the others. -/
def trailedSample : List Json :=
  [.obj [("_trail", .arr [.int 7]), ("a", .int 1), ("_id", .str "9"), ("_type", .str "item"),
    ("b", .null)], .int 3]

/-- The trail leaves no trace. -/
theorem detect_unseen_trailedSample :
    List.Forall₂ (SameInSight {}) plainSample trailedSample ∧
      Schema.detect {} plainSample = Schema.detect {} trailedSample ∧
      ∀ f ∈ (Schema.detect {} trailedSample).fields, f.name ≠ "_trail" := by
  have agree : List.Forall₂ (SameInSight {}) plainSample trailedSample :=
    .cons rfl (.cons rfl .nil)
  obtain ⟨same, onlyCounted⟩ := detect_unseen {}
  refine ⟨agree, (same _ _ agree).1, fun f here trail => ?_⟩
  have counted := (onlyCounted trailedSample).fields f here
  rw [trail] at counted
  exact absurd counted (by decide)

end Work

end SearchDesk
