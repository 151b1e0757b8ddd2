import SearchDesk.Proofs.Json.Readable
import SearchDesk.Proofs.Schema.Conservation
import SearchDesk.Proofs.Schema.Payloads
import SearchDesk.Proofs.Schema.RoundTrip
import SearchDesk.Proofs.Schema.TableOfSample

/-!
# Reports and tables read back

The report of a readable sample and the table schema made from a report have texts that stand for
them. Examples are values of the sample, shares are rounded quotients, and a count is at most the
size of the sample, so it has few enough digits if the size has.
-/

namespace SearchDesk

open Json (Inherited Readable readable_arr_iff readable_obj_iff)

/-! ## Finite values -/

theorem Json.finiteItems_eq_map (items : List Json) :
    finiteItems items = items.map finiteOnly := by
  induction items with
  | nil => rfl
  | cons v rest ih => rw [finiteItems, ih, List.map_cons]

theorem Json.finiteMembers_eq_map (ms : List (String × Json)) :
    finiteMembers ms = ms.map fun e => (e.1, e.2.finiteOnly) := by
  induction ms with
  | nil => rfl
  | cons e rest ih => rw [finiteMembers, ih, List.map_cons]

theorem Json.readable_finiteOnly {v : Json} (readable : Readable v) : Readable v.finiteOnly := by
  induction v with
  | float x =>
    unfold finiteOnly
    split
    · exact readable
    · exact readable_null
  | arr items ih =>
    rw [readable_arr_iff] at readable
    rw [finiteOnly, finiteItems_eq_map, readable_arr_iff, List.forall_mem_map]
    exact fun v mem => ih v mem (readable v mem)
  | obj ms ih =>
    obtain ⟨distinct, each⟩ := readable_obj_iff.mp readable
    rw [finiteOnly, finiteMembers_eq_map, readable_obj_iff, List.forall_mem_map, Entries.keys,
      List.map_map]
    exact ⟨distinct, fun e mem => ih e mem (each e mem)⟩
  | null => exact readable
  | bool => exact readable
  | int => exact readable
  | str => exact readable

namespace Schema

/-! ## Fields -/

theorem readable_count {n : Nat} (few : n < 10 ^ digitLimit) : Readable (.int n) :=
  Json.readable_int few

theorem readable_storage (ts : List StorageType) : Readable (.arr (ts.map StorageType.toWire)) := by
  rw [readable_arr_iff, List.forall_mem_map]
  exact fun t _ => Json.readable_str t.name

/-- What has to hold of a field for its text to stand for it. -/
structure Field.Printable (f : Field) : Prop where
  exampleValue : Readable f.exampleValue
  share : f.frequency.WellFormed
  few : f.sampleCount < 10 ^ digitLimit

theorem Field.Printable.readable_object {f : Field} (printable : f.Printable) :
    Readable f.object := by
  refine readable_obj_iff.mpr ⟨by simp [Entries.keys], ?_⟩
  simp only [List.forall_mem_cons]
  exact ⟨Json.readable_str _, Json.readable_str _, Json.readable_finiteOnly printable.exampleValue,
    Json.readable_float printable.share, readable_count printable.few, readable_storage _, by simp⟩

theorem readable_fields {fs : List Field} (printable : ∀ f ∈ fs, f.Printable) :
    Readable (.arr (fs.map Field.object)) := by
  rw [readable_arr_iff, List.forall_mem_map]
  exact fun f mem => (printable f mem).readable_object

/-! ## Samples -/

section
variable {P : Json → Prop} (inherited : Inherited P)

include inherited

theorem Responds.hits_inherit {response : Json} {hits : List Json} (responds : Responds hits response)
    (whole : P response) : ∀ hit ∈ hits, P hit := by
  obtain ⟨responses, outerHits, innerHits⟩ := responds
  have first := inherited.item (inherited.get? whole responses) List.mem_cons_self
  have inner := inherited.get? (inherited.get? first outerHits) innerHits
  exact fun hit mem => inherited.item inner mem

theorem SourceOf.inherit {hit v : Json} (source : SourceOf hit v) (whole : P hit) : P v := by
  cases source with
  | document source => exact inherited.get? whole source
  | missing => exact inherited.null

theorem inherited_of_sources {hits sample : List Json} (sources : List.Forall₂ SourceOf hits sample)
    (each : ∀ hit ∈ hits, P hit) : ∀ v ∈ sample, P v := by
  induction sources with
  | nil => exact List.forall_mem_nil _
  | cons source _ ih =>
    obtain ⟨first, later⟩ := List.forall_mem_cons.mp each
    exact List.forall_mem_cons.mpr ⟨source.inherit inherited first, ih later⟩

/-- The documents of a payload inherit from it, in whatever shape they come. -/
theorem inherited_of_mem_sampleDocuments {payload v : Json} (whole : P payload)
    (mem : v ∈ sampleDocuments payload) : P v := by
  have sampled := sampled_sampleDocuments payload
  generalize sampleDocuments payload = sample at mem sampled
  cases sampled with
  | documents => exact inherited.item whole mem
  | hits _ sources =>
    exact inherited_of_sources inherited sources (fun _ hit => inherited.item whole hit) v mem
  | response responds sources =>
    exact inherited_of_sources inherited sources (responds.hits_inherit inherited whole) v mem
  | other => cases mem

end

/-! ## Reports -/

theorem mem_documents {sample : List Json} {doc : Members} :
    doc ∈ documents sample ↔ .obj doc ∈ sample := by
  rw [documents, List.mem_filterMap]
  constructor
  · rintro ⟨v, mem, found⟩
    cases v with
    | obj ms =>
      obtain rfl := Option.some.inj found
      exact mem
    | _ => cases found
  · intro mem
    exact ⟨_, mem, rfl⟩

section
variable {P : Json → Prop} (inherited : Inherited P) {rules : Rules} {sample : List Json}
  (distinct : ∀ doc ∈ documents sample, doc.keys.Nodup) (each : ∀ v ∈ sample, P v)

include inherited distinct each

/-- An example is a value of a document, or null. -/
theorem inherited_of_mem_detect {f : Field} (mem : f ∈ (detect rules sample).fields) :
    P f.exampleValue := by
  rw [detect_fields_eq_map rules distinct] at mem
  obtain ⟨name, -, rfl⟩ := List.mem_map.mp mem
  rcases found : (valuesOf name (documents sample)).find? (fun v => !v.isNull) with _ | v
  · rw [fieldOf, found]
    exact inherited.null
  · have given := List.mem_of_find?_eq_some found
    obtain ⟨doc, inside, value⟩ := List.mem_filterMap.mp given
    rw [fieldOf, found]
    exact inherited.get? (each _ (mem_documents.mp inside)) value

/-- So is one in a group. -/
theorem inherited_of_mem_groups {g : Group} (here : g ∈ (detect rules sample).groups) {f : Field}
    (mem : f ∈ g.fields) : P f.exampleValue := by
  obtain ⟨kind, -, rfl⟩ := exists_kind_of_mem_groups here
  exact inherited_of_mem_detect inherited (nodup_keys_ofKind distinct)
    (fun v inside => each v (List.mem_of_mem_filter inside)) mem

end

section
variable {rules : Rules} {sample : List Json} (readable : ∀ v ∈ sample, Readable v)

include readable

/-- The documents of a readable sample repeat no key. -/
theorem nodup_keys_of_readable : ∀ doc ∈ documents sample, doc.keys.Nodup := fun _ inside =>
  (readable_obj_iff.mp (readable _ (mem_documents.mp inside))).1

/-- The report of a sample with few enough levels has a wire form. -/
theorem toWire_detect (shallow : ∀ v ∈ sample, v.levels ≤ wireLevels) :
    (detect rules sample).toWire = .ok (detect rules sample).object := by
  have distinct := nodup_keys_of_readable readable
  have inherited : Inherited fun v => v.levels ≤ wireLevels := Json.inherited_levels (by decide)
  refine Report.toWire_eq_ok_iff.mpr ⟨⟨?_, ?_⟩, rfl⟩
  · exact fun g here f mem => inherited_of_mem_groups inherited distinct shallow here mem
  · exact fun f mem => inherited_of_mem_detect inherited distinct shallow mem

variable (few : sample.length < 10 ^ digitLimit)

include few

/-- The fields of a detection are printable. -/
theorem printable_of_mem_detect {f : Field} (mem : f ∈ (detect rules sample).fields) :
    f.Printable := by
  have distinct := nodup_keys_of_readable readable
  obtain ⟨quotient, positive, atMost⟩ := isShare_of_mem_detect distinct mem
  have shown := inherited_of_mem_detect Json.inherited_readable distinct readable mem
  rw [detect_fields_eq_map rules distinct] at mem
  obtain ⟨name, -, rfl⟩ := List.mem_map.mp mem
  refine ⟨shown, ?_, few⟩
  rw [quotient]
  exact Binary64.wellFormed_ofRatio _ (by omega)

theorem readable_object_detect : Readable (detect rules sample).object := by
  have groups : Readable (.arr ((detect rules sample).groups.map Group.object)) := by
    rw [readable_arr_iff, List.forall_mem_map]
    intro g mem
    obtain ⟨kind, -, rfl⟩ := exists_kind_of_mem_groups mem
    have own : (ofKind rules kind sample).length < 10 ^ digitLimit :=
      lt_of_le_of_lt (List.length_filter_le _ _) few
    refine readable_obj_iff.mpr ⟨by simp [Entries.keys], ?_⟩
    simp only [List.forall_mem_cons]
    refine ⟨Json.readable_str _, readable_fields fun f => ?_, readable_count own, by simp⟩
    exact printable_of_mem_detect (fun v inside => readable v (List.mem_of_mem_filter inside)) own
  refine readable_obj_iff.mpr ⟨by simp [Entries.keys], ?_⟩
  simp only [List.forall_mem_cons]
  refine ⟨Json.readable_str _, groups, readable_fields fun f => printable_of_mem_detect readable few,
    ?_, ?_, by simp⟩
  · rw [sampleCount_detect]
    exact readable_count few
  · split
    · exact Json.readable_str _
    · exact Json.readable_null

end

/-! ## Table schemas -/

/-- Values made from the entries of a dictionary. -/
theorem readable_map_entries {α : Type} {es : Entries α} (distinct : es.keys.Nodup) {f : α → Json}
    (each : ∀ e ∈ es, Readable (f e.2)) : Readable (.obj (es.map fun e => (e.1, f e.2))) := by
  rw [readable_obj_iff, List.forall_mem_map, Entries.keys, List.map_map]
  exact ⟨distinct, each⟩

theorem Property.readable_toJson (p : Property) : Readable p.toJson := by
  have items : Readable (.obj [("type", .str "string")]) :=
    readable_obj_iff.mpr ⟨List.nodup_singleton _, by simpa using Json.readable_str _⟩
  unfold Property.toJson
  refine readable_obj_iff.mpr ⟨?_, ?_⟩
  · split <;> simp [Entries.keys]
  · rw [List.forall_mem_append]
    simp only [List.forall_mem_cons]
    refine ⟨⟨Json.readable_str _, readable_storage p.storage, by simp⟩, ?_⟩
    split
    · simpa using items
    · simp

theorem readable_documentSchemaJson {d : DocumentSchema} (distinct : d.keys.Nodup) :
    Readable (documentSchemaJson d) := by
  have properties := readable_map_entries distinct fun p _ => p.2.readable_toJson
  have schema : Readable (.obj [("type", .str "object"),
      ("properties", .obj (d.map fun p => (p.1, p.2.toJson)))]) := by
    refine readable_obj_iff.mpr ⟨by simp [Entries.keys], ?_⟩
    simp only [List.forall_mem_cons]
    exact ⟨Json.readable_str _, properties, by simp⟩
  refine readable_obj_iff.mpr ⟨List.nodup_singleton _, ?_⟩
  rw [List.forall_mem_singleton]
  exact schema

/-- A table schema repeats neither a kind nor, for a kind, a property. -/
theorem readable_tableSchema {defaultKind : String} {report : Report} {t : TableSchema}
    (made : tableSchema defaultKind report .null = .ok t) : Readable t.toJson := by
  rw [tableSchema, documentSchemas_null] at made
  obtain rfl := Except.ok.inj made
  have documents := readable_map_entries (f := documentSchemaJson)
    (Entries.nodup_keys_ofList (report.groups.map fun g =>
      (g.kindName, Entries.ofList (propertiesOf g.fields)))) (by
    intro e mem
    obtain ⟨g, -, rfl⟩ := List.mem_map.mp (Entries.mem_of_mem_ofList mem)
    exact readable_documentSchemaJson (Entries.nodup_keys_ofList _))
  refine readable_obj_iff.mpr ⟨by simp [Entries.keys], ?_⟩
  simp only [List.forall_mem_cons]
  exact ⟨documents, Json.readable_str _, by simp⟩

end Schema

end SearchDesk
