import SearchDesk.Proofs.Entries
import SearchDesk.Proofs.Outcome
import SearchDesk.Schema.Table

/-!
# How document schemas are made

The storage types of a field are settled field by field (`storageUnder`), and the schema of a
group is settled group by group (`schemaUnder`). A schema is made if and only if the storage
types of every field are, and it is then the dictionary of the properties that the fields get
(`documentSchema_eq_ok_iff`); a table is made if and only if the schema of every group is, and it
is then the dictionary of these schemas (`documentSchemas_eq_ok_iff`). What is not made fails as
some field of some group does (`exists_error_of_documentSchemas`).
-/

namespace SearchDesk.Schema

/-! ## The schema of a group -/

/-- The storage types of a field under the overrides of its kind. -/
def storageUnder (own : Json) (f : Field) : Except TableFault (List StorageType) := do
  effectiveStorage f (← overrideFor own f.name)

/-- The properties that fields get from their storage types; a field without any gets none. -/
def propertiesWith (types : Field → List StorageType) (fields : List Field) :
    List (String × Property) :=
  (fields.filter fun f => !(types f).isEmpty).map fun f => (f.name, ⟨f.kind, types f⟩)

/-- What a field with the given storage types adds to a schema. -/
def withField (schema : DocumentSchema) (f : Field) (types : List StorageType) : DocumentSchema :=
  if !types.isEmpty then schema.put f.name ⟨f.kind, types⟩ else schema

theorem addProperty_eq_map (own : Json) (schema : DocumentSchema) (f : Field) :
    addProperty own schema f = (storageUnder own f).map (withField schema f) := by
  unfold addProperty storageUnder fieldProperty
  cases overrideFor own f.name with
  | error e => rfl
  | ok override =>
    show ((effectiveStorage f override).bind _).bind _ = (effectiveStorage f override).map _
    cases effectiveStorage f override with
    | error e => rfl
    | ok types => cases types <;> rfl

theorem foldl_withField (types : Field → List StorageType) (fields : List Field) :
    fields.foldl (fun schema f => withField schema f (types f)) [] =
      Entries.ofList (propertiesWith types fields) := by
  unfold Entries.ofList propertiesWith
  rw [List.foldl_map, List.foldl_filter]
  rfl

/-- A schema is made if the storage types of every field are. -/
theorem documentSchema_eq_ok_iff {fields : List Field} {own : Json} {schema : DocumentSchema} :
    documentSchema fields own = .ok schema ↔
      ∃ types : Field → List StorageType, (∀ f ∈ fields, storageUnder own f = .ok (types f)) ∧
        Entries.ofList (propertiesWith types fields) = schema := by
  rw [documentSchema, funext₂ (addProperty_eq_map own), Outcome.foldlM_eq_ok_iff]
  simp only [foldl_withField]

/-- A schema that is not made fails as some field does. -/
theorem exists_error_of_documentSchema {fields : List Field} {own : Json} {e : TableFault}
    (failed : documentSchema fields own = .error e) :
    ∃ f ∈ fields, storageUnder own f = .error e := by
  rw [documentSchema, funext₂ (addProperty_eq_map own)] at failed
  exact Outcome.exists_error_of_foldlM failed

theorem mem_propertiesWith {types : Field → List StorageType} {fields : List Field}
    {p : String × Property} :
    p ∈ propertiesWith types fields ↔
      ∃ f ∈ fields, types f ≠ [] ∧ (f.name, ⟨f.kind, types f⟩) = p := by
  simp only [propertiesWith, List.mem_map, List.mem_filter, Bool.not_eq_true', ne_eq,
    List.isEmpty_eq_false_iff, and_assoc]

/-- The names of a schema are those of the fields that have storage types. -/
theorem mem_keys_propertiesWith {types : Field → List StorageType} {fields : List Field}
    {name : String} :
    name ∈ Entries.keys (Entries.ofList (propertiesWith types fields)) ↔
      ∃ f ∈ fields, f.name = name ∧ types f ≠ [] := by
  rw [Entries.keys_ofList, List.mem_eraseDups, Entries.keys, List.mem_map]
  constructor
  · rintro ⟨p, here, rfl⟩
    obtain ⟨f, inFields, some, rfl⟩ := mem_propertiesWith.mp here
    exact ⟨f, inFields, rfl, some⟩
  · rintro ⟨f, inFields, rfl, some⟩
    exact ⟨_, mem_propertiesWith.mpr ⟨f, inFields, some, rfl⟩, rfl⟩

/-! ## The schemas of all groups -/

/-- The schema of a group under the overrides of a table. -/
def schemaUnder (overrides : Json) (g : Group) : Except TableFault DocumentSchema := do
  documentSchema g.fields ((← overrideFor overrides g.kindName).getD .null)

/-- What a group with the given schema adds to a table. -/
def withGroup (tables : Entries DocumentSchema) (g : Group) (schema : DocumentSchema) :
    Entries DocumentSchema :=
  tables.put g.kindName schema

theorem addDocuments_eq_map (overrides : Json) (tables : Entries DocumentSchema) (g : Group) :
    addDocuments overrides tables g = (schemaUnder overrides g).map (withGroup tables g) := by
  unfold addDocuments schemaUnder
  cases overrideFor overrides g.kindName with
  | error e => rfl
  | ok own => rfl

/-- A table is made if the schema of every group is. -/
theorem documentSchemas_eq_ok_iff {groups : List Group} {overrides : Json}
    {tables : Entries DocumentSchema} :
    documentSchemas groups overrides = .ok tables ↔
      ∃ schemas : Group → DocumentSchema,
        (∀ g ∈ groups, schemaUnder overrides g = .ok (schemas g)) ∧
          Entries.ofList (groups.map fun g => (g.kindName, schemas g)) = tables := by
  rw [documentSchemas, funext₂ (addDocuments_eq_map overrides), Outcome.foldlM_eq_ok_iff]
  simp only [Entries.ofList, List.foldl_map, withGroup]

/-- A table that is not made fails as some group does. -/
theorem exists_error_of_documentSchemas {groups : List Group} {overrides : Json} {e : TableFault}
    (failed : documentSchemas groups overrides = .error e) :
    ∃ g ∈ groups, schemaUnder overrides g = .error e := by
  rw [documentSchemas, funext₂ (addDocuments_eq_map overrides)] at failed
  exact Outcome.exists_error_of_foldlM failed

/-! ## Overrides that are dictionaries -/

theorem overrideFor_obj (ms : Members) (name : String) :
    overrideFor (.obj ms) name = .ok (ms.get? name) := by
  cases ms with
  | nil => rfl
  | cons m rest => rfl

/-- The overrides of a kind are looked up by the name of the field. -/
theorem storageUnder_obj (ms : Members) (f : Field) :
    storageUnder (.obj ms) f = effectiveStorage f (ms.get? f.name) := by
  show (overrideFor (.obj ms) f.name).bind (effectiveStorage f) = _
  rw [overrideFor_obj]
  rfl

/-- The overrides of a table are looked up by the kind of the group. -/
theorem schemaUnder_obj (ms : Members) (g : Group) :
    schemaUnder (.obj ms) g = documentSchema g.fields ((ms.get? g.kindName).getD .null) := by
  show (overrideFor (.obj ms) g.kindName).bind _ = _
  rw [overrideFor_obj]
  rfl

/-! ## The fields behind a table -/

/-- Every property of a table is named for a field of the group that it was made for. -/
theorem exists_field_of_property {groups : List Group} {overrides : Json}
    {tables : Entries DocumentSchema} (made : documentSchemas groups overrides = .ok tables) :
    ∀ t ∈ tables, ∀ name ∈ t.2.keys, ∃ g ∈ groups, ∃ f ∈ g.fields, f.name = name := by
  obtain ⟨schemas, each, rfl⟩ := documentSchemas_eq_ok_iff.mp made
  intro t here name listed
  obtain ⟨g, inGroups, rfl⟩ := List.mem_map.mp (Entries.mem_of_mem_ofList here)
  obtain ⟨own, -, schema⟩ := Outcome.exists_of_bind_eq_ok (each g inGroups)
  obtain ⟨types, -, same⟩ := documentSchema_eq_ok_iff.mp schema
  rw [← same] at listed
  obtain ⟨f, inFields, named, -⟩ := mem_keys_propertiesWith.mp listed
  exact ⟨g, inGroups, f, inFields, named⟩

end SearchDesk.Schema
