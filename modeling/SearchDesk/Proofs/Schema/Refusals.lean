import SearchDesk.Proofs.Schema.Overrides
import SearchDesk.Schema.Sample

/-!
# Tables that are in order or refused

Overrides whose lists may hold any names (`NameChoices`), also such that no storage type has.
`tableSchema_refused_iff` says when a table is refused for them: some field of some group has an
override with such a name (`NamesUnknown`). What is chosen for kinds and fields that the report
does not have is never looked at.

Every table that is made is in order (`TableInOrder`): its kinds are those of the report, each
with the schema of its last group; a property has storage types, which are known, and tells of
items if it is an array; and the default type is one of the kinds.

A table fails as one of its fields does, and a field as one of the names that are chosen for it.
So both parts come down to the storage types of a single field (`storageUnder_toJson`).
-/

namespace SearchDesk

namespace Schema

/-! ## Overrides with any names -/

/-- Overrides as users write them: under the names of a kind and of a field a list of names of
storage types, or none for a null. The names may be wrong. -/
abbrev NameChoices := Entries (Entries (Option (List String)))

namespace NameChoices

/-- What is chosen for a field, as JSON. -/
def choiceJson : Option (List String) → Json
  | none => .null
  | some names => .arr (names.map .str)

/-- What is chosen for the fields of a kind, as JSON. -/
def choicesJson (choices : Entries (Option (List String))) : Json :=
  .obj (choices.map fun c => (c.1, choiceJson c.2))

/-- The overrides as JSON. -/
def toJson (o : NameChoices) : Json := .obj (o.map fun k => (k.1, choicesJson k.2))

/-- The names that are chosen for a field of a kind. -/
def chosen? (o : NameChoices) (kind name : String) : Option (List String) :=
  ((o.get? kind).bind fun choices => choices.get? name).join

/-- Some field of some group has an override with the name, which is that of no storage type. -/
def NamesUnknown (o : NameChoices) (groups : List Group) (name : String) : Prop :=
  name ∉ StorageType.names ∧ ∃ g ∈ groups, ∃ f ∈ g.fields, ∃ names,
    o.chosen? g.kindName f.name = some names ∧ name ∈ names

/-- The storage types of a field under what is chosen for it. -/
def storageFrom (f : Field) : Option (List String) → Except TableFault (List StorageType)
  | none => .ok f.suggestions
  | some names => (names.map Json.str).mapM namedStorage

end NameChoices

open NameChoices

/-! ## The storage types of a field -/

theorem namedStorage_str_eq_ok_iff {name : String} {t : StorageType} :
    namedStorage (.str name) = .ok t ↔ t.name = name := by
  rw [← StorageType.ofName?_eq_some_iff, namedStorage, StorageType.ofJson?]
  cases StorageType.ofName? name <;> simp

theorem namedStorage_str_eq_error_iff {name : String} {e : TableFault} :
    namedStorage (.str name) = .error e ↔
      name ∉ StorageType.names ∧ e = .notAStorageType (.str name) := by
  rw [← StorageType.ofName?_eq_none_iff, namedStorage, StorageType.ofJson?]
  cases StorageType.ofName? name <;> simp [eq_comm]

theorem effectiveStorage_names (f : Field) (choice : Option (List String)) :
    effectiveStorage f (some (choiceJson choice)) = storageFrom f choice := by
  cases choice with
  | none => rfl
  | some names => cases names <;> rfl

/-- Under overrides a field has the storage types that are chosen for it in its kind. -/
theorem storageUnder_toJson (o : NameChoices) (kind : String) (f : Field) :
    storageUnder (((o.get? kind).map choicesJson).getD .null) f =
      storageFrom f (o.chosen? kind f.name) := by
  unfold chosen?
  cases o.get? kind with
  | none => rfl
  | some choices =>
    have found := Entries.get?_map (fun _ => choiceJson) f.name choices
    show storageUnder (choicesJson choices) f = _
    rw [choicesJson, storageUnder_obj, found]
    show _ = storageFrom f (choices.get? f.name).join
    cases choices.get? f.name with
    | none => rfl
    | some choice => exact effectiveStorage_names f choice

theorem schemaUnder_names (o : NameChoices) (g : Group) :
    schemaUnder o.toJson g =
      documentSchema g.fields (((o.get? g.kindName).map choicesJson).getD .null) := by
  have found := Entries.get?_map (fun _ => choicesJson) g.kindName o
  rw [toJson, schemaUnder_obj, found]

/-! ## Refusals -/

/-- A table that is refused is refused for a name of no storage type. -/
theorem namesUnknown_of_error {o : NameChoices} {groups : List Group} {e : TableFault}
    (failed : documentSchemas groups o.toJson = .error e) :
    ∃ name, o.NamesUnknown groups name ∧ e = .notAStorageType (.str name) := by
  obtain ⟨g, inGroups, failed⟩ := exists_error_of_documentSchemas failed
  rw [schemaUnder_names] at failed
  obtain ⟨f, inFields, failed⟩ := exists_error_of_documentSchema failed
  rw [storageUnder_toJson] at failed
  cases chosen : o.chosen? g.kindName f.name with
  | none =>
    rw [chosen] at failed
    cases failed
  | some names =>
    rw [chosen] at failed
    obtain ⟨v, listed, failed⟩ := Outcome.exists_error_of_mapM failed
    obtain ⟨name, inNames, rfl⟩ := List.mem_map.mp listed
    obtain ⟨unknown, rfl⟩ := namedStorage_str_eq_error_iff.mp failed
    exact ⟨name, ⟨unknown, g, inGroups, f, inFields, names, chosen, inNames⟩, rfl⟩

/-- Behind a table that is made, every name that is chosen is that of a storage type. -/
theorem not_namesUnknown_of_ok {o : NameChoices} {groups : List Group}
    {tables : Entries DocumentSchema} (made : documentSchemas groups o.toJson = .ok tables)
    (name : String) : ¬o.NamesUnknown groups name := by
  rintro ⟨unknown, g, inGroups, f, inFields, names, chosen, inNames⟩
  obtain ⟨schemas, each, -⟩ := documentSchemas_eq_ok_iff.mp made
  have schema := each g inGroups
  rw [schemaUnder_names] at schema
  obtain ⟨types, stored, -⟩ := documentSchema_eq_ok_iff.mp schema
  have found := stored f inFields
  rw [storageUnder_toJson, chosen] at found
  obtain ⟨t, named⟩ := Outcome.exists_ok_of_mapM found _ (List.mem_map_of_mem inNames)
  exact unknown (StorageType.mem_names_iff.mpr ⟨t, namedStorage_str_eq_ok_iff.mp named⟩)

/-! ## Tables in order -/

/-- The JSON of a property that is in order: it has storage types, which are known, and it tells
of its items if it is an array. -/
structure PropertyInOrder (v : Json) : Prop where
  stored : ∃ names : List String, memberOf? "x-antfly-types" v = some (.arr (names.map .str)) ∧
    names ≠ [] ∧ ∀ name ∈ names, name ∈ StorageType.names
  items : (memberOf? "items" v).isSome ↔ memberOf? "type" v = some (.str "array")

/-- The JSON of the document schemas that groups get under overrides. -/
structure DocumentsInOrder (o : NameChoices) (groups : List Group) (documents : Members) :
    Prop where
  /-- The kinds of the groups, each at its first place. -/
  kinds : documents.keys = (groups.map Group.kindName).eraseDups
  /-- Each kind has the schema of its last group. -/
  schemas : ∀ kind g, usedGroup? groups kind = some g →
    ∃ schema, schemaUnder o.toJson g = .ok schema ∧
      documents.get? kind = some (documentSchemaJson schema)
  properties : ∀ d ∈ documents, ∃ ps : Members,
    (memberOf? "schema" d.2 >>= memberOf? "properties") = some (.obj ps) ∧
      ∀ p ∈ ps, PropertyInOrder p.2

/-- The default type is one of the kinds, and the default kind if that is one of them. -/
structure DefaultInOrder (defaultKind : String) (kinds : List String) (defaultType : String) :
    Prop where
  listed : kinds ≠ [] → defaultType ∈ kinds
  preferred : defaultKind ∈ kinds → defaultType = defaultKind

/-- The JSON of a table of groups under overrides that is in order. -/
def TableInOrder (o : NameChoices) (groups : List Group) (defaultKind : String) (v : Json) :
    Prop :=
  ∃ documents : Members, ∃ defaultType : String,
    v = .obj [("document_schemas", .obj documents), ("default_type", .str defaultType)] ∧
      DocumentsInOrder o groups documents ∧ DefaultInOrder defaultKind documents.keys defaultType

theorem Property.inOrder {p : Property} (stored : p.storage ≠ []) : PropertyInOrder p.toJson := by
  constructor
  · refine ⟨p.storage.map StorageType.name, ?_, ?_, ?_⟩
    · rw [List.map_map]
      rfl
    · simpa using stored
    · intro name here
      obtain ⟨t, -, named⟩ := List.mem_map.mp here
      exact StorageType.mem_names_iff.mpr ⟨t, named⟩
  · obtain ⟨kind, storage⟩ := p
    cases kind with
    | array => exact iff_of_true rfl rfl
    | _ => exact iff_of_false (by simp [Property.toJson, memberOf?, Entries.get?]) (by
        simp [Property.toJson, memberOf?, Entries.get?, Kind.name])

theorem defaultAmong_inOrder (defaultKind : String) (kinds : List String) :
    DefaultInOrder defaultKind kinds (defaultAmong defaultKind kinds) := by
  unfold defaultAmong
  by_cases here : defaultKind ∈ kinds
  · rw [if_pos (List.contains_iff_mem.mpr here)]
    exact ⟨fun _ => here, fun _ => rfl⟩
  · rw [if_neg (mt List.contains_iff_mem.mp here)]
    refine ⟨fun some => ?_, fun there => absurd there here⟩
    cases kinds with
    | nil => exact absurd rfl some
    | cons kind rest => exact List.mem_cons_self

/-- Document schemas that are made are in order. -/
theorem documentsInOrder_of_ok {o : NameChoices} {groups : List Group}
    {tables : Entries DocumentSchema} (made : documentSchemas groups o.toJson = .ok tables) :
    DocumentsInOrder o groups (tables.map fun d => (d.1, documentSchemaJson d.2)) := by
  obtain ⟨schemas, each, rfl⟩ := documentSchemas_eq_ok_iff.mp made
  constructor
  · rw [Entries.keys_map fun _ => documentSchemaJson, Entries.keys_ofList, Entries.keys,
      List.map_map]
    rfl
  · intro kind g used
    refine ⟨schemas g, each g (kindName_of_used used).1, ?_⟩
    rw [Entries.get?_map fun _ => documentSchemaJson, get?_ofList_groups, used]
    rfl
  · intro d listed
    obtain ⟨table, inTables, rfl⟩ := List.mem_map.mp listed
    obtain ⟨g, inGroups, rfl⟩ := List.mem_map.mp (Entries.mem_of_mem_ofList inTables)
    refine ⟨(schemas g).map fun p => (p.1, p.2.toJson), rfl, ?_⟩
    have schema := each g inGroups
    rw [schemaUnder_names] at schema
    obtain ⟨types, -, same⟩ := documentSchema_eq_ok_iff.mp schema
    intro p listed
    obtain ⟨property, inSchema, rfl⟩ := List.mem_map.mp listed
    rw [← same] at inSchema
    -- only fields with storage types have properties
    obtain ⟨f, -, stored, rfl⟩ := mem_propertiesWith.mp (Entries.mem_of_mem_ofList inSchema)
    exact Property.inOrder stored

end Schema

namespace Work

open Schema Schema.NameChoices

/-- **Refused or in order.** Once the settings are there, a table is refused if and only if some
field of some group has an override with a name of no storage type, and such a name is told.
Otherwise a table is made, and it is in order. -/
theorem tableSchema_refused_iff (found : Report) (o : NameChoices) {d : Desk} {s : Settings}
    (loads : d.store.get.1.1 = .ok s) :
    ((∃ fault, ((tableSchema found o.toJson).perform d).1 = .error fault) ↔
        ∃ name, o.NamesUnknown found.groups name) ∧
      (∀ fault, ((tableSchema found o.toJson).perform d).1 = .error fault →
        ∃ name, o.NamesUnknown found.groups name ∧
          fault = .table (.notAStorageType (.str name))) ∧
      ((¬∃ name, o.NamesUnknown found.groups name) →
        ∃ t, ((tableSchema found o.toJson).perform d).1 = .ok t ∧
          TableInOrder o found.groups s.rules.defaultKind t.toJson) := by
  cases made : documentSchemas found.groups o.toJson with
  | error e =>
    obtain ⟨name, unknown, rfl⟩ := namesUnknown_of_error made
    rw [perform_tableSchema_of_error made]
    refine ⟨⟨fun _ => ⟨name, unknown⟩, fun _ => ⟨_, rfl⟩⟩, ?_,
      fun known => absurd ⟨name, unknown⟩ known⟩
    intro fault same
    exact ⟨name, unknown, (Except.error.inj same).symm⟩
  | ok tables =>
    rw [perform_tableSchema made, loads]
    refine ⟨iff_of_false ?_ ?_, ?_, fun _ => ⟨_, rfl, _, _, rfl, documentsInOrder_of_ok made, ?_⟩⟩
    · rintro ⟨fault, no⟩
      cases no
    · rintro ⟨name, unknown⟩
      exact not_namesUnknown_of_ok made name unknown
    · intro fault no
      cases no
    · rw [Entries.keys_map fun _ => documentSchemaJson]
      exact defaultAmong_inOrder s.rules.defaultKind tables.keys

/-- A desk that keeps the settings that are not set otherwise. -/
def keptDesk : Desk := { store := { home := default, kept := some {} } }

/-- Wrong names for a kind and for a field that are not there. -/
def strayChoices : NameChoices :=
  [("ghost", [("a", some ["nope"])]),
    ("item", [("b", some ["keyword", "text"]), ("z", some ["nope"]), ("a", none)])]

/-- A wrong name for a field that only the first group of its kind has. -/
def wrongChoices : NameChoices := [("item", [("c", some ["text", "nope"])])]

/-- Names for what is not there do not count; names for a group that is replaced do. -/
theorem tableSchema_refused_iff_repeatedReport :
    keptDesk.store.get.1.1 = .ok {} ∧
      (∃ t, ((tableSchema repeatedReport strayChoices.toJson).perform keptDesk).1 = .ok t ∧
        TableInOrder strayChoices repeatedReport.groups "default" t.toJson) ∧
      ∃ fault, ((tableSchema repeatedReport wrongChoices.toJson).perform keptDesk).1 =
        .error fault := by
  have loads : keptDesk.store.get.1.1 = .ok {} := rfl
  obtain ⟨-, -, inOrder⟩ := tableSchema_refused_iff repeatedReport strayChoices loads
  obtain ⟨refused, -, -⟩ := tableSchema_refused_iff repeatedReport wrongChoices loads
  refine ⟨loads, inOrder ?_, refused.mpr ?_⟩
  · rintro ⟨name, unknown⟩
    have made : ∃ tables, documentSchemas repeatedReport.groups strayChoices.toJson = .ok tables :=
      ⟨_, rfl⟩
    obtain ⟨tables, made⟩ := made
    exact not_namesUnknown_of_ok made name unknown
  · refine ⟨"nope", by decide, _, List.mem_cons_self, _, List.mem_cons_self, ["text", "nope"], rfl,
      ?_⟩
    simp

end Work

end SearchDesk
