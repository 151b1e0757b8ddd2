import SearchDesk.Proofs.Desk.Storeless
import SearchDesk.Proofs.Schema.Conservation
import SearchDesk.Proofs.Schema.Properties

/-!
# From a sample to the schema of a table

What the schema of a table is, if nothing is overridden, said of the sample alone. `TableOf`
has a document schema for each kind that some document is of, in the order of the first
documents, and `PropertyList` says what the schema of a kind lists:

* a name is listed if it is counted and its first value in the documents of the kind is of a
  stored kind (`IsStored`): null, a text, a number or an array;
* names keep the order of the group of the kind, which is by falling count;
* a property describes the first value (`Describes`): its type, its one storage type, and
  whether it has items.

Storage types are suggested for the kind of the first value, so a field has none exactly if
that value is a truth value or an object (`suggest_eq_nil_iff`). Names and kinds are distinct,
so no property is put in the place of another one (`Entries.ofList_eq_self`).
-/

namespace SearchDesk.Schema

/-! ## The schema from the sample -/

/-- The value of a name in the first document that has it. -/
def firstValue? (name : String) (docs : List Members) : Option Json :=
  docs.findSome? fun doc => doc.get? name

/-- A value of a kind that is stored. -/
def IsStored : Json → Prop
  | .bool _ => False
  | .obj _ => False
  | _ => True

/-- The storage types that a field of a kind may have when nothing is overridden. -/
def storageFor : Kind → List StorageType
  | .number => [.numeric]
  | .array => [.keyword]
  | .string => [.datetime, .html, .text]
  | .boolean => []
  | .object => []

/-- The property describes the first value of its field. -/
structure Describes (property : Json) (first : Json) : Prop where
  type : memberOf? "type" property = some (.str (classify first).name)
  storage : ∃ t ∈ storageFor (classify first),
    memberOf? "x-antfly-types" property = some (.arr [.str t.name])
  items : (memberOf? "items" property).isSome ↔ first.shape = .arr

/-- The properties of a group of the given documents. -/
structure PropertyList (rules : Rules) (docs : List Members) (group : Group)
    (schema : DocumentSchema) : Prop where
  distinct : schema.keys.Nodup
  listed : ∀ name, name ∈ schema.keys ↔
    Counted rules name ∧ ∃ v, firstValue? name docs = some v ∧ IsStored v
  inOrderOfGroup : schema.keys.Sublist (group.fields.map Field.name)
  ordered : schema.keys.Pairwise (Before docs)
  described : ∀ p ∈ schema, ∃ v, firstValue? p.1 docs = some v ∧ Describes p.2.toJson v

/-- The document schemas of a sample. -/
structure TableOf (rules : Rules) (sample : List Json) (tables : Entries DocumentSchema) :
    Prop where
  distinct : tables.keys.Nodup
  listed : ∀ kind, kind ∈ tables.keys ↔ ∃ doc ∈ documents sample, rules.kindOf doc = kind
  ordered : tables.keys.Pairwise fun a b =>
    firstOfKind rules (documents sample) a < firstOfKind rules (documents sample) b
  described : ∀ t ∈ tables, ∃ group, (detect rules sample).group? t.1 = some group ∧
    PropertyList rules (docsOfKind rules t.1 (documents sample)) group t.2

/-! ## Schemas without overrides -/

/-- The properties of the fields that have storage types. -/
def propertiesOf (fields : List Field) : List (String × Property) :=
  (fields.filter fun f => !f.suggestions.isEmpty).map fun f => (f.name, ⟨f.kind, f.suggestions⟩)

/-- Without overrides every field keeps its suggestions. -/
theorem documentSchema_null (fields : List Field) :
    documentSchema fields .null = .ok (Entries.ofList (propertiesOf fields)) :=
  documentSchema_eq_ok_iff.mpr ⟨Field.suggestions, fun _ _ => rfl, rfl⟩

theorem documentSchemas_null (groups : List Group) :
    documentSchemas groups .null = .ok (Entries.ofList (groups.map fun g =>
      (g.kindName, Entries.ofList (propertiesOf g.fields)))) :=
  documentSchemas_eq_ok_iff.mpr
    ⟨fun g => Entries.ofList (propertiesOf g.fields), fun g _ => documentSchema_null g.fields, rfl⟩

/-! ## Suggestions and first values -/

theorem isStored_iff (v : Json) : IsStored v ↔ classify v ≠ .boolean ∧ classify v ≠ .object := by
  cases v <;> simp [IsStored, classify]

/-- Whether there is a suggestion depends on the kind alone. -/
theorem suggest_eq_nil_iff (kind : Kind) (value : Json) :
    suggest kind value = [] ↔ kind = .boolean ∨ kind = .object := by
  cases kind with
  | string => cases value <;> simp [suggest]
  | _ => simp [suggest]

/-- There is at most one suggestion. -/
theorem suggest_eq_singleton {kind : Kind} {value : Json} (some : suggest kind value ≠ []) :
    ∃ t ∈ storageFor kind, suggest kind value = [t] := by
  cases kind with
  | string =>
    cases value with
    | str s =>
      refine ⟨ofText s, ?_, rfl⟩
      show ofText s ∈ [StorageType.datetime, .html, .text]
      unfold ofText
      split
      · simp
      · split <;> simp
    | _ => exact ⟨.text, by simp [storageFor], rfl⟩
  | number => exact ⟨.numeric, List.mem_cons_self, rfl⟩
  | array => exact ⟨.keyword, List.mem_cons_self, rfl⟩
  | boolean => exact absurd rfl some
  | object => exact absurd rfl some

theorem firstValue?_eq_none_iff {name : String} {docs : List Members} :
    firstValue? name docs = none ↔ ∀ doc ∈ docs, doc.has name = false := by
  simp only [firstValue?, List.findSome?_eq_none_iff, Entries.has_eq_false_iff]

theorem exists_firstValue?_iff {name : String} {docs : List Members} :
    (∃ v, firstValue? name docs = some v) ↔ ∃ doc ∈ docs, doc.has name = true := by
  rw [← Option.isSome_iff_exists, ← Option.ne_none_iff_isSome, Ne, firstValue?_eq_none_iff]
  simp

/-- The kind of a field is that of the first value. -/
theorem kind_fieldOf {name : String} {docs : List Members} {v : Json}
    (first : firstValue? name docs = some v) (size : Nat) :
    (fieldOf docs size name).kind = classify v := by
  have head : (valuesOf name docs).head? = some v := by
    rw [valuesOf, List.head?_filterMap]
    exact first
  show classify ((valuesOf name docs).head?.getD .null) = _
  rw [head]
  rfl

theorem suggestions_fieldOf_eq_nil_iff {name : String} {docs : List Members} {v : Json}
    (first : firstValue? name docs = some v) (size : Nat) :
    (fieldOf docs size name).suggestions = [] ↔ ¬IsStored v := by
  have kind : (fieldOf docs size name).kind = classify v := kind_fieldOf first size
  show suggest (fieldOf docs size name).kind _ = [] ↔ _
  rw [kind, suggest_eq_nil_iff, isStored_iff]
  tauto

/-! ## The properties of a group -/

theorem keys_propertiesOf (fields : List Field) :
    Entries.keys (propertiesOf fields) =
      (fields.filter fun f => !f.suggestions.isEmpty).map Field.name := by
  rw [Entries.keys, propertiesOf, List.map_map]
  rfl

theorem keys_propertiesOf_sublist (fields : List Field) :
    (Entries.keys (propertiesOf fields)).Sublist (fields.map Field.name) := by
  rw [keys_propertiesOf]
  exact List.filter_sublist.map Field.name

theorem mem_propertiesOf {fields : List Field} {p : String × Property} :
    p ∈ propertiesOf fields ↔
      ∃ f ∈ fields, f.suggestions ≠ [] ∧ (f.name, ⟨f.kind, f.suggestions⟩) = p :=
  mem_propertiesWith

/-- The property of a field describes the first value. -/
theorem describes_fieldOf {name : String} {docs : List Members} {v : Json}
    (first : firstValue? name docs = some v) {size : Nat}
    (stored : (fieldOf docs size name).suggestions ≠ []) :
    Describes (Property.toJson ⟨(fieldOf docs size name).kind,
      (fieldOf docs size name).suggestions⟩) v := by
  obtain ⟨t, suits, only⟩ := suggest_eq_singleton stored
  have only' : (fieldOf docs size name).suggestions = [t] := only
  have kind := kind_fieldOf first size
  have suits' : t ∈ storageFor (classify v) := by
    rw [← kind]
    exact suits
  rw [kind, only']
  refine ⟨rfl, ⟨t, suits', rfl⟩, ?_⟩
  cases v <;> simp [Property.toJson, memberOf?, classify, Json.shape, Entries.get?]

section
variable {rules : Rules} {docs : List Members} {size : Nat}

/-- A property comes from a name that is counted, whose first value is stored. -/
theorem stored_of_mem_propertiesOf {p : String × Property}
    (here : p ∈ propertiesOf ((fieldNames rules docs).map (fieldOf docs size))) :
    Counted rules p.1 ∧
      ∃ v, firstValue? p.1 docs = some v ∧ IsStored v ∧ Describes p.2.toJson v := by
  obtain ⟨f, inFields, suggested, rfl⟩ := mem_propertiesOf.mp here
  obtain ⟨name, inNames, rfl⟩ := List.mem_map.mp inFields
  obtain ⟨counted, present⟩ := mem_fieldNames.mp inNames
  obtain ⟨v, first⟩ := exists_firstValue?_iff.mpr present
  have stored : IsStored v := by
    by_contra not
    exact suggested ((suggestions_fieldOf_eq_nil_iff first size).mpr not)
  exact ⟨counted, v, first, stored, describes_fieldOf first suggested⟩

/-- A name that is counted has a property if its first value is stored. -/
theorem mem_keys_propertiesOf {name : String} {v : Json} (counted : Counted rules name)
    (first : firstValue? name docs = some v) (stored : IsStored v) :
    name ∈ Entries.keys (propertiesOf ((fieldNames rules docs).map (fieldOf docs size))) := by
  have inNames : name ∈ fieldNames rules docs := by
    apply mem_fieldNames.mpr
    exact ⟨counted, exists_firstValue?_iff.mp ⟨v, first⟩⟩
  have suggested : (fieldOf docs size name).suggestions ≠ [] := by
    intro none
    exact (suggestions_fieldOf_eq_nil_iff first size).mp none stored
  have property := mem_propertiesOf.mpr
    ⟨fieldOf docs size name, List.mem_map.mpr ⟨name, inNames, rfl⟩, suggested, rfl⟩
  exact List.mem_map.mpr ⟨_, property, rfl⟩

/-- The stored fields of documents are their property list. -/
theorem propertyList_propertiesOf {group : Group}
    (fields : group.fields = (fieldNames rules docs).map (fieldOf docs size)) :
    PropertyList rules docs group (propertiesOf group.fields) := by
  have names : group.fields.map Field.name = fieldNames rules docs := by
    rw [fields, List.map_map]
    exact List.map_id _
  have inOrderOfGroup := keys_propertiesOf_sublist group.fields
  have inOrder := inOrderOfGroup
  rw [names] at inOrder
  refine ⟨?_, fun name => ⟨?_, ?_⟩, inOrderOfGroup, ?_, ?_⟩
  · exact inOrder.nodup (nodup_fieldNames rules docs)
  · intro listed
    obtain ⟨p, here, rfl⟩ := List.mem_map.mp listed
    rw [fields] at here
    obtain ⟨counted, v, first, stored, -⟩ := stored_of_mem_propertiesOf here
    exact ⟨counted, v, first, stored⟩
  · rintro ⟨counted, v, first, stored⟩
    rw [fields]
    exact mem_keys_propertiesOf counted first stored
  · exact (fieldNames_pairwise rules docs).sublist inOrder
  · intro p here
    rw [fields] at here
    obtain ⟨-, v, first, -, describes⟩ := stored_of_mem_propertiesOf here
    exact ⟨v, first, describes⟩

end

/-! ## The schema of a table -/

/-- The document schemas of a detection. -/
theorem documentSchemas_detect {rules : Rules} {sample : List Json}
    (distinct : ∀ doc ∈ documents sample, doc.keys.Nodup) :
    ∃ tables, TableOf rules sample tables ∧
      documentSchemas (detect rules sample).groups .null = .ok tables := by
  have properties : ∀ kind, PropertyList rules (docsOfKind rules kind (documents sample))
      (groupAlone rules kind (ofKind rules kind sample))
      (propertiesOf (groupAlone rules kind (ofKind rules kind sample)).fields) := by
    intro kind
    apply propertyList_propertiesOf
    rw [← documents_ofKind]
    exact detect_fields_eq_map rules (nodup_keys_ofKind distinct)
  let table : String → String × DocumentSchema := fun kind =>
    (kind, propertiesOf (groupAlone rules kind (ofKind rules kind sample)).fields)
  have keys : Entries.keys ((kindsOf rules (documents sample)).map table) =
      kindsOf rules (documents sample) := by
    rw [Entries.keys, List.map_map]
    exact List.map_id _
  have kindsDistinct : (kindsOf rules (documents sample)).Nodup := Order.nodup_eraseDups _
  refine ⟨(kindsOf rules (documents sample)).map table, ⟨?_, ?_, ?_, ?_⟩, ?_⟩
  · rw [keys]
    exact kindsDistinct
  · intro kind
    rw [keys]
    exact mem_kindsOf
  · rw [keys]
    exact kindsOf_pairwise rules _
  · intro t here
    obtain ⟨kind, met, rfl⟩ := List.mem_map.mp here
    refine ⟨groupAlone rules kind (ofKind rules kind sample), ?_, properties kind⟩
    rw [group?_detect, if_pos met]
  · -- kinds are distinct, and so are the names of a kind: putting entries in loses none
    have entries : (detect rules sample).groups.map
        (fun g => (g.kindName, Entries.ofList (propertiesOf g.fields))) =
          (kindsOf rules (documents sample)).map table := by
      rw [detect_groups, List.map_map]
      refine List.map_congr_left fun kind _ => ?_
      exact congrArg (Prod.mk kind) (Entries.ofList_eq_self (properties kind).distinct)
    rw [documentSchemas_null, entries, Entries.ofList_eq_self]
    rw [keys]
    exact kindsDistinct

end Schema

namespace Work

open Schema

/-- A detection with given rules gives the report of the sample. It leaves the settings alone. -/
theorem perform_detect (rules : Rules) (sample : List Json) (d : Desk) :
    ∃ d', (detect (some rules) sample).perform d = (.ok (Schema.detect rules sample), d') ∧
      d'.store = d.store := by
  have gives := Gives.detect rules sample
  exact ⟨_, Prod.ext (gives.outcome d) rfl, gives.storeless.store_perform d⟩

/-- **From a sample to a table.** Without overrides, the schema of the table of a sample has the
document schemas that the sample gives, whatever the rules, and the settings are read for the
default kind only. -/
theorem tableSchema_detect (rules : Rules) {sample : List Json}
    (distinct : ∀ doc ∈ documents sample, doc.keys.Nodup) :
    ∃ tables, TableOf rules sample tables ∧ ∀ d,
      ((detect (some rules) sample >>= fun found => tableSchema found .null).perform d).1 =
        (d.store.get.1.1.mapError Fault.load).map fun settings =>
          .ofDocuments settings.rules.defaultKind tables := by
  obtain ⟨tables, tableOf, made⟩ := documentSchemas_detect distinct
  refine ⟨tables, tableOf, fun d => ?_⟩
  obtain ⟨d', detected, kept⟩ := perform_detect rules sample d
  have answer := perform_settings d'
  rw [kept] at answer
  rw [perform_bind_of_ok detected, tableSchema, made, perform_bind_of_ok (perform_ofExcept _ _ d'),
    perform_bind, ← answer]
  rcases settings.perform d' with ⟨_ | _, _⟩ <;> rfl

/-- Documents of two kinds whose fields begin with null, a truth value, a text and an array. -/
def typedSample : List Json :=
  [.obj [("_type", .str "a"), ("flag", .bool true), ("n", .null)],
    .int 5,
    .obj [("at", .str "2024-01-01 00:00"), ("flag", .str "x")],
    .obj [("_type", .str "a"), ("tags", .arr []), ("flag", .str "x"), ("n", .int 3)]]

/-- What begins with null is stored, and what begins with a truth value is not. -/
theorem tableSchema_detect_typedSample :
    (∀ doc ∈ documents typedSample, doc.keys.Nodup) ∧
      ∃ tables, TableOf {} typedSample tables ∧ "a" ∈ tables.keys ∧
        (∀ properties, ("a", properties) ∈ tables →
          "n" ∈ properties.keys ∧ "flag" ∉ properties.keys) ∧
        ∀ d, ((detect (some {}) typedSample >>= fun found =>
            tableSchema found .null).perform d).1 =
          (d.store.get.1.1.mapError Fault.load).map fun settings =>
            .ofDocuments settings.rules.defaultKind tables := by
  have distinct : ∀ doc ∈ documents typedSample, doc.keys.Nodup := by decide
  obtain ⟨tables, tableOf, made⟩ := tableSchema_detect {} distinct
  refine ⟨distinct, tables, tableOf, (tableOf.listed "a").mpr (by decide), ?_, made⟩
  intro properties here
  obtain ⟨group, -, list⟩ := tableOf.described _ here
  constructor
  · have first : firstValue? "n" (docsOfKind {} "a" (documents typedSample)) = some .null := by
      decide
    exact (list.listed "n").mpr ⟨by decide, .null, first, trivial⟩
  · intro listed
    have first : firstValue? "flag" (docsOfKind {} "a" (documents typedSample)) =
        some (.bool true) := by decide
    obtain ⟨-, v, first', stored⟩ := (list.listed "flag").mp listed
    obtain rfl : .bool true = v := Option.some.inj (first.symm.trans first')
    exact stored

end Work

end SearchDesk
