import SearchDesk.Proofs.Desk.Storeless
import SearchDesk.Proofs.Schema.Properties
import SearchDesk.Proofs.Schema.Reading

/-!
# What an override reaches

Overrides choose storage types for single fields of single kinds (`StorageChoices`). A field has
the types that are chosen for it, and its suggestions if none are (`storageOf`); a list without
types is a choice and a null is none.

`tableSchema_frame` compares two overrides that differ for one field of one kind at most
(`AgreeBut`), whatever report they are applied to. The schemas of all other kinds are the same,
and so is what is left of the schema of that kind when the property is taken away (`SameBut`).
The property is there if a field of that name has storage types in the group that counts for the
kind, which is the last one (`usedGroup?`).

Schemas are dictionaries of lists (`Entries.ofList`): what the list says of one key does not move
the others. So the comparison comes down to the lists, which agree field by field.
-/

namespace SearchDesk

namespace Schema

/-! ## Overrides -/

/-- Overrides as users write them: under the names of a kind and of a field a list of storage
types, or none for a null. -/
abbrev StorageChoices := Entries (Entries (Option (List StorageType)))

namespace StorageChoices

/-- What is chosen for a field, as JSON. -/
def choiceJson : Option (List StorageType) → Json
  | none => .null
  | some types => .arr (types.map StorageType.toWire)

/-- What is chosen for the fields of a kind, as JSON. -/
def choicesJson (choices : Entries (Option (List StorageType))) : Json :=
  .obj (choices.map fun c => (c.1, choiceJson c.2))

/-- The overrides as JSON. -/
def toJson (o : StorageChoices) : Json := .obj (o.map fun k => (k.1, choicesJson k.2))

/-- The storage types that are chosen for a field of a kind. -/
def chosen? (o : StorageChoices) (kind name : String) : Option (List StorageType) :=
  ((o.get? kind).bind fun choices => choices.get? name).join

/-- The storage types of a field of a kind: those that are chosen, or else its suggestions. -/
def storageOf (o : StorageChoices) (kind : String) (f : Field) : List StorageType :=
  (o.chosen? kind f.name).getD f.suggestions

/-- Overrides that choose the same everywhere but for one field of one kind. -/
def AgreeBut (kind name : String) (o o' : StorageChoices) : Prop :=
  ∀ kind' name', ¬(kind' = kind ∧ name' = name) → o.chosen? kind' name' = o'.chosen? kind' name'

end StorageChoices

open StorageChoices

/-! ## What is compared -/

/-- The group that a table is made of for a kind: the last one of the kind. -/
def usedGroup? (groups : List Group) (kind : String) : Option Group :=
  (groups.filter fun g => g.kindName = kind).getLast?

/-- The table has a property of the name for the kind. -/
def HasProperty (tables : Entries DocumentSchema) (kind name : String) : Prop :=
  ∃ schema, tables.get? kind = some schema ∧ name ∈ schema.keys

/-- Some field of the name has storage types in the group that counts for the kind. -/
def IsStoredUnder (o : StorageChoices) (groups : List Group) (kind name : String) : Prop :=
  ∃ g, usedGroup? groups kind = some g ∧ ∃ f ∈ g.fields, f.name = name ∧ o.storageOf kind f ≠ []

/-- Schemas of tables that differ in one property of one kind at most. -/
structure SameBut (kind name : String) (t t' : TableSchema) : Prop where
  kinds : t.documents.keys = t'.documents.keys
  defaultType : t.defaultType = t'.defaultType
  otherKinds : ∀ other, other ≠ kind → t.documents.get? other = t'.documents.get? other
  otherProperties : (t.documents.get? kind).map (Entries.erase name) =
    (t'.documents.get? kind).map (Entries.erase name)

/-! ## Reading overrides -/

theorem namedStorage_toWire (t : StorageType) : namedStorage t.toWire = .ok t := by
  have named : StorageType.ofJson? t.toWire = some t := StorageType.ofName?_name t
  rw [namedStorage, named]

theorem mapM_namedStorage (types : List StorageType) :
    (types.map StorageType.toWire).mapM namedStorage = .ok types := by
  induction types with
  | nil => rfl
  | cons t rest ih =>
    rw [List.map_cons, List.mapM_cons, namedStorage_toWire, ih]
    rfl

/-- A choice of storage types takes the place of the suggestions. -/
theorem effectiveStorage_choiceJson (f : Field) (choice : Option (List StorageType)) :
    effectiveStorage f (some (choiceJson choice)) = .ok (choice.getD f.suggestions) := by
  cases choice with
  | none => rfl
  | some types =>
    show overriddenStorage (.arr (types.map StorageType.toWire)) = .ok types
    cases types with
    | nil => rfl
    | cons t rest => exact mapM_namedStorage (t :: rest)

theorem storageUnder_choicesJson (choices : Entries (Option (List StorageType))) (f : Field) :
    storageUnder (choicesJson choices) f =
      .ok ((choices.get? f.name).join.getD f.suggestions) := by
  have found := Entries.get?_map (fun _ => choiceJson) f.name choices
  rw [choicesJson, storageUnder_obj, found]
  cases choices.get? f.name with
  | none => rfl
  | some choice => exact effectiveStorage_choiceJson f choice

/-- The schema of a group has a property for each field with storage types. -/
theorem schemaUnder_toJson (o : StorageChoices) (g : Group) :
    schemaUnder o.toJson g =
      .ok (Entries.ofList (propertiesWith (o.storageOf g.kindName) g.fields)) := by
  have found := Entries.get?_map (fun _ => choicesJson) g.kindName o
  rw [toJson, schemaUnder_obj, found]
  refine documentSchema_eq_ok_iff.mpr ⟨o.storageOf g.kindName, fun f _ => ?_, rfl⟩
  unfold storageOf chosen?
  cases o.get? g.kindName with
  | none => rfl
  | some choices => exact storageUnder_choicesJson choices f

/-! ## The table under overrides -/

/-- The schemas of groups under overrides. -/
def tablesUnder (o : StorageChoices) (groups : List Group) : Entries DocumentSchema :=
  Entries.ofList (groups.map fun g =>
    (g.kindName, Entries.ofList (propertiesWith (o.storageOf g.kindName) g.fields)))

theorem documentSchemas_toJson (o : StorageChoices) (groups : List Group) :
    documentSchemas groups o.toJson = .ok (tablesUnder o groups) :=
  documentSchemas_eq_ok_iff.mpr ⟨_, fun g _ => schemaUnder_toJson o g, rfl⟩

theorem keys_tablesUnder (o : StorageChoices) (groups : List Group) :
    (tablesUnder o groups).keys = (groups.map Group.kindName).eraseDups := by
  rw [tablesUnder, Entries.keys_ofList, Entries.keys, List.map_map]
  rfl

/-- In a dictionary that is made of groups a kind has what is made of its last group. -/
theorem get?_ofList_groups {α : Type} (make : Group → α) (groups : List Group) (kind : String) :
    Entries.get? kind (Entries.ofList (groups.map fun g => (g.kindName, make g))) =
      (usedGroup? groups kind).map make := by
  rw [Entries.get?_ofList, List.filter_map, List.getLast?_map, Option.map_map]
  rfl

theorem kindName_of_used {groups : List Group} {kind : String} {g : Group}
    (used : usedGroup? groups kind = some g) : g ∈ groups ∧ g.kindName = kind := by
  obtain ⟨here, own⟩ := List.mem_filter.mp (List.mem_of_getLast? used)
  exact ⟨here, of_decide_eq_true own⟩

theorem get?_tablesUnder (o : StorageChoices) (groups : List Group) (kind : String) :
    (tablesUnder o groups).get? kind = (usedGroup? groups kind).map fun g =>
      Entries.ofList (propertiesWith (o.storageOf kind) g.fields) := by
  rw [tablesUnder, get?_ofList_groups]
  refine Option.map_congr fun g used => ?_
  rw [(kindName_of_used used).2]

/-- A property is there if a field of its name has storage types. -/
theorem hasProperty_tablesUnder (o : StorageChoices) (groups : List Group) (kind name : String) :
    HasProperty (tablesUnder o groups) kind name ↔ IsStoredUnder o groups kind name := by
  unfold HasProperty IsStoredUnder
  rw [get?_tablesUnder]
  cases usedGroup? groups kind with
  | none => simp
  | some g => simp [mem_keys_propertiesWith]

/-! ## Two overrides -/

theorem filter_propertiesWith (types : Field → List StorageType) (fields : List Field)
    (name : String) :
    (propertiesWith types fields).filter (fun p => p.1 ≠ name) =
      propertiesWith types (fields.filter fun f => f.name ≠ name) := by
  unfold propertiesWith
  rw [List.filter_map, List.filter_filter, List.filter_filter]
  congr 1
  refine List.filter_congr fun f _ => ?_
  exact Bool.and_comm _ _

theorem propertiesWith_congr {types types' : Field → List StorageType} {fields : List Field}
    (same : ∀ f ∈ fields, types f = types' f) :
    propertiesWith types fields = propertiesWith types' fields := by
  have stored : fields.filter (fun f => !(types f).isEmpty) =
      fields.filter fun f => !(types' f).isEmpty := by
    refine List.filter_congr fun f here => ?_
    rw [same f here]
  unfold propertiesWith
  rw [stored]
  refine List.map_congr_left fun f here => ?_
  rw [same f (List.mem_filter.mp here).1]

section
variable {kind name : String} {o o' : StorageChoices}

theorem storageOf_of_agreeBut (agree : AgreeBut kind name o o') {kind' : String} {f : Field}
    (elsewhere : ¬(kind' = kind ∧ f.name = name)) : o.storageOf kind' f = o'.storageOf kind' f := by
  rw [storageOf, storageOf, agree kind' f.name elsewhere]

/-- Tables under overrides that agree elsewhere differ in one property of the kind at most. -/
theorem sameBut_tablesUnder (agree : AgreeBut kind name o o') (groups : List Group)
    (defaultKind : String) :
    SameBut kind name (.ofDocuments defaultKind (tablesUnder o groups))
      (.ofDocuments defaultKind (tablesUnder o' groups)) := by
  have kinds : (tablesUnder o groups).keys = (tablesUnder o' groups).keys := by
    rw [keys_tablesUnder, keys_tablesUnder]
  constructor
  · exact kinds
  · show defaultAmong defaultKind _ = defaultAmong defaultKind _
    rw [kinds]
  · intro other ne
    show (tablesUnder o groups).get? other = (tablesUnder o' groups).get? other
    rw [get?_tablesUnder, get?_tablesUnder]
    refine Option.map_congr fun g _ => ?_
    rw [propertiesWith_congr fun f _ => storageOf_of_agreeBut agree fun same => ne same.1]
  · show ((tablesUnder o groups).get? kind).map _ = ((tablesUnder o' groups).get? kind).map _
    rw [get?_tablesUnder, get?_tablesUnder, Option.map_map, Option.map_map]
    refine Option.map_congr fun g _ => ?_
    -- without the name, both lists have the properties of the other fields
    show Entries.erase name (Entries.ofList _) = Entries.erase name (Entries.ofList _)
    rw [Entries.erase_ofList, Entries.erase_ofList, filter_propertiesWith, filter_propertiesWith]
    congr 1
    refine propertiesWith_congr fun f here => storageOf_of_agreeBut agree fun same => ?_
    simpa [same.2] using (List.mem_filter.mp here).2

end

end Schema

namespace Work

open Schema Schema.StorageChoices

/-- **Overrides.** Overrides that differ for one field of one kind at most give tables that
differ in that property at most. Nothing is refused, and whether the property is there is told
by the fields of its name in the last group of the kind. -/
theorem tableSchema_frame (found : Report) {kind name : String} {o o' : StorageChoices}
    (agree : AgreeBut kind name o o') :
    ∃ tables tables' : Entries DocumentSchema,
      (∀ d, ((tableSchema found o.toJson).perform d).1 =
        (d.store.get.1.1.mapError Fault.load).map fun settings =>
          .ofDocuments settings.rules.defaultKind tables) ∧
      (∀ d, ((tableSchema found o'.toJson).perform d).1 =
        (d.store.get.1.1.mapError Fault.load).map fun settings =>
          .ofDocuments settings.rules.defaultKind tables') ∧
      (∀ defaultKind, SameBut kind name (.ofDocuments defaultKind tables)
        (.ofDocuments defaultKind tables')) ∧
      (HasProperty tables kind name ↔ IsStoredUnder o found.groups kind name) ∧
      (HasProperty tables' kind name ↔ IsStoredUnder o' found.groups kind name) := by
  refine ⟨tablesUnder o found.groups, tablesUnder o' found.groups, ?_, ?_, ?_, ?_, ?_⟩
  · exact perform_tableSchema (documentSchemas_toJson o found.groups)
  · exact perform_tableSchema (documentSchemas_toJson o' found.groups)
  · exact sameBut_tablesUnder agree found.groups
  · exact hasProperty_tablesUnder o found.groups kind name
  · exact hasProperty_tablesUnder o' found.groups kind name

/-- A field with the given suggestions. -/
def suggestedField (name : String) (suggestions : List StorageType) : Field :=
  ⟨name, .string, .null, .one, 1, suggestions⟩

/-- A report that repeats a kind, and a field of it. -/
def repeatedReport : Report where
  status := .ok
  groups := [⟨"item", [suggestedField "c" [.text]], 1⟩, ⟨"user", [suggestedField "a" [.text]], 1⟩,
    ⟨"item", [suggestedField "a" [.html], suggestedField "b" [.text], suggestedField "a" []], 1⟩]
  fields := []
  sampleCount := 3
  error := none

/-- Overrides that choose something for the field `b`. -/
def plainChoices : StorageChoices := [("item", [("b", some [.keyword, .text])])]

/-- The overrides above, with nothing to store for the field `a` of the kind. -/
def emptyChoices : StorageChoices :=
  [("user", [("a", none)]), ("item", [("a", some []), ("b", some [.keyword, .text])])]

/-- The suggestions of the first field `a` count, until an empty list takes their place. -/
theorem tableSchema_frame_repeatedReport :
    AgreeBut "item" "a" plainChoices emptyChoices ∧
      ∃ tables tables' : Entries DocumentSchema,
        (∀ d, ((tableSchema repeatedReport plainChoices.toJson).perform d).1 =
          (d.store.get.1.1.mapError Fault.load).map fun settings =>
            .ofDocuments settings.rules.defaultKind tables) ∧
        (∀ d, ((tableSchema repeatedReport emptyChoices.toJson).perform d).1 =
          (d.store.get.1.1.mapError Fault.load).map fun settings =>
            .ofDocuments settings.rules.defaultKind tables') ∧
        (∀ defaultKind, SameBut "item" "a" (.ofDocuments defaultKind tables)
          (.ofDocuments defaultKind tables')) ∧
        HasProperty tables "item" "a" ∧ ¬HasProperty tables' "item" "a" := by
  have agree : AgreeBut "item" "a" plainChoices emptyChoices := by
    intro kind name elsewhere
    by_cases item : kind = "item"
    · have other : "a" ≠ name := fun same => elsewhere ⟨item, same.symm⟩
      simp [chosen?, plainChoices, emptyChoices, Entries.get?, item, other]
    · by_cases user : "user" = kind <;> by_cases a : "a" = name <;>
        simp [chosen?, plainChoices, emptyChoices, Entries.get?, Ne.symm item, user, a]
  obtain ⟨tables, tables', made, made', same, kept, dropped⟩ :=
    tableSchema_frame repeatedReport agree
  refine ⟨agree, tables, tables', made, made', same, kept.mpr ?_, mt dropped.mp ?_⟩
  · exact ⟨_, rfl, suggestedField "a" [.html], List.mem_cons_self, rfl, by decide⟩
  · rintro ⟨g, -, f, -, named, stored⟩
    have chosen : emptyChoices.chosen? "item" f.name = some [] := by
      rw [named]
      rfl
    rw [storageOf, chosen] at stored
    exact stored rfl

end Work

end SearchDesk
