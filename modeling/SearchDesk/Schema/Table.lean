import SearchDesk.Json.Display
import SearchDesk.Schema.Report

/-!
# Table schemas

A table schema says for each kind of document which properties it has and how they are
stored. It is made from a detection report:

* a field becomes a property with its storage types; a field without any is left out;
* the user may override the storage types of single fields, null meaning no override;
* the default type is the default kind of the settings if it was found, otherwise the first
  kind of the report, and the default kind again if there is none.

Where the report repeats a kind, or a kind repeats a field, the last one counts and keeps
the place of the first. An override that is no list of storage types is a fault.
-/

namespace SearchDesk.Schema

/-- Why a schema cannot be made. -/
inductive TableFault where
  | notIterable (shape : Json.Shape)
  | noLookup (shape : Json.Shape)
  | notAStorageType (value : Json)
deriving DecidableEq, Repr

/-- A property of a document schema. -/
structure Property where
  kind : Kind
  storage : List StorageType
deriving DecidableEq, Repr, Inhabited

/-- The properties of one kind of document, by name. -/
abbrev DocumentSchema := Entries Property

/-- The schema of a table. -/
structure TableSchema where
  documents : Entries DocumentSchema
  defaultType : String
deriving DecidableEq, Repr, Inhabited

/-! ## Making a schema -/

/-- The storage type that a value names. -/
def namedStorage (v : Json) : Except TableFault StorageType :=
  match StorageType.ofJson? v with
  | some t => .ok t
  | none => .error (.notAStorageType v)

/-- The storage types of an override: none if it is false, else those that it lists. -/
def overriddenStorage (v : Json) : Except TableFault (List StorageType) :=
  if v.holds then
    match v.elements? with
    | some names => names.mapM namedStorage
    | none => .error (.notIterable v.shape)
  else .ok []

/-- The storage types of a field under an override, which may be missing or null. -/
def effectiveStorage (field : Field) : Option Json → Except TableFault (List StorageType)
  | none => .ok field.suggestions
  | some .null => .ok field.suggestions
  | some v => overriddenStorage v

/-- The property of a field, if it has storage types. -/
def fieldProperty (field : Field) (override : Option Json) :
    Except TableFault (Option Property) := do
  let storage ← effectiveStorage field override
  return if storage.isEmpty then none else some ⟨field.kind, storage⟩

/-- The override for a name. A false value overrides nothing. -/
def overrideFor (overrides : Json) (name : String) : Except TableFault (Option Json) :=
  if overrides.holds then
    match overrides with
    | .obj ms => .ok (Entries.get? name ms)
    | v => .error (.noLookup v.shape)
  else .ok none

/-- Add the property of a field to a schema. -/
def addProperty (overrides : Json) (schema : DocumentSchema) (field : Field) :
    Except TableFault DocumentSchema := do
  match ← fieldProperty field (← overrideFor overrides field.name) with
  | some p => return schema.put field.name p
  | none => return schema

/-- The schema of one kind of document. -/
def documentSchema (fields : List Field) (overrides : Json) : Except TableFault DocumentSchema :=
  fields.foldlM (addProperty overrides) []

/-- Add the schema of a group to those of the groups before it. -/
def addDocuments (overrides : Json) (schemas : Entries DocumentSchema) (group : Group) :
    Except TableFault (Entries DocumentSchema) := do
  let own ← overrideFor overrides group.kindName
  return schemas.put group.kindName (← documentSchema group.fields (own.getD .null))

/-- The default type of a table whose documents have the given kinds. -/
def defaultAmong (defaultKind : String) (kinds : List String) : String :=
  if kinds.contains defaultKind then defaultKind else kinds.head?.getD defaultKind

/-- The schemas of the groups of a report, by kind of document. -/
def documentSchemas (groups : List Group) (overrides : Json) :
    Except TableFault (Entries DocumentSchema) :=
  groups.foldlM (addDocuments overrides) []

/-- The schema of a table with the given kinds of document. -/
def TableSchema.ofDocuments (defaultKind : String) (documents : Entries DocumentSchema) :
    TableSchema :=
  ⟨documents, defaultAmong defaultKind documents.keys⟩

/-- The schema of a table. -/
def tableSchema (defaultKind : String) (report : Report) (overrides : Json) :
    Except TableFault TableSchema := do
  return .ofDocuments defaultKind (← documentSchemas report.groups overrides)

/-! ## Writing a schema -/

/-- A property as JSON. -/
def Property.toJson (p : Property) : Json :=
  .obj ([("type", .str p.kind.name),
      ("x-antfly-types", .arr (p.storage.map fun t => .str t.name))]
    ++ if p.kind = .array then [("items", .obj [("type", .str "string")])] else [])

/-- A document schema as JSON. -/
def documentSchemaJson (d : DocumentSchema) : Json :=
  .obj [("schema", .obj [("type", .str "object"),
    ("properties", .obj (d.map fun p => (p.1, p.2.toJson)))])]

/-- A table schema as JSON. -/
def TableSchema.toJson (t : TableSchema) : Json :=
  .obj [("document_schemas", .obj (t.documents.map fun d => (d.1, documentSchemaJson d.2))),
    ("default_type", .str t.defaultType)]

/-- The message for a fault. -/
def TableFault.message : TableFault → String
  | .notIterable shape => "'" ++ shape.name ++ "' object is not iterable"
  | .noLookup shape => "'" ++ shape.name ++ "' object has no attribute 'get'"
  | .notAStorageType value => value.literal ++ " is not a valid StorageType"

end SearchDesk.Schema
