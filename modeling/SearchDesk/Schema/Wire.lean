import SearchDesk.Check.Value
import SearchDesk.Schema.Report

/-!
# The wire form of a report

Reports travel as JSON objects with camel-case keys. `object` writes a report, a group or
a field; numbers that are not finite have no wire form inside an example and are written as
null. `toWire` gives the object, unless an example has more levels than a wire form may have.

`check` reads a report, a group or a field back. It also takes the keys in snake case, the
camel-case one first if both are present, ignores keys that it does not know, and is lenient
on numbers as `Check` describes.
-/

namespace SearchDesk.Schema

/-! ## Writing -/

/-- Why something has no wire form. -/
inductive WireFault where
  | tooManyLevels
deriving DecidableEq, Repr

/-- The message of a fault. -/
def WireFault.message : WireFault → String
  | .tooManyLevels => "Circular reference detected (depth exceeded)"

/-- The most levels that an example may have. -/
def wireLevels : Nat := 255

/-- Storage types by name. -/
def StorageType.toWire (t : StorageType) : Json := .str t.name

/-- A field as an object. -/
def Field.object (f : Field) : Json :=
  .obj [("name", .str f.name), ("inferredType", .str f.kind.name),
    ("exampleValue", f.exampleValue.finiteOnly), ("frequency", .float f.frequency),
    ("sampleCount", .int f.sampleCount),
    ("suggestedTypes", .arr (f.suggestions.map StorageType.toWire))]

/-- A group as an object. -/
def Group.object (g : Group) : Json :=
  .obj [("typeName", .str g.kindName), ("fields", .arr (g.fields.map Field.object)),
    ("docCount", .int g.docCount)]

/-- A report as an object. -/
def Report.object (r : Report) : Json :=
  .obj [("status", .str r.status.name), ("groups", .arr (r.groups.map Group.object)),
    ("fields", .arr (r.fields.map Field.object)), ("sampleCount", .int r.sampleCount),
    ("error", match r.error with
      | some e => .str e
      | none => .null)]

/-- Whether the example of a field has few enough levels. -/
def Field.fits (f : Field) : Bool := f.exampleValue.levels ≤ wireLevels

/-- Whether the examples of a group have few enough levels. -/
def Group.fits (g : Group) : Bool := g.fields.all Field.fits

/-- Whether the examples of a report have few enough levels. -/
def Report.fits (r : Report) : Bool := r.groups.all Group.fits && r.fields.all Field.fits

/-- An object that fits as a wire form. -/
def wired (fits : Bool) (object : Json) : Except WireFault Json :=
  if fits then .ok object else .error .tooManyLevels

/-- The wire form of a field. -/
def Field.toWire (f : Field) : Except WireFault Json := wired f.fits f.object

/-- The wire form of a group. -/
def Group.toWire (g : Group) : Except WireFault Json := wired g.fits g.object

/-- The wire form of a report. -/
def Report.toWire (r : Report) : Except WireFault Json := wired r.fits r.object

/-! ## Reading -/

open Check

/-- The outcome of a detection by its name. -/
def Status.check (v : Json) : Checked Status :=
  match Status.ofJson? v with
  | some s => .valid s
  | none => .fail (.notOneOf (Status.all.map Status.name))

/-- A field from the members of an object. -/
def Field.ofMembers (ms : Members) : Checked Field :=
  Field.mk <$> required ⟨"name", "name"⟩ Check.text ms
    <*> required ⟨"inferredType", "inferred_type"⟩ Check.kind ms
    <*> defaulted ⟨"exampleValue", "example_value"⟩ .null Checked.valid ms
    <*> required ⟨"frequency", "frequency"⟩ Check.share ms
    <*> required ⟨"sampleCount", "sample_count"⟩ Check.natural ms
    <*> defaulted ⟨"suggestedTypes", "suggested_types"⟩ [] (Check.list Check.storageType) ms

/-- A field from a value. -/
def Field.check (v : Json) : Checked Field :=
  (Check.record "DetectedField" v).andThen Field.ofMembers

/-- A group from the members of an object. -/
def Group.ofMembers (ms : Members) : Checked Group :=
  Group.mk <$> required ⟨"typeName", "type_name"⟩ Check.text ms
    <*> defaulted ⟨"fields", "fields"⟩ [] (Check.list Field.check) ms
    <*> required ⟨"docCount", "doc_count"⟩ Check.natural ms

/-- A group from a value. -/
def Group.check (v : Json) : Checked Group :=
  (Check.record "DetectionGroup" v).andThen Group.ofMembers

/-- A report from the members of an object. -/
def Report.ofMembers (ms : Members) : Checked Report :=
  Report.mk <$> required ⟨"status", "status"⟩ Status.check ms
    <*> defaulted ⟨"groups", "groups"⟩ [] (Check.list Group.check) ms
    <*> defaulted ⟨"fields", "fields"⟩ [] (Check.list Field.check) ms
    <*> defaulted ⟨"sampleCount", "sample_count"⟩ 0 natural ms
    <*> defaulted ⟨"error", "error"⟩ none optionalText ms

/-- A report from a value. -/
def Report.check (v : Json) : Checked Report :=
  (Check.record "DetectionResult" v).andThen Report.ofMembers

end SearchDesk.Schema
