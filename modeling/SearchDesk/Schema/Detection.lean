import SearchDesk.Query.Build
import SearchDesk.Schema.Report
import SearchDesk.Schema.Suggestion

/-!
# Detecting fields in a sample of documents

`detect` walks once over a sample and counts the fields of every document, for the whole
sample and for each kind of document:

* a document is an object; other entries of the sample count for its size only;
* the kind of a document is the text under the discriminating field, or a default;
* internal and reserved fields are not counted;
* a field has the kind of its first value, and its example is the first value that is
  not null;
* fields are listed by falling count, fields of equal count in the order in which they
  were first seen.

An empty sample gives a report that says so, and no fields.
-/

namespace SearchDesk.Schema

/-- How fields are detected. -/
structure Rules where
  /-- How many documents are fetched for a sample. -/
  sampleSize : Nat := 50
  /-- The field that tells the kind of a document. -/
  kindField : String := "_type"
  /-- The kind of a document that does not tell. -/
  defaultKind : String := "default"
  /-- How the names of internal fields begin. -/
  internalStart : String := "_"
  /-- The fields that are never counted. -/
  reserved : List String := ["_type", "_id", "_embeddings", "_summaries"]
deriving DecidableEq, Repr, Inhabited

namespace Rules

/-- Whether a field is left out of the count. -/
def excludes (r : Rules) (name : String) : Bool :=
  r.internalStart.toList.isPrefixOf name.toList || r.reserved.contains name

/-- The kind of a document. -/
def kindOf (r : Rules) (doc : Members) : String :=
  match doc.get? r.kindField with
  | some (.str s) => if s = "" then r.defaultKind else s
  | _ => r.defaultKind

end Rules

/-! ## Counting -/

/-- What is known of a field while the sample is walked. -/
structure Tally where
  name : String
  kind : Kind
  exampleValue : Json
  count : Nat
deriving DecidableEq, Repr, Inhabited

namespace Tally

/-- The tally of a field after its first value. -/
def first (name : String) (value : Json) : Tally := ⟨name, classify value, value, 1⟩

/-- The tally after one more value. -/
def again (t : Tally) (value : Json) : Tally :=
  { t with
    count := t.count + 1
    exampleValue := if t.exampleValue.isNull then value else t.exampleValue }

/-- Count one value of a field; a new field goes to the end. -/
def add (name : String) (value : Json) : List Tally → List Tally
  | [] => [first name value]
  | t :: rest => if t.name = name then t.again value :: rest else t :: add name value rest

/-- Count the fields of a document. -/
def addDocument (rules : Rules) (seen : List Tally) (doc : Members) : List Tally :=
  doc.foldl (fun acc m => if rules.excludes m.1 then acc else add m.1 m.2 acc) seen

/-- The field of a tally, with respect to a number of documents. -/
def toField (docCount : Nat) (t : Tally) : Field where
  name := t.name
  kind := t.kind
  exampleValue := t.exampleValue
  frequency := Binary64.ofRatio false t.count docCount
  sampleCount := docCount
  suggestions := suggest t.kind t.exampleValue

/-- The fields of all tallies, by falling count. -/
def summarize (seen : List Tally) (docCount : Nat) : List Field :=
  (seen.mergeSort fun a b => b.count ≤ a.count).map (toField docCount)

end Tally

/-- What is known of one kind of document while the sample is walked. -/
structure KindTally where
  kindName : String
  docCount : Nat
  seen : List Tally
deriving DecidableEq, Repr, Inhabited

namespace KindTally

/-- Count one document of a kind; a new kind goes to the end. -/
def add (rules : Rules) (kindName : String) (doc : Members) : List KindTally → List KindTally
  | [] => [⟨kindName, 1, Tally.addDocument rules [] doc⟩]
  | k :: rest =>
    if k.kindName = kindName then
      { k with docCount := k.docCount + 1, seen := Tally.addDocument rules k.seen doc } :: rest
    else k :: add rules kindName doc rest

/-- The group of a kind. -/
def toGroup (k : KindTally) : Group :=
  ⟨k.kindName, Tally.summarize k.seen k.docCount, k.docCount⟩

end KindTally

/-- What a detection reports while it runs. -/
inductive DetectionNotice where
  | noDocuments
  | skipped (shape : Json.Shape)
  | detected (fields kinds documents : Nat)
deriving DecidableEq, Repr

/-- The message for an empty sample. -/
def noDocumentsMessage : String := "No documents found in table"

/-- The message of a notice. -/
def DetectionNotice.message : DetectionNotice → String
  | .noDocuments => noDocumentsMessage
  | .skipped shape => "Skipping non-object document of type " ++ shape.name
  | .detected fields kinds documents =>
    "Detected " ++ Nat.repr fields ++ " fields across " ++ Nat.repr kinds
      ++ " document kinds from " ++ Nat.repr documents ++ " sampled documents"

/-- The state of a walk over a sample. -/
structure Walk where
  kinds : List KindTally := []
  overall : List Tally := []
  notices : List DetectionNotice := []
deriving Inhabited

/-- Walk over one entry of the sample. -/
def Walk.step (rules : Rules) (w : Walk) : Json → Walk
  | .obj doc =>
    { w with
      kinds := KindTally.add rules (rules.kindOf doc) doc w.kinds
      overall := Tally.addDocument rules w.overall doc }
  | v => { w with notices := w.notices ++ [.skipped v.shape] }

/-- The report of a finished walk over a sample of the given size. -/
def Walk.report (w : Walk) (sampleCount : Nat) : Report where
  status := .ok
  groups := w.kinds.map KindTally.toGroup
  fields := Tally.summarize w.overall sampleCount
  sampleCount := sampleCount
  error := none

/-- The report of an empty sample. -/
def Report.empty : Report where
  status := .noDocuments
  groups := []
  fields := []
  sampleCount := 0
  error := some noDocumentsMessage

/-- The report of a sample, with the notices. -/
def detectNoted (rules : Rules) (sample : List Json) : Report × List DetectionNotice :=
  if sample.isEmpty then (.empty, [.noDocuments])
  else
    let w := sample.foldl (Walk.step rules) {}
    let r := w.report sample.length
    (r, w.notices ++ [.detected r.fields.length r.groups.length sample.length])

/-- The report of a sample. -/
def detect (rules : Rules) (sample : List Json) : Report := (detectNoted rules sample).1

/-- The request that fetches a sample: every document, up to a limit. -/
def sampleRequest (limit : Json) : Json :=
  .obj [("full_text_search", Query.matchAll .null), ("limit", limit)]

end SearchDesk.Schema
