import SearchDesk.Json.Equality
import SearchDesk.Schema.Kind
import SearchDesk.Schema.Storage

/-!
# Detection reports

The result of detecting fields in a sample of documents: the fields of each kind of
document, the fields over the whole sample, and whether there was a sample at all.

A field carries the kind of the first value seen, an example, the share of the documents
that have it, the number of documents that the share refers to, and the storage types
that suit it.
-/

namespace SearchDesk.Schema

/-- A field that was found in a sample. -/
structure Field where
  name : String
  kind : Kind
  /-- The first value that is not null. -/
  exampleValue : Json
  /-- The share of the documents that have the field. -/
  frequency : Binary64
  /-- The number of documents that the share refers to. -/
  sampleCount : Nat
  /-- The storage types that suit the field, the best one first. -/
  suggestions : List StorageType
deriving DecidableEq, Repr, Inhabited

/-- The fields of one kind of document. -/
structure Group where
  /-- The kind of document. -/
  kindName : String
  /-- The fields, the most frequent one first. -/
  fields : List Field
  /-- The number of documents of the kind. -/
  docCount : Nat
deriving DecidableEq, Repr, Inhabited

/-- Whether there was a sample. -/
inductive Status where
  | ok | noDocuments
deriving DecidableEq, Repr, Inhabited

namespace Status

/-- Both outcomes, in the order in which messages list them. -/
def all : List Status := [ok, noDocuments]

/-- The name of an outcome. -/
def name : Status → String
  | ok => "ok"
  | noDocuments => "no_documents"

/-- The outcome that a value names. -/
def ofJson? : Json → Option Status
  | .str s => all.find? fun x => x.name = s
  | _ => none

end Status

/-- The result of a detection. -/
structure Report where
  status : Status
  /-- The fields of each kind of document, in the order in which the kinds were met. -/
  groups : List Group
  /-- The fields over the whole sample. -/
  fields : List Field
  /-- The number of documents in the sample. -/
  sampleCount : Nat
  /-- Why nothing was detected. -/
  error : Option String
deriving DecidableEq, Repr, Inhabited

namespace Report

/-- Whether there was a sample. -/
def foundDocuments (r : Report) : Bool := r.status = .ok

/-- The first group of a kind of document. -/
def group? (r : Report) (kindName : String) : Option Group :=
  r.groups.find? fun g => g.kindName = kindName

end Report

end SearchDesk.Schema
