import SearchDesk.Desk.Configuration
import SearchDesk.Schema.Detection
import SearchDesk.Schema.Sample
import SearchDesk.Schema.Table

/-!
# Working on samples at the desk

The rules of detection are those of the settings, unless others are given, and they are
looked up even for an empty sample. The default kind of a table schema is always the one of
the settings, and it is looked up after the overrides have been read.
-/

namespace SearchDesk

open Schema
open Logging (Level)

/-- The level at which a notice of a detection is reported. -/
def Schema.DetectionNotice.level : DetectionNotice → Level
  | .skipped _ => .debug
  | .noDocuments => .info
  | .detected .. => .info

namespace Work

/-- The documents of hits. -/
def documentsOfHits (hits : List Json) : Work (List Json) := do
  (hitNotices hits).forM fun n => report .detection .debug n.message
  return Schema.documentsOfHits hits

/-- The sample of documents in a payload. -/
def sampleDocuments (payload : Json) : Work (List Json) :=
  match Payload.ofJson payload with
  | .documents docs => pure docs
  | .hits hits => documentsOfHits hits

/-- The rules of detection in force. -/
def rulesOr : Option Rules → Work Rules
  | some r => pure r
  | none => do return (← settings).rules

/-- The report of a sample. -/
def detect (rules : Option Rules) (sample : List Json) : Work Report := do
  let (found, notices) := detectNoted (← rulesOr rules) sample
  notices.forM fun n => report .detection n.level n.message
  return found

/-- The request that fetches a sample; without a limit it has the size that the settings
name. -/
def sampleRequest (limit : Json) : Work Json :=
  match limit with
  | .null => do return Schema.sampleRequest (.int (← settings).rules.sampleSize)
  | limit => pure (Schema.sampleRequest limit)

/-- The schema of a table. -/
def tableSchema (found : Report) (overrides : Json) : Work TableSchema := do
  let documents ← ofExcept .table (documentSchemas found.groups overrides)
  return .ofDocuments (← settings).rules.defaultKind documents

end Work

end SearchDesk
