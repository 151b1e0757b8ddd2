import SearchDesk.Check.Value
import SearchDesk.Files.Directory
import SearchDesk.Schema.Detection
import SearchDesk.Text.Utf8
import SearchDesk.Yaml.Value

/-!
# Settings

The settings of the desk: how deep queries are made canonical, and how fields are detected.
They come from a configuration file with a section for each, and two environment variables
override one value each:

* `Settings.override` puts the integers of the environment into the data of the file, which
  keeps everything else of a section; a section that holds something other than a mapping
  cannot be overridden, unless it is empty or false;
* `Settings.ofData` checks the data and fills in defaults; unknown keys are ignored.

A setting lies in a section and is a scalar or a list of scalars, so what is nested deeper
in the file does not matter.

What is wrong is told by `LoadFault`: some faults name the place, some only the file.
-/

namespace SearchDesk

open Check

/-- The settings of the desk. -/
structure Settings where
  /-- Queries nested deeper than this are cut off. -/
  maxDepth : Nat := 50
  /-- How fields are detected. -/
  rules : Schema.Rules := {}
deriving DecidableEq, Repr, Inhabited

/-- Why settings cannot be loaded. -/
inductive LoadFault where
  | file (fault : Files.FileFault)
  | undecodable (fault : Utf8Fault)
  | unreadable (path : String) (fault : Yaml.Fault)
  | notAMapping (path : String)
  | notAnInteger (name text : String)
  | sectionNotAMapping (typeName : String)
  | keyNotText
  | invalid (issues : List Issue)
deriving DecidableEq, Repr

/-- The message of a fault. -/
def LoadFault.message : LoadFault → String
  | .file fault => fault.message
  | .undecodable fault => fault.message
  | .unreadable path .malformed => "Invalid YAML in " ++ path
  | .unreadable _ fault => fault.message
  | .notAMapping path => "Expected a mapping at the top of " ++ path
  | .notAnInteger name text => name ++ " must be an integer, got " ++ quoted text
  | .sectionNotAMapping typeName => "'" ++ typeName ++ "' object is not a mapping"
  | .keyNotText => "keywords must be strings"
  | .invalid _ => "Invalid vectordash-core settings"

/-- The variables of the environment that override settings. -/
structure Overrides where
  maxDepth : Option String := none
  sampleSize : Option String := none
deriving DecidableEq, Repr, Inhabited

/-- The data of a configuration file: a mapping. -/
abbrev ConfigData := List (Yaml.Scalar × Yaml.Value)

namespace ConfigData

/-- The value of a key that is a text. -/
def get? (name : String) (data : ConfigData) : Option Yaml.Value :=
  (data.find? fun p => p.1 = .str name).map (·.2)

/-- Give a key that is a text a value: in place if the key is present, else at the end. -/
def put (name : String) (value : Yaml.Value) : ConfigData → ConfigData
  | [] => [(.str name, value)]
  | (k, v) :: rest => if k = .str name then (k, value) :: rest else (k, v) :: put name value rest

/-- How deep settings lie: in the list of a setting in a section. -/
def depth : Nat := 3

/-- The data of a document. -/
def ofDocument (d : Yaml.Document) : ConfigData :=
  match d.valueTo depth d.root with
  | .map pairs => pairs
  | _ => []

end ConfigData

namespace Settings

/-- The name of the variable for the depth. -/
def maxDepthVariable : String := "VECTORDASH_MAX_QUERY_DEPTH"

/-- The name of the variable for the sample size. -/
def sampleSizeVariable : String := "VECTORDASH_SAMPLE_SIZE"

/-! ## Overrides -/

/-- The pairs of a section; one that is missing, empty or false has none. -/
def sectionPairs (name : String) (data : ConfigData) : Except LoadFault ConfigData :=
  match data.get? name with
  | none => .ok []
  | some (.map pairs) => .ok pairs
  | some v => if v.holds then .error (.sectionNotAMapping v.typeName) else .ok []

/-- The data with one integer of a section set from a variable of the environment, if it is set. -/
def overrideOne (name part key : String) (text : Option String) (data : ConfigData) :
    Except LoadFault ConfigData :=
  match text with
  | none => .ok data
  | some t =>
    match spelledInteger? t with
    | none => .error (.notAnInteger name t)
    | some n => do
      let pairs ← sectionPairs part data
      return data.put part (.map (ConfigData.put key (.scalar (.int n)) pairs))

/-- The data with the integers of the environment. -/
def override (env : Overrides) (data : ConfigData) : Except LoadFault ConfigData := do
  let data ← overrideOne maxDepthVariable "query" "max_depth" env.maxDepth data
  overrideOne sampleSizeVariable "detection" "sample_size" env.sampleSize data

/-! ## Checking -/

section
variable {α : Type} [Viewable α]

/-- The depth from the members of its section. -/
def checkQuery (v : α) : Checked Nat :=
  (record "QuerySettings" v).andThen (defaulted ⟨"max_depth", "max_depth"⟩ 50 natural)

/-- The rules of detection from the members of a record. -/
def checkRules (ms : Entries α) : Checked Schema.Rules :=
  Schema.Rules.mk
    <$> defaulted ⟨"sample_size", "sample_size"⟩ 50
      (fun v => (integerAbove 0 v).map Int.toNat) ms
    <*> defaulted ⟨"kind_field", "kind_field"⟩ "_type" text ms
    <*> defaulted ⟨"default_kind", "default_kind"⟩ "default" text ms
    <*> defaulted ⟨"internal_prefix", "internal_prefix"⟩ "_" text ms
    <*> defaulted ⟨"reserved_fields", "reserved_fields"⟩
      ["_type", "_id", "_embeddings", "_summaries"] (list text) ms

/-- The rules of detection from their section. -/
def checkDetection (v : α) : Checked Schema.Rules :=
  (record "DetectionSettings" v).andThen checkRules

/-- The settings from the members of a record. -/
def check (ms : Entries α) : Checked Settings :=
  Settings.mk <$> defaulted ⟨"query", "query"⟩ 50 checkQuery ms
    <*> defaulted ⟨"detection", "detection"⟩ {} checkDetection ms

end

/-- The settings from the data of a file. -/
def ofData (data : ConfigData) : Except LoadFault Settings :=
  if data.all fun p => match p.1 with
    | .str _ => true
    | _ => false
  then
    match check (Yaml.Value.named data) with
    | .valid s => .ok s
    | .invalid issues => .error (.invalid issues)
  else .error .keyNotText

/-- The settings from the data of a file and the environment. -/
def load (env : Overrides) (data : ConfigData) : Except LoadFault Settings := do
  ofData (← override env data)

end Settings

end SearchDesk
