import SearchDesk.Json.Basic

/-!
# Storage types

The ways in which the search engine can store and index a field, with the names that a
schema uses and the labels that a reader sees.
-/

namespace SearchDesk.Schema

/-- A way of storing and indexing a field. -/
inductive StorageType where
  | text | keyword | html | numeric | boolean | datetime | geopoint | geoshape | embedding
  | link | blob | searchAsYouType
deriving DecidableEq, Repr, Inhabited

namespace StorageType

/-- All storage types, in the order in which messages list them. -/
def all : List StorageType :=
  [text, keyword, html, numeric, boolean, datetime, geopoint, geoshape, embedding, link, blob,
    searchAsYouType]

/-- The name of a storage type in a schema. -/
def name : StorageType → String
  | text => "text"
  | keyword => "keyword"
  | html => "html"
  | numeric => "numeric"
  | boolean => "boolean"
  | datetime => "datetime"
  | geopoint => "geopoint"
  | geoshape => "geoshape"
  | embedding => "embedding"
  | link => "link"
  | blob => "blob"
  | searchAsYouType => "search_as_you_type"

/-- The label of a storage type. -/
def label : StorageType → String
  | text => "Text"
  | keyword => "Keyword"
  | html => "HTML"
  | numeric => "Numeric"
  | boolean => "Boolean"
  | datetime => "Datetime"
  | geopoint => "Geo Point"
  | geoshape => "Geo Shape"
  | embedding => "Embedding"
  | link => "Link"
  | blob => "Blob"
  | searchAsYouType => "Search as You Type"

/-- The storage type with a name. -/
def ofName? (name : String) : Option StorageType := all.find? fun t => t.name = name

/-- The storage type that a value names. -/
def ofJson? : Json → Option StorageType
  | .str s => ofName? s
  | _ => none

end StorageType

end SearchDesk.Schema
