import SearchDesk.Check.Value
import SearchDesk.Json.Display

/-!
# Searchable variants of a field

The ways in which a field picker offers a field for searching:

* a field that is stored as text, or in no known way at all, is searched under its name;
* a field with several storage types, one of them keyword, has a keyword sub-field;
* search-as-you-type adds an edge n-gram sub-field and implies text.

Storage types that are not known are kept but add no variant, except that they count when
several are needed. The parameters may be any JSON values; they are checked when a variant
is made, and not before.
-/

namespace SearchDesk.Schema

open Check

/-- How a field is searched. -/
inductive Variation where
  | text | keyword | edgeNgram
deriving DecidableEq, Repr, Inhabited

namespace Variation

/-- The name of a variation. -/
def name : Variation → String
  | text => "text"
  | keyword => "keyword"
  | edgeNgram => "2gram"

/-- The word for a variation in a display name. -/
def word : Variation → String
  | text => "text"
  | keyword => "keyword"
  | edgeNgram => "edgegram"

/-- What a variation appends to the field name; text adds nothing. -/
def ending : Variation → Option String
  | text => none
  | keyword => some "__keyword"
  | edgeNgram => some "__2gram"

end Variation

/-- A variation that is offered, and whether its display name tells it. -/
structure Offer where
  variation : Variation
  labelled : Bool
deriving DecidableEq, Repr, Inhabited

/-- The variations of a field with the given storage types, in display order. -/
def offers (storage : List Json) : List Offer :=
  let has (t : StorageType) : Bool := storage.any fun v => StorageType.ofJson? v = some t
  let several := decide (1 < storage.length)
  (if has .text || storage.isEmpty then [⟨.text, several⟩] else [])
    ++ (if several && has .keyword then [⟨.keyword, true⟩] else [])
    ++ (if has .searchAsYouType then
        ⟨.edgeNgram, true⟩ :: if has .text then [] else [⟨.text, true⟩]
      else [])

/-- One way of searching a field. -/
structure SearchableField where
  displayName : String
  searchField : String
  schemaField : String
  schemaTypes : List String
  storageTypes : List String
  variation : Variation
deriving DecidableEq, Repr, Inhabited

/-- The display name of an offer. -/
def Offer.displayName (o : Offer) (field : Json) : Json :=
  if o.labelled then .str (field.plain ++ " (" ++ o.variation.word ++ ")") else field

/-- The field of the index that an offer searches. -/
def Offer.searchField (o : Offer) (field : Json) : Json :=
  match o.variation.ending with
  | some e => .str (field.plain ++ e)
  | none => field

/-- A storage type, known or not; what is no text is neither. -/
def anyStorage : Json → Checked String
  | .str s => .valid s
  | _ => .invalid
    [⟨["str-enum[StorageType]"], .notOneOf (StorageType.all.map StorageType.name)⟩,
      ⟨["str"], .notText⟩]

/-- The searchable field of an offer. -/
def Offer.make (o : Offer) (field schemaTypes : Json) (storage : List Json) :
    Checked SearchableField :=
  SearchableField.mk <$> (Check.text (o.displayName field)).under "display_name"
    <*> (Check.text (o.searchField field)).under "search_field"
    <*> (Check.text field).under "original_field"
    <*> (Check.list Check.text schemaTypes).under "schema_types"
    <*> (Checked.elements anyStorage 0 storage).under "storage_types"
    <*> .valid o.variation

/-- The searchable fields of all offers, or the issues of the first one that has any. -/
def makeAll (field schemaTypes : Json) (storage : List Json) :
    List Offer → Checked (List SearchableField)
  | [] => .valid []
  | o :: rest =>
    (o.make field schemaTypes storage).andThen fun f =>
      (makeAll field schemaTypes storage rest).map (f :: ·)

/-- The searchable variants of a field. -/
def searchableFields (field schemaTypes : Json) (storage : List Json) :
    Checked (List SearchableField) :=
  makeAll field schemaTypes storage (offers storage)

/-- A searchable field as JSON. -/
def SearchableField.toJson (f : SearchableField) : Json :=
  .obj [("display_name", .str f.displayName), ("search_field", .str f.searchField),
    ("original_field", .str f.schemaField), ("schema_types", .arr (f.schemaTypes.map .str)),
    ("storage_types", .arr (f.storageTypes.map .str)), ("variation", .str f.variation.name)]

/-! ## Fields that are not text -/

/-- The display entry of a field that is not text. -/
structure BasicField where
  displayName : String
  fieldName : String
  schemaType : String
deriving DecidableEq, Repr, Inhabited

/-- The display entry of a field that is not text. -/
def basicField (field schemaType : Json) : Checked BasicField :=
  BasicField.mk (field.plain ++ " (" ++ schemaType.plain ++ ")")
    <$> (Check.text field).under "field_name"
    <*> (Check.text schemaType).under "schema_type"

/-- A display entry as JSON. -/
def BasicField.toJson (f : BasicField) : Json :=
  .obj [("display_name", .str f.displayName), ("field_name", .str f.fieldName),
    ("schema_type", .str f.schemaType)]

end SearchDesk.Schema
