import SearchDesk.Json.Printer
import SearchDesk.Schema.Preview
import SearchDesk.Schema.Report

/-!
# Listings of detected fields

A listing is a table of texts that shows the fields of one kind of document to a reader: a
title, the heads of the columns, and a row for each field. A share is shown as a whole number
of percent, an example is cut to fifty characters, and a hyphen stands for no suggestion.

How a listing is laid out is left to the screen that shows it: `Listing.line` is the listing as
data on one line.
-/

namespace SearchDesk.Schema

/-- A table of texts. -/
structure Listing where
  title : String
  columns : List String
  rows : List (List String)
deriving DecidableEq, Repr, Inhabited

/-- How much of an example a listing shows. -/
def exampleWidth : Int := 50

/-- The suggestions of a field in a listing. -/
def Field.suggestionsText (f : Field) : String :=
  if f.suggestions.isEmpty then "-" else ", ".intercalate (f.suggestions.map StorageType.name)

/-- The row of a field. -/
def Field.row (f : Field) : List String :=
  [f.name, f.kind.name, percentText f.frequency, f.suggestionsText,
    preview exampleWidth f.exampleValue]

/-- The listing of a group. -/
def Group.listing (g : Group) : Listing where
  title := g.kindName ++ " (" ++ Nat.repr g.docCount ++ " documents)"
  columns := ["Field", "Type", "Frequency", "Suggested", "Example"]
  rows := g.fields.map Field.row

namespace Listing

/-- A list of texts as JSON. -/
def textsJson (texts : List String) : Json := .arr (texts.map .str)

/-- A listing as JSON. -/
def toJson (l : Listing) : Json :=
  .obj [("title", .str l.title), ("columns", textsJson l.columns),
    ("rows", .arr (l.rows.map textsJson))]

/-- A listing on one line. -/
def line (l : Listing) : String := "TABLE " ++ l.toJson.compact

end Listing

end SearchDesk.Schema
