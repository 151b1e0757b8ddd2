import SearchDesk.Json.Basic

/-!
# Samples of documents

Where the documents of a sample come from. A payload is a list of documents, a list of
search hits, or a query response with hits under `responses[0].hits.hits`; a list is read
as hits if any entry carries `_source`. A hit gives its document, or null if its `_source`
is no object, so a sample has as many entries as there are hits. Any other payload is an
empty sample.
-/

namespace SearchDesk.Schema

/-- A hit without a document was counted. -/
structure HitNotice where
deriving DecidableEq, Repr

/-- The message of the notice. -/
def HitNotice.message (_ : HitNotice) : String :=
  "Counting hit without a _source object as an empty entry"

/-- The value of a key, if the value is an object that has it. -/
def memberOf? (key : String) : Json → Option Json
  | .obj ms => Entries.get? key ms
  | _ => none

/-- The document of a hit. -/
def documentOfHit? (hit : Json) : Option Json :=
  match memberOf? "_source" hit with
  | some (.obj ms) => some (.obj ms)
  | _ => none

/-- The documents of hits, null for a hit without one. -/
def documentsOfHits (hits : List Json) : List Json :=
  hits.map fun hit => (documentOfHit? hit).getD .null

/-- One notice for each hit without a document. -/
def hitNotices (hits : List Json) : List HitNotice :=
  (hits.filter fun hit => (documentOfHit? hit).isNone).map fun _ => {}

/-- Whether an entry is a search hit. -/
def isHit (entry : Json) : Bool := (memberOf? "_source" entry).isSome

/-- The first item of a list. -/
def firstItem? : Json → Option Json
  | .arr (v :: _) => some v
  | _ => none

/-- The hits of a query response; a damaged response has none. -/
def responseHits (response : Json) : List Json :=
  match memberOf? "responses" response >>= firstItem? >>= memberOf? "hits" >>= memberOf? "hits" with
  | some (.arr hits) => hits
  | _ => []

/-- What a payload is read as. -/
inductive Payload where
  | documents (docs : List Json)
  | hits (hits : List Json)

/-- The reading of a payload. -/
def Payload.ofJson : Json → Payload
  | .obj ms => .hits (responseHits (.obj ms))
  | .arr entries => if entries.any isHit then .hits entries else .documents entries
  | _ => .documents []

/-- The documents of a payload. -/
def Payload.sample : Payload → List Json
  | documents docs => docs
  | hits hs => documentsOfHits hs

/-- The notices that reading the documents of a payload leaves. -/
def Payload.notices : Payload → List HitNotice
  | documents _ => []
  | hits hs => hitNotices hs

/-- The sample of documents in a payload. -/
def sampleDocuments (payload : Json) : List Json := (Payload.ofJson payload).sample

end SearchDesk.Schema
