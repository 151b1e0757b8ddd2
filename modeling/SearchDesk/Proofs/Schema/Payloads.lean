import Mathlib.Data.List.Forall2
import SearchDesk.Proofs.Desk.Storeless

/-!
# The shapes of a payload

The documents of a sample come as a list, as a list of hits or in a response. `Sampled` says what
each payload is read as, one case for each shape and one for the payloads that have none:

* a list without `_source` anywhere is a list of documents, and they are the sample;
* any other list is a list of hits, also where an entry is no hit;
* a response has its hits in its first item, below whatever else it holds;
* any other payload is an empty sample.

A hit stands for its document (`SourceOf`), so a sample has one entry for each entry of a list.
`sampleDocuments_eq_iff` says that every payload is read so and in no other way, and
`sampleDocuments_of_carries` that documents are the same sample in each of the shapes.
-/

namespace SearchDesk

namespace Schema

/-- The entry of a sample that a hit stands for: its document, or null if it has none. -/
inductive SourceOf : Json → Json → Prop
  | document {hit doc : Members} (source : hit.get? "_source" = some (.obj doc)) :
      SourceOf (.obj hit) (.obj doc)
  | missing {hit : Json}
      (none : ∀ (ms doc : Members), hit = .obj ms → ms.get? "_source" ≠ some (.obj doc)) :
      SourceOf hit .null

/-- The entry is an object with the key of a document. -/
def HasSource (entry : Json) : Prop := ∃ ms : Members, entry = .obj ms ∧ "_source" ∈ ms.keys

/-- The response has the hits in its first item. -/
inductive Responds (hits : List Json) : Json → Prop
  | intro {response first outer : Members} {others : List Json}
      (responses : response.get? "responses" = some (.arr (.obj first :: others)))
      (outerHits : first.get? "hits" = some (.obj outer))
      (innerHits : outer.get? "hits" = some (.arr hits)) : Responds hits (.obj response)

/-- What a payload is read as. -/
inductive Sampled : Json → List Json → Prop
  | documents {entries : List Json} (plain : ∀ v ∈ entries, ¬HasSource v) :
      Sampled (.arr entries) entries
  | hits {entries sample : List Json} (marked : ∃ v ∈ entries, HasSource v)
      (sources : List.Forall₂ SourceOf entries sample) : Sampled (.arr entries) sample
  | response {response : Json} {hits sample : List Json} (responds : Responds hits response)
      (sources : List.Forall₂ SourceOf hits sample) : Sampled response sample
  | other {payload : Json} (noList : ∀ entries, payload ≠ .arr entries)
      (noHits : ∀ hits, ¬Responds hits payload) : Sampled payload []

/-- The payload holds the documents in one of the three shapes. -/
inductive Carries (docs : List Members) : Json → Prop
  | documents : Carries docs (.arr (docs.map .obj))
  | hits {hits : List Json} (sources : List.Forall₂ SourceOf hits (docs.map .obj)) :
      Carries docs (.arr hits)
  | response {response : Json} {hits : List Json} (responds : Responds hits response)
      (sources : List.Forall₂ SourceOf hits (docs.map .obj)) : Carries docs response

/-! ## Looking things up -/

theorem memberOf?_eq_some_iff {key : String} {v w : Json} :
    memberOf? key v = some w ↔ ∃ ms : Members, v = .obj ms ∧ ms.get? key = some w := by
  cases v <;> simp [memberOf?]

theorem firstItem?_eq_some_iff {v w : Json} :
    firstItem? v = some w ↔ ∃ others, v = .arr (w :: others) := by
  unfold firstItem?
  split <;> simp_all

theorem hasSource_iff {v : Json} : HasSource v ↔ isHit v = true := by
  cases v with
  | obj ms =>
    rw [isHit, memberOf?, ← Entries.has_iff_get?_isSome]
    simp [HasSource, Entries.has, Entries.keys]
  | _ => simp [HasSource, isHit, memberOf?]

theorem responds_iff {response : Json} {hits : List Json} :
    Responds hits response ↔
      (memberOf? "responses" response >>= firstItem? >>= memberOf? "hits" >>= memberOf? "hits") =
        some (.arr hits) := by
  constructor
  · rintro ⟨responses, outerHits, innerHits⟩
    simp only [memberOf?, responses, firstItem?, outerHits, innerHits, Option.bind_eq_bind,
      Option.bind_some]
  · intro found
    simp only [Option.bind_eq_bind, Option.bind_eq_some_iff] at found
    obtain ⟨outer, ⟨first, ⟨items, responses, head⟩, outerHits⟩, innerHits⟩ := found
    obtain ⟨ms, rfl, responses⟩ := memberOf?_eq_some_iff.mp responses
    obtain ⟨others, rfl⟩ := firstItem?_eq_some_iff.mp head
    obtain ⟨item, rfl, outerHits⟩ := memberOf?_eq_some_iff.mp outerHits
    obtain ⟨record, rfl, innerHits⟩ := memberOf?_eq_some_iff.mp innerHits
    exact ⟨responses, outerHits, innerHits⟩

/-! ## Hits -/

theorem documentOfHit?_eq_some_iff {hit v : Json} :
    documentOfHit? hit = some v ↔
      ∃ ms doc : Members, hit = .obj ms ∧ ms.get? "_source" = some (.obj doc) ∧ v = .obj doc := by
  unfold documentOfHit?
  constructor
  · intro found
    split at found
    · next doc source =>
      obtain ⟨ms, rfl, source⟩ := memberOf?_eq_some_iff.mp source
      exact ⟨ms, doc, rfl, source, (Option.some.inj found).symm⟩
    · cases found
  · rintro ⟨ms, doc, rfl, source, rfl⟩
    rw [memberOf?, source]

theorem sourceOf_iff {hit v : Json} : SourceOf hit v ↔ (documentOfHit? hit).getD .null = v := by
  constructor
  · intro source
    cases source with
    | @document ms doc source =>
      rw [documentOfHit?_eq_some_iff.mpr ⟨ms, doc, rfl, source, rfl⟩, Option.getD_some]
    | missing none =>
      have noDocument : documentOfHit? hit = .none := by
        rw [Option.eq_none_iff_forall_ne_some]
        intro w found
        obtain ⟨ms, doc, same, source, -⟩ := documentOfHit?_eq_some_iff.mp found
        exact none ms doc same source
      rw [noDocument, Option.getD_none]
  · rintro rfl
    cases found : documentOfHit? hit with
    | some w =>
      obtain ⟨ms, doc, rfl, source, rfl⟩ := documentOfHit?_eq_some_iff.mp found
      exact .document source
    | none =>
      refine .missing fun ms doc same source => ?_
      rw [documentOfHit?_eq_some_iff.mpr ⟨ms, doc, same, source, rfl⟩] at found
      cases found

/-- One entry for each hit, in order. -/
theorem forall₂_sourceOf_iff {hits sample : List Json} :
    List.Forall₂ SourceOf hits sample ↔ documentsOfHits hits = sample := by
  have same : SourceOf = fun hit v => (documentOfHit? hit).getD .null = v :=
    funext₂ fun _ _ => propext sourceOf_iff
  rw [same, documentsOfHits, ← List.forall₂_map_left_iff, List.forall₂_eq_eq_eq]

/-- Hits of documents have a document each. -/
theorem exists_document {hits : List Json} {docs : List Members}
    (sources : List.Forall₂ SourceOf hits (docs.map .obj)) :
    ∀ hit ∈ hits, ∃ doc : Members, documentOfHit? hit = some (.obj doc) := by
  rw [List.forall₂_map_right_iff] at sources
  induction sources with
  | nil => exact List.forall_mem_nil _
  | @cons hit doc _ _ head _ ih =>
    refine List.forall_mem_cons.mpr ⟨⟨doc, ?_⟩, ih⟩
    cases head with
    | document source => exact documentOfHit?_eq_some_iff.mpr ⟨_, doc, rfl, source, rfl⟩

/-- They go unnoticed. -/
theorem hitNotices_eq_nil {hits : List Json} {docs : List Members}
    (sources : List.Forall₂ SourceOf hits (docs.map .obj)) : hitNotices hits = [] := by
  rw [hitNotices, List.map_eq_nil_iff, List.filter_eq_nil_iff]
  intro hit here
  obtain ⟨doc, found⟩ := exists_document sources hit here
  rw [found]
  simp

/-! ## Payloads -/

theorem any_isHit_iff {entries : List Json} :
    entries.any isHit = true ↔ ∃ v ∈ entries, HasSource v := by
  simp only [List.any_eq_true, hasSource_iff]

theorem ofJson_of_plain {entries : List Json} (plain : ∀ v ∈ entries, ¬HasSource v) :
    Payload.ofJson (.arr entries) = .documents entries := by
  have unmarked : ¬entries.any isHit = true := by
    intro marked
    obtain ⟨v, here, source⟩ := any_isHit_iff.mp marked
    exact plain v here source
  rw [Payload.ofJson, if_neg unmarked]

theorem ofJson_of_marked {entries : List Json} (marked : ∃ v ∈ entries, HasSource v) :
    Payload.ofJson (.arr entries) = .hits entries := by
  rw [Payload.ofJson, if_pos (any_isHit_iff.mpr marked)]

theorem ofJson_of_responds {response : Json} {hits : List Json} (responds : Responds hits response) :
    Payload.ofJson response = .hits hits := by
  have found := responds_iff.mp responds
  obtain ⟨responses, outerHits, innerHits⟩ := responds
  rw [Payload.ofJson, responseHits, found]

theorem sampleDocuments_of_not_responds {payload : Json}
    (noList : ∀ entries, payload ≠ .arr entries) (noHits : ∀ hits, ¬Responds hits payload) :
    sampleDocuments payload = [] := by
  cases payload with
  | arr entries => exact absurd rfl (noList entries)
  | obj ms =>
    have none : responseHits (.obj ms) = [] := by
      unfold responseHits
      split
      · next hits found => exact absurd (responds_iff.mpr found) (noHits hits)
      · rfl
    rw [sampleDocuments, Payload.ofJson, none]
    rfl
  | _ => rfl

/-- A payload is read in one of the four ways. -/
theorem sampled_sampleDocuments (payload : Json) : Sampled payload (sampleDocuments payload) := by
  by_cases list : ∃ entries, payload = .arr entries
  · obtain ⟨entries, rfl⟩ := list
    by_cases marked : ∃ v ∈ entries, HasSource v
    · rw [sampleDocuments, ofJson_of_marked marked]
      exact .hits marked (forall₂_sourceOf_iff.mpr rfl)
    · have plain : ∀ v ∈ entries, ¬HasSource v := fun v here source => marked ⟨v, here, source⟩
      rw [sampleDocuments, ofJson_of_plain plain]
      exact .documents plain
  · by_cases response : ∃ hits, Responds hits payload
    · obtain ⟨hits, responds⟩ := response
      rw [sampleDocuments, ofJson_of_responds responds]
      exact .response responds (forall₂_sourceOf_iff.mpr rfl)
    · have noList := not_exists.mp list
      have noHits := not_exists.mp response
      rw [sampleDocuments_of_not_responds noList noHits]
      exact .other noList noHits

/-- And in no other. -/
theorem sampleDocuments_eq_iff {payload : Json} {sample : List Json} :
    sampleDocuments payload = sample ↔ Sampled payload sample := by
  constructor
  · rintro rfl
    exact sampled_sampleDocuments payload
  · intro sampled
    cases sampled with
    | documents plain => rw [sampleDocuments, ofJson_of_plain plain, Payload.sample]
    | hits marked sources =>
      rw [sampleDocuments, ofJson_of_marked marked]
      exact forall₂_sourceOf_iff.mp sources
    | response responds sources =>
      rw [sampleDocuments, ofJson_of_responds responds]
      exact forall₂_sourceOf_iff.mp sources
    | other noList noHits => exact sampleDocuments_of_not_responds noList noHits

/-- What carries documents is read as the documents, or as hits of them. -/
theorem ofJson_of_carries {docs : List Members} {payload : Json}
    (plain : ∀ doc ∈ docs, "_source" ∉ doc.keys) (carries : Carries docs payload) :
    Payload.ofJson payload = .documents (docs.map .obj) ∨
      ∃ hits, Payload.ofJson payload = .hits hits ∧ List.Forall₂ SourceOf hits (docs.map .obj) := by
  cases carries with
  | documents =>
    refine .inl (ofJson_of_plain fun v here source => ?_)
    obtain ⟨doc, listed, rfl⟩ := List.mem_map.mp here
    obtain ⟨_, same, key⟩ := source
    obtain rfl := Json.obj.inj same
    exact plain doc listed key
  | @hits hits sources =>
    cases hits with
    | nil =>
      -- no hits are no documents, and then the list is read as one of documents
      rw [List.forall₂_nil_left_iff.mp sources]
      exact .inl rfl
    | cons hit rest =>
      obtain ⟨doc, found⟩ := exists_document sources hit List.mem_cons_self
      obtain ⟨ms, _, rfl, source, -⟩ := documentOfHit?_eq_some_iff.mp found
      refine .inr ⟨_, ofJson_of_marked ⟨_, List.mem_cons_self, ms, rfl, ?_⟩, sources⟩
      exact List.mem_map_of_mem (Entries.mem_of_get? source)
  | response responds sources => exact .inr ⟨_, ofJson_of_responds responds, sources⟩

end Schema

namespace Work

open Schema

theorem Gives.sampleDocuments (payload : Json) :
    Gives (sampleDocuments payload) (.ok (Schema.sampleDocuments payload)) := by
  unfold Work.sampleDocuments Schema.sampleDocuments
  cases Payload.ofJson payload with
  | documents docs => exact .pure docs
  | hits hits =>
    exact .bind (.forM_report .detection (fun _ => .debug) HitNotice.message (hitNotices hits))
      (.pure _)

/-- Documents are the same sample in each of the shapes, and nothing is reported. -/
theorem sampleDocuments_of_carries {docs : List Members} {payload : Json}
    (plain : ∀ doc ∈ docs, "_source" ∉ doc.keys) (carries : Carries docs payload) :
    sampleDocuments payload = pure (docs.map .obj) := by
  rw [sampleDocuments]
  rcases ofJson_of_carries plain carries with read | ⟨hits, read, sources⟩
  · rw [read]
  · rw [read]
    show Work.documentsOfHits hits = _
    rw [Work.documentsOfHits, hitNotices_eq_nil sources, forall₂_sourceOf_iff.mp sources]
    rfl

/-- **Shapes of a payload.** Documents are the same sample in each of the shapes, and detected as
if they had come as they are. Every payload is read in one of the ways of `Sampled`, in no other,
and without a fault. -/
theorem sampleDocuments_shapes :
    (∀ docs payload, (∀ doc ∈ docs, "_source" ∉ doc.keys) → Carries docs payload →
      sampleDocuments payload = pure (docs.map .obj) ∧
        ∀ rules, (sampleDocuments payload >>= detect rules) = detect rules (docs.map .obj)) ∧
      ∀ payload, ∃ sample, (∀ d, ((sampleDocuments payload).perform d).1 = .ok sample) ∧
        ∀ other, Sampled payload other ↔ other = sample := by
  constructor
  · intro docs payload plain carries
    have read := sampleDocuments_of_carries plain carries
    refine ⟨read, fun rules => ?_⟩
    rw [read, pure_bind]
  · intro payload
    refine ⟨_, (Gives.sampleDocuments payload).outcome, fun other => ?_⟩
    rw [← sampleDocuments_eq_iff, eq_comm]

/-- A document. -/
def noteDocument : Members := [("title", .str "note")]

/-- A hit of the document. -/
def noteHit : Json := .obj [("_id", .str "7"), ("_source", .obj noteDocument)]

/-- A response with the hit. -/
def noteResponse : Json :=
  .obj [("took", .int 3),
    ("responses", .arr [.obj [("hits", .obj [("total", .int 1), ("hits", .arr [noteHit])])], .null])]

/-- A response and a list give the document, and a list with a hit among other entries gives null
for those. -/
theorem sampleDocuments_shapes_noteDocument :
    Carries [noteDocument] noteResponse ∧
      sampleDocuments noteResponse = pure [.obj noteDocument] ∧
      sampleDocuments (.arr [.obj noteDocument]) = pure [.obj noteDocument] ∧
      ∀ d, ((sampleDocuments (.arr [.obj noteDocument, noteHit, .int 4])).perform d).1 =
        .ok [.null, .obj noteDocument, .null] := by
  have plain : ∀ doc ∈ [noteDocument], "_source" ∉ doc.keys := by decide
  have source : List.Forall₂ SourceOf [noteHit] [.obj noteDocument] := .cons (.document rfl) .nil
  have response : Carries [noteDocument] noteResponse := .response (.intro rfl rfl rfl) source
  obtain ⟨shapes, every⟩ := sampleDocuments_shapes
  refine ⟨response, (shapes _ _ plain response).1, (shapes _ _ plain .documents).1, fun d => ?_⟩
  obtain ⟨sample, read, unique⟩ := every (.arr [.obj noteDocument, noteHit, .int 4])
  have mixed : Sampled (.arr [.obj noteDocument, noteHit, .int 4])
      [.null, .obj noteDocument, .null] := sampleDocuments_eq_iff.mp rfl
  rw [read d, (unique _).mp mixed]

end Work

end SearchDesk
