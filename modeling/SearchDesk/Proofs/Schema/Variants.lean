import SearchDesk.Proofs.Schema.Reading
import SearchDesk.Schema.Searchable

/-!
# Which variants storage types add

The searchable variants of a field with texts for storage types (`variantsOf`): nothing is wrong
with them (`searchableFields_texts`), and which of them there are is told by what is listed
(`mem_variations_iff`). A variant is told apart from the others by the field of the index that
it searches (`searchName_injective`).

`searchable_known_iff` compares the variants of a field with those that it has for its known
storage types alone. A storage type that is not known adds none, with one exception: it makes a
single `keyword` count as one type among several, and that adds the keyword sub-field.
-/

namespace SearchDesk.Schema

open Check Check.Checked

/-! ## Known names -/

/-- The known ones among the storage types of a field. -/
def knownAmong (storage : List String) : List String :=
  storage.filter fun name => name ∈ StorageType.names

theorem mem_knownAmong {t : StorageType} {storage : List String} :
    t.name ∈ knownAmong storage ↔ t.name ∈ storage := by
  rw [knownAmong, List.mem_filter]
  exact and_iff_left (decide_eq_true (StorageType.mem_names_iff.mpr ⟨t, rfl⟩))

/-- A list of texts has a storage type if its name is listed. -/
theorem any_ofJson?_iff {storage : List String} {t : StorageType} :
    ((storage.map Json.str).any fun v => StorageType.ofJson? v = some t) = true ↔
      t.name ∈ storage := by
  rw [List.any_map, List.any_eq_true]
  constructor
  · rintro ⟨name, here, found⟩
    have named : StorageType.ofName? name = some t := of_decide_eq_true found
    rw [StorageType.ofName?_eq_some_iff] at named
    rw [named]
    exact here
  · intro here
    exact ⟨t.name, here, decide_eq_true (StorageType.ofName?_name t)⟩

/-! ## The variants of a field -/

/-- The field of the index that a variation of a field searches. -/
def searchName (field : String) (v : Variation) : String := field ++ v.ending.getD ""

/-- The searchable field that is made of an offer. -/
def variantOf (field : String) (schemaTypes storage : List String) (o : Offer) :
    SearchableField where
  displayName := if o.labelled then field ++ " (" ++ o.variation.word ++ ")" else field
  searchField := searchName field o.variation
  schemaField := field
  schemaTypes := schemaTypes
  storageTypes := storage
  variation := o.variation

/-- The variations that are offered for storage types. -/
def variations (storage : List String) : List Variation :=
  (offers (storage.map .str)).map Offer.variation

/-- Storage types that call for a variation. -/
def CallFor (storage : List String) : Variation → Prop
  | .text => "text" ∈ storage ∨ storage = [] ∨ "search_as_you_type" ∈ storage
  | .keyword => 1 < storage.length ∧ "keyword" ∈ storage
  | .edgeNgram => "search_as_you_type" ∈ storage

theorem mem_variations_iff {storage : List String} {v : Variation} :
    v ∈ variations storage ↔ CallFor storage v := by
  have text : _ ↔ "text" ∈ storage := any_ofJson?_iff (t := .text)
  have keyword : _ ↔ "keyword" ∈ storage := any_ofJson?_iff (t := .keyword)
  have typed : _ ↔ "search_as_you_type" ∈ storage := any_ofJson?_iff (t := .searchAsYouType)
  have empty : (storage.map Json.str).isEmpty = true ↔ storage = [] := by simp
  simp only [variations, offers, Bool.or_eq_true, Bool.and_eq_true, decide_eq_true_eq, text,
    keyword, typed, empty, List.length_map]
  cases v with
  | text =>
    rw [CallFor]
    by_cases listed : "text" ∈ storage
    · simp [listed]
    · -- without it, text is offered for a field of no type, and next to edge n-grams
      simp only [listed, false_or, if_false]
      split_ifs <;> simp [*]
  | keyword =>
    rw [CallFor]
    split_ifs <;> simp [*]
  | edgeNgram =>
    rw [CallFor]
    split_ifs <;> simp [*]

theorem make_texts (field : String) (schemaTypes storage : List String) (o : Offer) :
    o.make (.str field) (.arr (schemaTypes.map .str)) (storage.map .str) =
      .valid (variantOf field schemaTypes storage o) := by
  have display : Check.text (o.displayName (.str field)) =
      .valid (variantOf field schemaTypes storage o).displayName := by
    unfold Offer.displayName variantOf
    cases o.labelled <;> rfl
  have search : Check.text (o.searchField (.str field)) =
      .valid (searchName field o.variation) := by
    unfold Offer.searchField searchName
    cases o.variation with
    | text => simp [Variation.ending, Check.text, view, viewJson]
    | keyword => rfl
    | edgeNgram => rfl
  have types : Check.list Check.text (Json.arr (schemaTypes.map .str)) = .valid schemaTypes :=
    list_map_self fun _ _ => rfl
  have stored : elements anyStorage 0 (storage.map .str) = .valid storage := by
    rw [elements_eq_valid_iff, List.forall₂_map_left_iff, List.forall₂_same]
    exact fun _ _ => rfl
  unfold Offer.make
  rw [display, search, types, stored]
  rfl

theorem searchableFields_texts (field : String) (schemaTypes storage : List String) :
    searchableFields (.str field) (.arr (schemaTypes.map .str)) (storage.map .str) =
      .valid ((offers (storage.map .str)).map (variantOf field schemaTypes storage)) := by
  unfold searchableFields
  induction offers (storage.map .str) with
  | nil => rfl
  | cons o rest ih =>
    rw [makeAll, make_texts, List.map_cons]
    show (makeAll _ _ _ rest).map _ = _
    rw [ih]
    rfl

/-! ## Known storage types alone -/

/-- Different variations search different fields of the index. -/
theorem searchName_injective (field : String) : Function.Injective (searchName field) := by
  have endings : ∀ v w : Variation, (v.ending.getD "").toList = (w.ending.getD "").toList →
      v = w := by
    intro v w
    cases v <;> cases w <;> decide
  intro v w same
  have ending := congrArg String.toList same
  rw [searchName, searchName, String.toList_append, String.toList_append,
    List.append_cancel_left_eq] at ending
  exact endings v w ending

theorem eq_keyword_iff {storage : List String} (listed : "keyword" ∈ storage) :
    storage = ["keyword"] ↔ ¬1 < storage.length := by
  cases storage with
  | nil => cases listed
  | cons name rest =>
    cases rest with
    | nil =>
      obtain rfl := List.mem_singleton.mp listed
      simp
    | cons other rest => simp

/-- A variation that storage types call for is called for by the known ones among them, but for
the keyword sub-field if a single `keyword` is left. -/
theorem callFor_knownAmong_iff {storage : List String} {v : Variation}
    (calls : CallFor storage v) :
    CallFor (knownAmong storage) v ↔ ¬(v = .keyword ∧ knownAmong storage = ["keyword"]) := by
  have text : "text" ∈ knownAmong storage ↔ _ := mem_knownAmong (t := .text)
  have keyword : "keyword" ∈ knownAmong storage ↔ _ := mem_knownAmong (t := .keyword)
  have typed : "search_as_you_type" ∈ knownAmong storage ↔ _ :=
    mem_knownAmong (t := .searchAsYouType)
  cases v with
  | text =>
    refine iff_of_true ?_ (by simp)
    rcases calls with listed | rfl | listed
    · exact .inl (text.mpr listed)
    · exact .inr (.inl rfl)
    · exact .inr (.inr (typed.mpr listed))
  | keyword =>
    have listed := keyword.mpr calls.2
    rw [eq_keyword_iff listed]
    simp [CallFor, listed]
  | edgeNgram => exact iff_of_true (typed.mpr calls) (by simp)

/-- A field has a variant with the search field of a variation if its storage types call for it. -/
theorem exists_variant_iff {field : String} {schemaTypes storage : List String} {v : Variation} :
    (∃ f ∈ (offers (storage.map .str)).map (variantOf field schemaTypes storage),
      f.searchField = searchName field v) ↔ CallFor storage v := by
  rw [← mem_variations_iff, variations]
  constructor
  · rintro ⟨f, here, same⟩
    obtain ⟨o, offered, rfl⟩ := List.mem_map.mp here
    obtain rfl : o.variation = v := searchName_injective field same
    exact List.mem_map_of_mem offered
  · intro here
    obtain ⟨o, offered, rfl⟩ := List.mem_map.mp here
    exact ⟨_, List.mem_map_of_mem offered, rfl⟩

/-- **Storage types that are not known.** What is searched for a field is searched for its known
storage types alone as well, unless these are a single `keyword` among several types. The only
field of the index that is then searched in addition is the keyword sub-field. -/
theorem searchable_known_iff (field : String) (schemaTypes storage : List String) :
    ∃ all known : List SearchableField,
      searchableFields (.str field) (.arr (schemaTypes.map .str)) (storage.map .str) =
        .valid all ∧
      searchableFields (.str field) (.arr (schemaTypes.map .str))
        ((knownAmong storage).map .str) = .valid known ∧
      ((∀ f ∈ all, ∃ g ∈ known, g.searchField = f.searchField) ↔
        ¬(knownAmong storage = ["keyword"] ∧ 1 < storage.length)) ∧
      ∀ f ∈ all, (∃ g ∈ known, g.searchField = f.searchField) ∨
        f.searchField = field ++ "__keyword" := by
  refine ⟨_, _, searchableFields_texts field schemaTypes storage,
    searchableFields_texts field schemaTypes (knownAmong storage), ?_, ?_⟩
  · constructor
    · rintro every ⟨single, several⟩
      have listed : "keyword" ∈ knownAmong storage := by simp [single]
      have calls : CallFor storage .keyword :=
        ⟨several, (mem_knownAmong (t := .keyword)).mp listed⟩
      obtain ⟨f, here, searches⟩ := exists_variant_iff.mpr calls
      have kept := every f here
      rw [searches, exists_variant_iff, callFor_knownAmong_iff calls] at kept
      exact kept ⟨rfl, single⟩
    · intro free f here
      obtain ⟨o, offered, rfl⟩ := List.mem_map.mp here
      have calls : CallFor storage o.variation :=
        mem_variations_iff.mp (List.mem_map_of_mem offered)
      refine exists_variant_iff.mpr ((callFor_knownAmong_iff calls).mpr ?_)
      rintro ⟨isKeyword, single⟩
      rw [isKeyword] at calls
      exact free ⟨single, calls.1⟩
  · intro f here
    obtain ⟨o, offered, rfl⟩ := List.mem_map.mp here
    have calls : CallFor storage o.variation :=
      mem_variations_iff.mp (List.mem_map_of_mem offered)
    by_cases isKeyword : o.variation = .keyword
    · refine .inr ?_
      show searchName field o.variation = _
      rw [isKeyword]
      rfl
    · exact .inl (exists_variant_iff.mpr ((callFor_knownAmong_iff calls).mpr fun lost =>
        isKeyword lost.1))

/-- Next to a type that is not known, a single `keyword` has a sub-field of its own. -/
theorem searchable_gains_keyword :
    knownAmong ["keyword", "custom_type"] = ["keyword"] ∧
      searchableFields (.str "sku") (.arr [.str "string"]) [.str "keyword"] = .valid [] ∧
      ∃ f, searchableFields (.str "sku") (.arr [.str "string"])
        [.str "keyword", .str "custom_type"] = .valid [f] ∧ f.searchField = "sku__keyword" := by
  refine ⟨by decide, rfl, _, rfl, by decide⟩

end SearchDesk.Schema
