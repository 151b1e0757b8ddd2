import SearchDesk.Proofs.Check.Valid
import SearchDesk.Proofs.Number.Share
import SearchDesk.Schema.Wire

/-!
# Reading the records of a report

What a report, a group and a field come to when they are read from the members of a record.

* `Field.ofMembers_eq_valid_iff` and its like take a record apart into its fields;
* `Field.ofMembers_of_find` and its like put one together: a record that holds the values of a
  field under either of their names is read as that field, if the frequency is a share;
* `Report.Sound` says that all frequencies of a report are shares. Every report that was read
  is sound (`Report.sound_of_check`), and the record made of the `parameters` of a report is
  read as the report if the report is sound (`Report.ofMembers_parameters`).
-/

namespace SearchDesk

open Check Check.Checked

namespace Schema

/-! ## Names of kinds and storage types -/

theorem Kind.ofName?_name (k : Kind) : Kind.ofName? k.name = some k := by
  cases k <;> rfl

theorem StorageType.ofName?_name (t : StorageType) : StorageType.ofName? t.name = some t := by
  cases t <;> rfl

/-- The names of all storage types. -/
def StorageType.names : List String := StorageType.all.map StorageType.name

theorem StorageType.mem_names_iff {name : String} :
    name ∈ names ↔ ∃ t : StorageType, t.name = name := by
  rw [names, List.mem_map]
  exact exists_congr fun t => and_iff_right (by cases t <;> decide)

theorem StorageType.ofName?_eq_some_iff {name : String} {t : StorageType} :
    ofName? name = some t ↔ t.name = name := by
  constructor
  · intro found
    have named := List.find?_some found
    exact of_decide_eq_true named
  · rintro rfl
    exact ofName?_name t

theorem StorageType.ofName?_eq_none_iff {name : String} : ofName? name = none ↔ name ∉ names := by
  rw [mem_names_iff, Option.eq_none_iff_forall_ne_some]
  simp only [ne_eq, ofName?_eq_some_iff, not_exists]

theorem Status.ofJson?_name (s : Status) : Status.ofJson? (.str s.name) = some s := by
  cases s <;> rfl

theorem Kind.check_name (k : Kind) : Check.kind (.str k.name) = .valid k := by
  have named : Kind.ofJson? (.str k.name) = some k := Kind.ofName?_name k
  rw [Check.kind, named]

theorem StorageType.check_toWire (t : StorageType) : Check.storageType t.toWire = .valid t := by
  have named : StorageType.ofJson? t.toWire = some t := StorageType.ofName?_name t
  rw [Check.storageType, named]

theorem Status.check_name (s : Status) : Status.check (.str s.name) = .valid s := by
  rw [Status.check, Status.ofJson?_name]

/-! ## Numbers -/

theorem natural_int (n : Nat) : Check.natural (.int n : Json) = .valid n := by
  have read : Check.integer (.int n : Json) = .valid (n : Int) := rfl
  rw [Check.natural, read, andThen, if_pos (Int.natCast_nonneg n), Int.toNat_natCast]

/-- A share is a number that is at most one and at least zero. -/
theorem share_eq_valid_iff {v : Json} {x : Binary64} :
    Check.share v = .valid x ↔ Check.number v = .valid x ∧ x.InUnit := by
  rw [Check.share, andThen_eq_valid_iff]
  constructor
  · rintro ⟨y, read, bounded⟩
    cases atMost : Binary64.le y .one with
    | false => simp [atMost, fail] at bounded
    | true =>
      cases atLeast : Binary64.le .zero y with
      | false => simp [atMost, atLeast, fail] at bounded
      | true =>
        simp only [atMost, atLeast, Bool.not_true, Bool.false_eq_true, if_false,
          valid.injEq] at bounded
        subst bounded
        exact ⟨read, atMost, atLeast⟩
  · rintro ⟨read, atMost, atLeast⟩
    refine ⟨x, read, ?_⟩
    rw [atMost, atLeast]
    rfl

theorem share_float {x : Binary64} (share : x.InUnit) : Check.share (.float x) = .valid x :=
  share_eq_valid_iff.mpr ⟨rfl, share⟩

/-! ## Lists -/

/-- A list whose elements are read as `shown` is read as the list of those. -/
theorem list_map {α β : Type} {write : α → Json} {check : Json → Checked β} {shown : α → β}
    {items : List α} (read : ∀ a ∈ items, check (write a) = .valid (shown a)) :
    Check.list check (.arr (items.map write)) = .valid (items.map shown) := by
  rw [list_eq_valid_iff]
  refine ⟨items.map write, rfl, ?_⟩
  rw [List.forall₂_map_left_iff, List.forall₂_map_right_iff, List.forall₂_same]
  exact read

/-- A list whose elements are read back is read back. -/
theorem list_map_self {α : Type} {write : α → Json} {check : Json → Checked α} {items : List α}
    (read : ∀ a ∈ items, check (write a) = .valid a) :
    Check.list check (.arr (items.map write)) = .valid items := by
  have all : Check.list check (.arr (items.map write)) = .valid (items.map id) := list_map read
  rwa [List.map_id] at all

theorem list_toWire (ts : List StorageType) :
    Check.list Check.storageType (.arr (ts.map StorageType.toWire)) = .valid ts :=
  list_map_self fun t _ => StorageType.check_toWire t

/-- Every element of a list that was read came from a value that was read as it. -/
theorem exists_check_of_mem {β : Type} {name : FieldName} {check : Json → Checked β}
    {ms : Members} {values : List β}
    (read : defaulted name [] (Check.list check) ms = .valid values) {b : β} (here : b ∈ values) :
    ∃ v, check v = .valid b := by
  rcases defaulted_eq_valid_iff.mp read with ⟨v, -, list⟩ | ⟨-, rfl⟩
  · obtain ⟨items, -, both⟩ := list_eq_valid_iff.mp list
    exact exists_valid_of_mem both here
  · cases here

/-! ## Fields -/

/-- A record is read as a field if each of its members is read as a part of the field. -/
theorem Field.ofMembers_eq_valid_iff {ms : Members} {f : Field} :
    Field.ofMembers ms = .valid f ↔
      required ⟨"name", "name"⟩ Check.text ms = .valid f.name ∧
      required ⟨"inferredType", "inferred_type"⟩ Check.kind ms = .valid f.kind ∧
      defaulted ⟨"exampleValue", "example_value"⟩ .null Checked.valid ms =
        .valid f.exampleValue ∧
      required ⟨"frequency", "frequency"⟩ Check.share ms = .valid f.frequency ∧
      required ⟨"sampleCount", "sample_count"⟩ Check.natural ms = .valid f.sampleCount ∧
      defaulted ⟨"suggestedTypes", "suggested_types"⟩ [] (Check.list Check.storageType) ms =
        .valid f.suggestions := by
  unfold Field.ofMembers
  simp only [seq_eq_valid_iff, map_eq_valid_iff]
  constructor
  · rintro ⟨_, _, ⟨_, _, ⟨_, _, ⟨_, _, ⟨_, _, ⟨_, name, rfl⟩, kind, rfl⟩, value, rfl⟩, share, rfl⟩,
      count, rfl⟩, types, rfl⟩
    exact ⟨name, kind, value, share, count, types⟩
  · rintro ⟨name, kind, value, share, count, types⟩
    exact ⟨_, _, ⟨_, _, ⟨_, _, ⟨_, _, ⟨_, _, ⟨_, name, rfl⟩, kind, rfl⟩, value, rfl⟩, share, rfl⟩,
      count, rfl⟩, types, rfl⟩

theorem Field.ofMembers_of_find {ms : Members} {f : Field}
    (name : FieldName.find? ⟨"name", "name"⟩ ms = some (.str f.name))
    (kind : FieldName.find? ⟨"inferredType", "inferred_type"⟩ ms = some (.str f.kind.name))
    (value : FieldName.find? ⟨"exampleValue", "example_value"⟩ ms = some f.exampleValue)
    (frequency : FieldName.find? ⟨"frequency", "frequency"⟩ ms = some (.float f.frequency))
    (count : FieldName.find? ⟨"sampleCount", "sample_count"⟩ ms = some (.int f.sampleCount))
    (types : FieldName.find? ⟨"suggestedTypes", "suggested_types"⟩ ms =
      some (.arr (f.suggestions.map StorageType.toWire)))
    (share : f.frequency.InUnit) : Field.ofMembers ms = .valid f := by
  rw [Field.ofMembers_eq_valid_iff]
  refine ⟨?_, ?_, ?_, ?_, ?_, ?_⟩
  · exact required_eq_valid_iff.mpr ⟨_, name, rfl⟩
  · exact required_eq_valid_iff.mpr ⟨_, kind, Kind.check_name f.kind⟩
  · exact defaulted_eq_valid_iff.mpr (.inl ⟨_, value, rfl⟩)
  · exact required_eq_valid_iff.mpr ⟨_, frequency, share_float share⟩
  · exact required_eq_valid_iff.mpr ⟨_, count, natural_int _⟩
  · exact defaulted_eq_valid_iff.mpr (.inl ⟨_, types, list_toWire _⟩)

theorem Field.check_eq_valid_iff {v : Json} {f : Field} :
    Field.check v = .valid f ↔ ∃ ms, v = .obj ms ∧ Field.ofMembers ms = .valid f := by
  simp only [Field.check, andThen_eq_valid_iff, record_eq_valid_iff]

/-- The frequency of a field that was read is a share. -/
theorem Field.inUnit_of_check {v : Json} {f : Field} (read : Field.check v = .valid f) :
    f.frequency.InUnit := by
  obtain ⟨ms, -, members⟩ := Field.check_eq_valid_iff.mp read
  obtain ⟨-, -, -, share, -, -⟩ := Field.ofMembers_eq_valid_iff.mp members
  obtain ⟨v, -, valid⟩ := required_eq_valid_iff.mp share
  exact (share_eq_valid_iff.mp valid).2

/-! ## Groups -/

theorem Group.ofMembers_eq_valid_iff {ms : Members} {g : Group} :
    Group.ofMembers ms = .valid g ↔
      required ⟨"typeName", "type_name"⟩ Check.text ms = .valid g.kindName ∧
      defaulted ⟨"fields", "fields"⟩ [] (Check.list Field.check) ms = .valid g.fields ∧
      required ⟨"docCount", "doc_count"⟩ Check.natural ms = .valid g.docCount := by
  unfold Group.ofMembers
  simp only [seq_eq_valid_iff, map_eq_valid_iff]
  constructor
  · rintro ⟨_, _, ⟨_, _, ⟨_, kind, rfl⟩, fields, rfl⟩, count, rfl⟩
    exact ⟨kind, fields, count⟩
  · rintro ⟨kind, fields, count⟩
    exact ⟨_, _, ⟨_, _, ⟨_, kind, rfl⟩, fields, rfl⟩, count, rfl⟩

theorem Group.ofMembers_of_find {ms : Members} {g : Group} {items : List Json}
    (kind : FieldName.find? ⟨"typeName", "type_name"⟩ ms = some (.str g.kindName))
    (fields : FieldName.find? ⟨"fields", "fields"⟩ ms = some (.arr items))
    (count : FieldName.find? ⟨"docCount", "doc_count"⟩ ms = some (.int g.docCount))
    (read : Check.list Field.check (.arr items) = .valid g.fields) :
    Group.ofMembers ms = .valid g := by
  rw [Group.ofMembers_eq_valid_iff]
  refine ⟨?_, ?_, ?_⟩
  · exact required_eq_valid_iff.mpr ⟨_, kind, rfl⟩
  · exact defaulted_eq_valid_iff.mpr (.inl ⟨_, fields, read⟩)
  · exact required_eq_valid_iff.mpr ⟨_, count, natural_int _⟩

theorem Group.check_eq_valid_iff {v : Json} {g : Group} :
    Group.check v = .valid g ↔ ∃ ms, v = .obj ms ∧ Group.ofMembers ms = .valid g := by
  simp only [Group.check, andThen_eq_valid_iff, record_eq_valid_iff]

/-! ## Reports -/

theorem Report.ofMembers_eq_valid_iff {ms : Members} {r : Report} :
    Report.ofMembers ms = .valid r ↔
      required ⟨"status", "status"⟩ Status.check ms = .valid r.status ∧
      defaulted ⟨"groups", "groups"⟩ [] (Check.list Group.check) ms = .valid r.groups ∧
      defaulted ⟨"fields", "fields"⟩ [] (Check.list Field.check) ms = .valid r.fields ∧
      defaulted ⟨"sampleCount", "sample_count"⟩ 0 Check.natural ms = .valid r.sampleCount ∧
      defaulted ⟨"error", "error"⟩ none optionalText ms = .valid r.error := by
  unfold Report.ofMembers
  simp only [seq_eq_valid_iff, map_eq_valid_iff]
  constructor
  · rintro ⟨_, _, ⟨_, _, ⟨_, _, ⟨_, _, ⟨_, status, rfl⟩, groups, rfl⟩, fields, rfl⟩, count, rfl⟩,
      error, rfl⟩
    exact ⟨status, groups, fields, count, error⟩
  · rintro ⟨status, groups, fields, count, error⟩
    exact ⟨_, _, ⟨_, _, ⟨_, _, ⟨_, _, ⟨_, status, rfl⟩, groups, rfl⟩, fields, rfl⟩, count, rfl⟩,
      error, rfl⟩

/-- A text that may be missing, as a value. -/
def optionalTextJson : Option String → Json
  | some s => .str s
  | none => .null

theorem Report.ofMembers_of_find {ms : Members} {r : Report} {groups fields : List Json}
    (status : FieldName.find? ⟨"status", "status"⟩ ms = some (.str r.status.name))
    (hasGroups : FieldName.find? ⟨"groups", "groups"⟩ ms = some (.arr groups))
    (hasFields : FieldName.find? ⟨"fields", "fields"⟩ ms = some (.arr fields))
    (count : FieldName.find? ⟨"sampleCount", "sample_count"⟩ ms = some (.int r.sampleCount))
    (error : FieldName.find? ⟨"error", "error"⟩ ms = some (optionalTextJson r.error))
    (readGroups : Check.list Group.check (.arr groups) = .valid r.groups)
    (readFields : Check.list Field.check (.arr fields) = .valid r.fields) :
    Report.ofMembers ms = .valid r := by
  have readError : optionalText (optionalTextJson r.error) = .valid r.error := by
    cases r.error <;> rfl
  rw [Report.ofMembers_eq_valid_iff]
  refine ⟨?_, ?_, ?_, ?_, ?_⟩
  · exact required_eq_valid_iff.mpr ⟨_, status, Status.check_name _⟩
  · exact defaulted_eq_valid_iff.mpr (.inl ⟨_, hasGroups, readGroups⟩)
  · exact defaulted_eq_valid_iff.mpr (.inl ⟨_, hasFields, readFields⟩)
  · exact defaulted_eq_valid_iff.mpr (.inl ⟨_, count, natural_int _⟩)
  · exact defaulted_eq_valid_iff.mpr (.inl ⟨_, error, readError⟩)

theorem Report.check_eq_valid_iff {v : Json} {r : Report} :
    Report.check v = .valid r ↔ ∃ ms, v = .obj ms ∧ Report.ofMembers ms = .valid r := by
  simp only [Report.check, andThen_eq_valid_iff, record_eq_valid_iff]

/-! ## Sound reports -/

/-- All frequencies of a group are shares. -/
def Group.Sound (g : Group) : Prop := ∀ f ∈ g.fields, f.frequency.InUnit

/-- All frequencies of a report are shares. -/
structure Report.Sound (r : Report) : Prop where
  groups : ∀ g ∈ r.groups, g.Sound
  fields : ∀ f ∈ r.fields, f.frequency.InUnit

theorem Group.sound_of_check {v : Json} {g : Group} (read : Group.check v = .valid g) :
    g.Sound := by
  intro f here
  obtain ⟨ms, -, members⟩ := Group.check_eq_valid_iff.mp read
  obtain ⟨-, fields, -⟩ := Group.ofMembers_eq_valid_iff.mp members
  obtain ⟨w, valid⟩ := exists_check_of_mem fields here
  exact Field.inUnit_of_check valid

/-- Every report that was read is sound. -/
theorem Report.sound_of_check {v : Json} {r : Report} (read : Report.check v = .valid r) :
    r.Sound := by
  obtain ⟨ms, -, members⟩ := Report.check_eq_valid_iff.mp read
  obtain ⟨-, groups, fields, -, -⟩ := Report.ofMembers_eq_valid_iff.mp members
  constructor
  · intro g here
    obtain ⟨w, valid⟩ := exists_check_of_mem groups here
    exact Group.sound_of_check valid
  · intro f here
    obtain ⟨w, valid⟩ := exists_check_of_mem fields here
    exact Field.inUnit_of_check valid

/-! ## Parameters -/

/-- The parameters from which the record of a field is made. -/
def Field.parameters (f : Field) : Members :=
  [("name", .str f.name), ("inferred_type", .str f.kind.name),
    ("example_value", f.exampleValue), ("frequency", .float f.frequency),
    ("sample_count", .int f.sampleCount),
    ("suggested_types", .arr (f.suggestions.map StorageType.toWire))]

/-- The parameters from which the record of a group is made. -/
def Group.parameters (g : Group) : Members :=
  [("type_name", .str g.kindName), ("fields", .arr (g.fields.map fun f => .obj f.parameters)),
    ("doc_count", .int g.docCount)]

/-- The parameters from which the record of a report is made. -/
def Report.parameters (r : Report) : Members :=
  [("status", .str r.status.name), ("groups", .arr (r.groups.map fun g => .obj g.parameters)),
    ("fields", .arr (r.fields.map fun f => .obj f.parameters)),
    ("sample_count", .int r.sampleCount), ("error", optionalTextJson r.error)]

theorem Field.check_parameters {f : Field} (share : f.frequency.InUnit) :
    Field.check (.obj f.parameters) = .valid f :=
  Field.ofMembers_of_find rfl rfl rfl rfl rfl rfl share

theorem Field.list_parameters {fs : List Field} (shares : ∀ f ∈ fs, f.frequency.InUnit) :
    Check.list Field.check (.arr (fs.map fun f => .obj f.parameters)) = .valid fs :=
  list_map_self fun f here => Field.check_parameters (shares f here)

theorem Group.check_parameters {g : Group} (sound : g.Sound) :
    Group.check (.obj g.parameters) = .valid g :=
  Group.ofMembers_of_find rfl rfl rfl (Field.list_parameters sound)

/-- A sound report is accepted when its record is made. -/
theorem Report.ofMembers_parameters {r : Report} (sound : r.Sound) :
    Report.ofMembers r.parameters = .valid r := by
  have groups : Check.list Group.check (.arr (r.groups.map fun g => .obj g.parameters)) =
      .valid r.groups := list_map_self fun g here => Group.check_parameters (sound.groups g here)
  have fields := Field.list_parameters sound.fields
  exact Report.ofMembers_of_find rfl rfl rfl rfl rfl groups fields

end Schema

end SearchDesk
