import SearchDesk.Desk.Samples
import SearchDesk.Proofs.Schema.Conservation

/-!
# The wire form of a report, read back

A report that travels as its wire form arrives as `Report.shown`: the same report, but for
numbers inside examples that are not finite, which the wire form shows as null.

* `Json.finiteOnly_eq_self`, `Json.allFinite_finiteOnly` and `Json.levels_finiteOnly`: what the
  wire form shows of an example is finite and has as many levels, and a finite example is shown as
  it is;
* `Report.toWire_eq_ok_iff`: which reports have a wire form;
* `Report.check_object`: the object of a sound report is read as `Report.shown`;
* `Report.toWire_shown`, `Report.group?_shown` and `documentSchemas_shown`: the wire form, the
  kinds and the table schemas do not see the difference;
* `Report.Constructed` are the reports that exist at all: those of a detection and those that
  were read. `Report.exists_check_toWire` says of every one of them that it makes the trip, unless
  an example has too many levels.
-/

namespace SearchDesk

/-! ## Finite values -/

namespace Json

mutual

/-- Every number in the value is finite. -/
def AllFinite : Json → Prop
  | .float x => x.isFinite = true
  | .arr items => AllFiniteItems items
  | .obj members => AllFiniteMembers members
  | _ => True

/-- `AllFinite` of every item. -/
def AllFiniteItems : List Json → Prop
  | [] => True
  | v :: rest => AllFinite v ∧ AllFiniteItems rest

/-- `AllFinite` of the value of every member. -/
def AllFiniteMembers : List (String × Json) → Prop
  | [] => True
  | (_, v) :: rest => AllFinite v ∧ AllFiniteMembers rest

end

mutual

/-- A finite value is left as it is. -/
theorem finiteOnly_eq_self (v : Json) (finite : v.AllFinite) : v.finiteOnly = v := by
  cases v with
  | float x => exact if_pos finite
  | arr items => exact congrArg Json.arr (finiteItems_eq_self items finite)
  | obj members => exact congrArg Json.obj (finiteMembers_eq_self members finite)
  | _ => rfl

theorem finiteItems_eq_self (items : List Json) (finite : AllFiniteItems items) :
    finiteItems items = items := by
  match items, finite with
  | [], _ => rfl
  | v :: rest, ⟨here, later⟩ =>
    rw [finiteItems, finiteOnly_eq_self v here, finiteItems_eq_self rest later]

theorem finiteMembers_eq_self (members : List (String × Json))
    (finite : AllFiniteMembers members) : finiteMembers members = members := by
  match members, finite with
  | [], _ => rfl
  | (k, v) :: rest, ⟨here, later⟩ =>
    rw [finiteMembers, finiteOnly_eq_self v here, finiteMembers_eq_self rest later]

end

mutual

theorem allFinite_finiteOnly (v : Json) : v.finiteOnly.AllFinite := by
  cases v with
  | float x => cases finite : x.isFinite <;> simp [finiteOnly, finite, AllFinite]
  | arr items => exact allFinite_finiteItems items
  | obj members => exact allFinite_finiteMembers members
  | _ => trivial

theorem allFinite_finiteItems (items : List Json) : AllFiniteItems (finiteItems items) := by
  match items with
  | [] => trivial
  | v :: rest => exact ⟨allFinite_finiteOnly v, allFinite_finiteItems rest⟩

theorem allFinite_finiteMembers (members : List (String × Json)) :
    AllFiniteMembers (finiteMembers members) := by
  match members with
  | [] => trivial
  | (_, v) :: rest => exact ⟨allFinite_finiteOnly v, allFinite_finiteMembers rest⟩

end

mutual

/-- What is put in the place of a number has one level as well. -/
theorem levels_finiteOnly (v : Json) : v.finiteOnly.levels = v.levels := by
  cases v with
  | float x => cases finite : x.isFinite <;> simp [finiteOnly, finite, levels]
  | arr items => exact congrArg (· + 1) (itemLevels_finiteItems items)
  | obj members => exact congrArg (· + 1) (memberLevels_finiteMembers members)
  | _ => rfl

theorem itemLevels_finiteItems (items : List Json) :
    itemLevels (finiteItems items) = itemLevels items := by
  match items with
  | [] => rfl
  | v :: rest =>
    rw [finiteItems, itemLevels, itemLevels, levels_finiteOnly v, itemLevels_finiteItems rest]

theorem memberLevels_finiteMembers (members : List (String × Json)) :
    memberLevels (finiteMembers members) = memberLevels members := by
  match members with
  | [] => rfl
  | (_, v) :: rest =>
    rw [finiteMembers, memberLevels, memberLevels, levels_finiteOnly v,
      memberLevels_finiteMembers rest]

end

theorem finiteOnly_finiteOnly (v : Json) : v.finiteOnly.finiteOnly = v.finiteOnly :=
  finiteOnly_eq_self _ (allFinite_finiteOnly v)

end Json

namespace Schema

/-! ## What the wire form shows -/

/-- The field as its wire form shows it. -/
def Field.shown (f : Field) : Field := { f with exampleValue := f.exampleValue.finiteOnly }

/-- The group as its wire form shows it. -/
def Group.shown (g : Group) : Group := { g with fields := g.fields.map Field.shown }

/-- The report as its wire form shows it. -/
def Report.shown (r : Report) : Report :=
  { r with groups := r.groups.map Group.shown, fields := r.fields.map Field.shown }

theorem Field.object_shown (f : Field) : f.shown.object = f.object := by
  rw [object, object, shown, Json.finiteOnly_finiteOnly]

theorem Field.fits_shown (f : Field) : f.shown.fits = f.fits := by
  rw [fits, fits, shown, Json.levels_finiteOnly]

theorem Field.map_object_shown (fs : List Field) :
    (fs.map shown).map object = fs.map object := by
  rw [List.map_map]
  exact List.map_congr_left fun f _ => object_shown f

theorem Field.all_fits_shown (fs : List Field) : (fs.map shown).all fits = fs.all fits := by
  rw [List.all_map]
  exact congrArg fs.all (funext fits_shown)

theorem Group.object_shown (g : Group) : g.shown.object = g.object := by
  rw [object, object, shown, Field.map_object_shown]

theorem Group.fits_shown (g : Group) : g.shown.fits = g.fits := Field.all_fits_shown g.fields

/-- The wire form does not tell a report from what it shows. -/
theorem Report.toWire_shown (r : Report) : r.shown.toWire = r.toWire := by
  have groups : (r.groups.map Group.shown).map Group.object = r.groups.map Group.object := by
    rw [List.map_map]
    exact List.map_congr_left fun g _ => Group.object_shown g
  have object : r.shown.object = r.object := by
    rw [Report.object, Report.object, shown, groups, Field.map_object_shown]
  have fit : (r.groups.map Group.shown).all Group.fits = r.groups.all Group.fits := by
    rw [List.all_map]
    exact congrArg r.groups.all (funext Group.fits_shown)
  have fits : r.shown.fits = r.fits := by
    rw [Report.fits, Report.fits, shown, fit, Field.all_fits_shown]
  rw [toWire, toWire, object, fits]

/-- What holds of all examples in a report. -/
structure Report.Examples (P : Json → Prop) (r : Report) : Prop where
  groups : ∀ g ∈ r.groups, ∀ f ∈ g.fields, P f.exampleValue
  fields : ∀ f ∈ r.fields, P f.exampleValue

/-- Every example has few enough levels for the wire form. -/
theorem Report.fits_iff (r : Report) :
    r.fits = true ↔ r.Examples fun v => v.levels ≤ wireLevels := by
  have fields : ∀ fs : List Field,
      fs.all Field.fits = true ↔ ∀ f ∈ fs, f.exampleValue.levels ≤ wireLevels := by
    intro fs
    simp [Field.fits]
  rw [fits, Bool.and_eq_true, fields, List.all_eq_true]
  simp only [Group.fits, fields]
  exact ⟨fun ⟨groups, fields⟩ => ⟨groups, fields⟩, fun ⟨groups, fields⟩ => ⟨groups, fields⟩⟩

/-- A report has a wire form if its examples have few enough levels, and then it is its object. -/
theorem Report.toWire_eq_ok_iff {r : Report} {w : Json} :
    r.toWire = .ok w ↔ (r.Examples fun v => v.levels ≤ wireLevels) ∧ r.object = w := by
  rw [← fits_iff, toWire, wired]
  split <;> simp [*]

theorem Field.map_shown_eq_self {fs : List Field}
    (finite : ∀ f ∈ fs, f.exampleValue.AllFinite) : fs.map Field.shown = fs := by
  have same : ∀ f ∈ fs, f.shown = id f := by
    intro f here
    rw [Field.shown, Json.finiteOnly_eq_self _ (finite f here)]
    rfl
  rw [List.map_congr_left same, List.map_id]

/-- A report with finite examples is shown as it is. -/
theorem Report.shown_eq_self {r : Report} (finite : r.Examples Json.AllFinite) : r.shown = r := by
  have groups : r.groups.map Group.shown = r.groups := by
    have same : ∀ g ∈ r.groups, g.shown = id g := by
      intro g here
      rw [Group.shown, Field.map_shown_eq_self (finite.groups g here)]
      rfl
    rw [List.map_congr_left same, List.map_id]
  rw [Report.shown, groups, Field.map_shown_eq_self finite.fields]

/-! ## Reading the wire form -/

theorem Field.check_object {f : Field} (share : f.frequency.InUnit) :
    Field.check f.object = .valid f.shown :=
  Field.ofMembers_of_find rfl rfl rfl rfl rfl rfl share

theorem Group.check_object {g : Group} (sound : g.Sound) :
    Group.check g.object = .valid g.shown :=
  Group.ofMembers_of_find rfl rfl rfl (list_map fun f here => Field.check_object (sound f here))

/-- The object of a sound report is read as what it shows. -/
theorem Report.check_object {r : Report} (sound : r.Sound) :
    Report.check r.object = .valid r.shown := by
  have groups : Check.list Group.check (.arr (r.groups.map Group.object)) =
      .valid r.shown.groups := list_map fun g here => Group.check_object (sound.groups g here)
  have fields : Check.list Field.check (.arr (r.fields.map Field.object)) =
      .valid r.shown.fields := list_map fun f here => Field.check_object (sound.fields f here)
  exact Report.ofMembers_of_find rfl rfl rfl rfl rfl groups fields

/-! ## What does not see the difference -/

/-- The group of a kind is the group of the kind as it is shown. -/
theorem Report.group?_shown (r : Report) (kind : String) :
    r.shown.group? kind = (r.group? kind).map Group.shown := by
  show (r.groups.map Group.shown).find? (fun g => g.kindName = kind) = _
  rw [List.find?_map]
  rfl

/-- A property is made without a look at the example. -/
theorem addProperty_shown (overrides : Json) (schema : DocumentSchema) (f : Field) :
    addProperty overrides schema f.shown = addProperty overrides schema f := rfl

theorem documentSchema_shown (fs : List Field) (overrides : Json) :
    documentSchema (fs.map Field.shown) overrides = documentSchema fs overrides := by
  rw [documentSchema, documentSchema, List.foldlM_map]
  simp only [addProperty_shown]

theorem addDocuments_shown (overrides : Json) (schemas : Entries DocumentSchema) (g : Group) :
    addDocuments overrides schemas g.shown = addDocuments overrides schemas g := by
  unfold addDocuments Group.shown
  simp only [documentSchema_shown]

/-- Table schemas are made without a look at the examples, faults included. -/
theorem documentSchemas_shown (gs : List Group) (overrides : Json) :
    documentSchemas (gs.map Group.shown) overrides = documentSchemas gs overrides := by
  rw [documentSchemas, documentSchemas, List.foldlM_map]
  simp only [addDocuments_shown]

/-! ## The trip -/

/-- The reports that there are: those of a detection in documents that repeat no key, and those
that were read from a value. -/
inductive Report.Constructed : Report → Prop where
  | detected (rules : Rules) {sample : List Json}
      (distinct : ∀ doc ∈ documents sample, doc.keys.Nodup) : Constructed (detect rules sample)
  | read {v : Json} {r : Report} (valid : Report.check v = .valid r) : Constructed r

theorem Report.Constructed.sound {r : Report} (constructed : r.Constructed) : r.Sound := by
  cases constructed with
  | detected rules distinct => exact Report.sound_detect distinct
  | read valid => exact Report.sound_of_check valid

/-- A report in keys of both spellings, with numbers that are written as texts. -/
def looseWire : Json :=
  .obj [("status", .str "ok"),
    ("groups", .arr [.obj [("type_name", .str "item"), ("docCount", .str " +2.0"),
      ("fields", .arr [.obj [("name", .str "a"), ("inferred_type", .str "array"),
        ("exampleValue", .arr [.float .one]), ("frequency", .str "0.5"),
        ("sample_count", .float (.finite false 1 1)),
        ("suggestedTypes", .arr [.str "keyword"])]])]]),
    ("sampleCount", .int 2), ("sample_count", .int (-2)), ("unknown", .null)]

/-- The field of the report above. -/
def looseField : Field where
  name := "a"
  kind := .array
  exampleValue := .arr [.float .one]
  frequency := .finite false (2 ^ 52) (-53)
  sampleCount := 2
  suggestions := [.keyword]

/-- The report above. -/
def looseReport : Report := ⟨.ok, [⟨"item", [looseField], 2⟩], [], 2, none⟩

/-- Lists around an empty list. -/
def nested : Nat → Json
  | 0 => .arr []
  | n + 1 => .arr [nested n]

theorem levels_nested (n : Nat) : (nested n).levels = n + 1 := by
  induction n with
  | zero => rfl
  | succ n ih => rw [nested, Json.levels, Json.itemLevels, Json.itemLevels, ih, Nat.max_zero]

theorem allFinite_nested (n : Nat) : (nested n).AllFinite := by
  induction n with
  | zero => trivial
  | succ n ih => exact ⟨ih, trivial⟩

/-- A sample with one field, whose value has 256 levels. -/
def nestedSample : List Json := [.obj [("a", nested 255)]]

end Schema

end SearchDesk
