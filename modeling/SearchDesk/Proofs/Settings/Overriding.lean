import SearchDesk.Proofs.Settings.Loading

/-!
# Overrides are written into the file

The settings of a file are told by what stands under the keys of its sections (`setting?`), as
far as the file is a mapping with two sections (`WellFormed`): files that hold the same settings
load in the same way, whatever the order of their keys (`ofData_congr`).

An override puts one integer into one section (`SetTo`), and both of them together make a file of
their own: it holds the integers of the variables, and everywhere else what the file held
(`Written`). So `get_overridden` compares a store whose variables spell integers with one that
has no variables and such a file. Variables are those that are in force when settings are loaded,
whether they are set or come from the file of variables. Both stores come to the same settings, or
to the same fault of a value. What the file has under an overridden key does not matter
(`SameElsewhere`), the integers have to be within their bounds (`WithinBounds`), and all other
settings are those of the file.
-/

namespace SearchDesk

open Check Check.Checked

/-! ## The settings of a file -/

namespace ConfigData

/-- The pairs of a section; a part that is no mapping has none. -/
def pairsOf (part : String) (data : ConfigData) : ConfigData :=
  match data.get? part with
  | some (.map pairs) => pairs
  | _ => []

/-- What the data holds under a key of a section. -/
def setting? (part key : String) (data : ConfigData) : Option Yaml.Value :=
  (data.pairsOf part).get? key

/-- A part of the data is absent or a mapping. -/
def IsSection (part : String) (data : ConfigData) : Prop :=
  ∀ v, data.get? part = some v → ∃ pairs, v = .map pairs

/-- A mapping whose keys are texts, and whose two sections are absent or mappings. -/
structure WellFormed (data : ConfigData) : Prop where
  texts : data.TextKeys
  query : data.IsSection "query"
  detection : data.IsSection "detection"

theorem wellFormed_of_sections {data : ConfigData}
    (sections : ∀ p ∈ data, ∃ name pairs, p = (.str name, .map pairs)) : data.WellFormed := by
  have isSection : ∀ part, data.IsSection part := by
    intro part v found
    obtain ⟨p, here, rfl⟩ := Option.map_eq_some_iff.mp found
    obtain ⟨name, pairs, rfl⟩ := sections p (List.mem_of_find?_eq_some here)
    exact ⟨pairs, rfl⟩
  refine ⟨fun p here => ?_, isSection "query", isSection "detection"⟩
  obtain ⟨name, pairs, rfl⟩ := sections p here
  exact ⟨name, rfl⟩

theorem get?_put_self (name : String) (value : Yaml.Value) (data : ConfigData) :
    get? name (put name value data) = some value := by
  induction data with
  | nil => rw [put, get?_cons, if_pos rfl]
  | cons p rest ih =>
    obtain ⟨k, v⟩ := p
    rw [put]
    by_cases here : k = .str name
    · rw [if_pos here, get?_cons, if_pos here]
    · rw [if_neg here, get?_cons, if_neg here, ih]

/-- The pairs of a record are looked up by their names. -/
theorem get?_named (key : String) (pairs : ConfigData) :
    Entries.get? key (Yaml.Value.named pairs) = pairs.get? key := by
  induction pairs with
  | nil => rfl
  | cons p rest ih =>
    obtain ⟨k, v⟩ := p
    rw [get?_cons, ← ih, Yaml.Value.named, List.filterMap_cons]
    cases k with
    | str name => simp [Entries.get?, Yaml.Value.named]
    | _ => simp [Yaml.Value.named]

/-- A section that is put in is the mapping that was put in. -/
theorem setting?_put (part : String) (pairs data : ConfigData) (p key : String) :
    (data.put part (.map pairs)).setting? p key =
      if p = part then pairs.get? key else data.setting? p key := by
  unfold setting? pairsOf
  by_cases here : p = part
  · rw [if_pos here, here, get?_put_self]
  · rw [if_neg here, get?_put_of_ne here]

theorem isSection_put {part : String} {data : ConfigData} {p : String}
    (isSection : data.IsSection p) (pairs : ConfigData) :
    (data.put part (.map pairs)).IsSection p := by
  intro v found
  by_cases here : p = part
  · rw [here, get?_put_self] at found
    exact ⟨pairs, (Option.some.inj found).symm⟩
  · rw [get?_put_of_ne here] at found
    exact isSection v found

end ConfigData

namespace Settings

open ConfigData

theorem find?_named (key : String) (pairs : ConfigData) :
    FieldName.find? ⟨key, key⟩ (Yaml.Value.named pairs) = pairs.get? key := by
  unfold FieldName.find?
  rw [get?_named]
  cases pairs.get? key <;> rfl

/-- A section is checked as the record of its pairs, and so is one that is absent. -/
theorem defaulted_section {β : Type} {name part : String} {absent : β}
    {check : Entries Yaml.Value → Checked β} {data : ConfigData}
    (isSection : data.IsSection part) (empty : check [] = .valid absent) :
    defaulted ⟨part, part⟩ absent (fun v => (record name v).andThen check)
        (Yaml.Value.named data) =
      (check (Yaml.Value.named (data.pairsOf part))).under part := by
  rw [defaulted, find?_named, pairsOf]
  cases here : data.get? part with
  | none =>
    show _ = (check []).under part
    rw [empty]
    rfl
  | some v =>
    obtain ⟨pairs, rfl⟩ := isSection v here
    rfl

/-- The settings are put together from what is read of the pairs of both sections. -/
theorem check_named {data : ConfigData} (form : data.WellFormed) :
    check (Yaml.Value.named data) = Settings.mk
      <$> (defaulted ⟨"max_depth", "max_depth"⟩ 50 natural
        (Yaml.Value.named (data.pairsOf "query"))).under "query"
      <*> (checkRules (Yaml.Value.named (data.pairsOf "detection"))).under "detection" := by
  have query : defaulted ⟨"query", "query"⟩ 50 checkQuery (Yaml.Value.named data) =
      (defaulted ⟨"max_depth", "max_depth"⟩ 50 natural
        (Yaml.Value.named (data.pairsOf "query"))).under "query" :=
    defaulted_section form.query rfl
  have detection : defaulted ⟨"detection", "detection"⟩ {} checkDetection
      (Yaml.Value.named data) =
      (checkRules (Yaml.Value.named (data.pairsOf "detection"))).under "detection" :=
    defaulted_section form.detection rfl
  rw [check, query, detection]

/-- A field is read from what stands under its name. -/
theorem defaulted_congr {α β : Type} {name : FieldName} {absent : β} {check : α → Checked β}
    {ms ms' : Entries α} (same : ∀ key, ms.get? key = ms'.get? key) :
    defaulted name absent check ms = defaulted name absent check ms' := by
  unfold defaulted FieldName.find?
  rw [same, same]

theorem ofData_of_textKeys {data : ConfigData} (texts : data.TextKeys) :
    ofData data = match check (Yaml.Value.named data) with
      | .valid s => .ok s
      | .invalid issues => .error (.invalid issues) := by
  refine if_pos (List.all_eq_true.mpr ?_)
  rintro ⟨k, v⟩ here
  obtain ⟨name, rfl⟩ : ∃ name, k = .str name := texts (k, v) here
  rfl

/-- Files that hold the same settings load in the same way. -/
theorem ofData_congr {data data' : ConfigData} (form : data.WellFormed) (form' : data'.WellFormed)
    (same : ∀ part key, data.setting? part key = data'.setting? part key) :
    ofData data = ofData data' := by
  have named : ∀ part key, Entries.get? key (Yaml.Value.named (data.pairsOf part)) =
      Entries.get? key (Yaml.Value.named (data'.pairsOf part)) := by
    intro part key
    rw [get?_named, get?_named]
    exact same part key
  rw [ofData_of_textKeys form.texts, ofData_of_textKeys form'.texts, check_named form,
    check_named form', defaulted_congr (named "query")]
  unfold checkRules
  simp only [defaulted_congr (named "detection")]

/-! ## What a setting is read from -/

/-- A value is read under a key, or the default stands in for it if there is nothing. -/
def ReadFrom {β : Type} (check : Yaml.Value → Checked β) (absent : β) (v? : Option Yaml.Value)
    (b : β) : Prop :=
  (∃ v, v? = some v ∧ check v = .valid b) ∨ v? = none ∧ absent = b

/-- The settings that are read from what the file holds. -/
structure ReadAs (data : ConfigData) (s : Settings) : Prop where
  maxDepth : ReadFrom natural 50 (data.setting? "query" "max_depth") s.maxDepth
  sampleSize : ReadFrom (fun v => (integerAbove 0 v).map Int.toNat) 50
    (data.setting? "detection" "sample_size") s.rules.sampleSize
  kindField : ReadFrom text "_type" (data.setting? "detection" "kind_field") s.rules.kindField
  defaultKind : ReadFrom text "default" (data.setting? "detection" "default_kind")
    s.rules.defaultKind
  internalStart : ReadFrom text "_" (data.setting? "detection" "internal_prefix")
    s.rules.internalStart
  reserved : ReadFrom (list text) ["_type", "_id", "_embeddings", "_summaries"]
    (data.setting? "detection" "reserved_fields") s.rules.reserved

theorem defaulted_named_iff {β : Type} {key : String} {absent b : β}
    {check : Yaml.Value → Checked β} {pairs : ConfigData} :
    defaulted ⟨key, key⟩ absent check (Yaml.Value.named pairs) = .valid b ↔
      ReadFrom check absent (pairs.get? key) b := by
  rw [defaulted_eq_valid_iff, find?_named, ReadFrom]

theorem ofData_eq_ok_iff {data : ConfigData} (form : data.WellFormed) {s : Settings} :
    ofData data = .ok s ↔ ReadAs data s := by
  have read : ofData data = .ok s ↔ check (Yaml.Value.named data) = .valid s := by
    rw [ofData_of_textKeys form.texts]
    cases check (Yaml.Value.named data) <;> simp
  rw [read, check_named form, seq_eq_valid_iff]
  constructor
  · rintro ⟨_, rules, query, detection, rfl⟩
    obtain ⟨depth, maxDepth, rfl⟩ := map_eq_valid_iff.mp query
    rw [under_eq_valid_iff, defaulted_named_iff] at maxDepth
    rw [under_eq_valid_iff, checkRules_eq_valid_iff] at detection
    simp only [defaulted_named_iff] at detection
    obtain ⟨size, kind, default, start, reserved⟩ := detection
    exact ⟨maxDepth, size, kind, default, start, reserved⟩
  · rintro ⟨maxDepth, size, kind, default, start, reserved⟩
    refine ⟨_, s.rules, map_eq_valid_iff.mpr ⟨s.maxDepth, ?_, rfl⟩, ?_, rfl⟩
    · rw [under_eq_valid_iff, defaulted_named_iff]
      exact maxDepth
    · rw [under_eq_valid_iff, checkRules_eq_valid_iff]
      simp only [defaulted_named_iff]
      exact ⟨size, kind, default, start, reserved⟩

/-! ## What overrides write -/

/-- The setting is one that a given integer takes the place of. -/
def IsOverridden (depth size : Option Int) (part key : String) : Prop :=
  part = "query" ∧ key = "max_depth" ∧ depth.isSome ∨
    part = "detection" ∧ key = "sample_size" ∧ size.isSome

/-- Files that hold the same settings, but for those that integers take the place of. -/
def SameElsewhere (depth size : Option Int) (data data' : ConfigData) : Prop :=
  ∀ part key, ¬IsOverridden depth size part key →
    data'.setting? part key = data.setting? part key

/-- A file that holds the given integers, and everything else as another one holds it. -/
structure Written (depth size : Option Int) (data written : ConfigData) : Prop where
  form : written.WellFormed
  maxDepth : ∀ n, depth = some n →
    written.setting? "query" "max_depth" = some (.scalar (.int n))
  sampleSize : ∀ n, size = some n →
    written.setting? "detection" "sample_size" = some (.scalar (.int n))
  elsewhere : SameElsewhere depth size data written

/-- A variable spells the integer, if it is set. -/
def SpelledBy (text : Option String) (n? : Option Int) : Prop :=
  text.map spelledInteger? = n?.map some

/-- A file in which one setting is the given integer, if there is one. -/
structure SetTo (part key : String) (n? : Option Int) (data data' : ConfigData) : Prop where
  form : data'.WellFormed
  value : ∀ n, n? = some n → data'.setting? part key = some (.scalar (.int n))
  elsewhere : ∀ p k, ¬(p = part ∧ k = key ∧ n?.isSome) → data'.setting? p k = data.setting? p k

theorem sectionPairs_of_isSection {part : String} {data : ConfigData}
    (isSection : data.IsSection part) : sectionPairs part data = .ok (data.pairsOf part) := by
  unfold sectionPairs pairsOf
  cases found : data.get? part with
  | none => rfl
  | some v =>
    obtain ⟨pairs, rfl⟩ := isSection v found
    rfl

/-- One override sets one setting of the file. -/
theorem exists_overrideOne {name part key : String} {text : Option String} {n? : Option Int}
    {data : ConfigData} (form : data.WellFormed) (isSection : data.IsSection part)
    (spelled : SpelledBy text n?) :
    ∃ data', overrideOne name part key text data = .ok data' ∧ SetTo part key n? data data' := by
  cases text with
  | none =>
    cases n? with
    | none => exact ⟨data, rfl, form, nofun, fun _ _ _ => rfl⟩
    | some n => cases spelled
  | some t =>
    cases n? with
    | none => cases spelled
    | some n =>
      have integer : spelledInteger? t = some n := Option.some.inj spelled
      refine ⟨data.put part (.map ((data.pairsOf part).put key (.scalar (.int n)))), ?_, ?_, ?_, ?_⟩
      · rw [overrideOne, integer]
        show (sectionPairs part data).bind _ = _
        rw [sectionPairs_of_isSection isSection]
        rfl
      · exact ⟨(textKeys_put part _ data).mpr form.texts, isSection_put form.query _,
          isSection_put form.detection _⟩
      · intro m same
        obtain rfl := Option.some.inj same
        rw [setting?_put, if_pos rfl, get?_put_self]
      · intro p k other
        rw [setting?_put]
        by_cases here : p = part
        · have ne : k ≠ key := fun same => other ⟨here, same, rfl⟩
          rw [if_pos here, get?_put_of_ne ne, setting?, here]
        · rw [if_neg here]

/-- The overrides make a file of their own. -/
theorem exists_override {env : Overrides} {depth size : Option Int} {data : ConfigData}
    (form : data.WellFormed) (maxDepth : SpelledBy env.maxDepth depth)
    (sampleSize : SpelledBy env.sampleSize size) :
    ∃ data', override env data = .ok data' ∧ Written depth size data data' := by
  have one : ∃ first, overrideOne maxDepthVariable "query" "max_depth" env.maxDepth data =
      .ok first ∧ SetTo "query" "max_depth" depth data first :=
    exists_overrideOne form form.query maxDepth
  obtain ⟨first, made, setDepth⟩ := one
  have two : ∃ second, overrideOne sampleSizeVariable "detection" "sample_size" env.sampleSize
      first = .ok second ∧ SetTo "detection" "sample_size" size first second :=
    exists_overrideOne setDepth.form setDepth.form.detection sampleSize
  obtain ⟨second, made', setSize⟩ := two
  refine ⟨second, ?_, setSize.form, ?_, setSize.value, ?_⟩
  · rw [override, made]
    exact made'
  · -- the second override lies in another section
    intro n given
    rw [setSize.elsewhere "query" "max_depth" fun same => absurd same.1 (by decide)]
    exact setDepth.value n given
  · intro part key other
    rw [setSize.elsewhere part key fun same => other (.inr same),
      setDepth.elsewhere part key fun same => other (.inl same)]

/-- Files written over files that are the same elsewhere hold the same settings. -/
theorem setting?_written {depth size : Option Int} {data data' a b : ConfigData}
    (same : SameElsewhere depth size data data') (first : Written depth size data a)
    (second : Written depth size data' b) (part key : String) :
    a.setting? part key = b.setting? part key := by
  by_cases overridden : IsOverridden depth size part key
  · rcases overridden with ⟨rfl, rfl, given⟩ | ⟨rfl, rfl, given⟩
    · obtain ⟨n, rfl⟩ := Option.isSome_iff_exists.mp given
      rw [first.maxDepth n rfl, second.maxDepth n rfl]
    · obtain ⟨n, rfl⟩ := Option.isSome_iff_exists.mp given
      rw [first.sampleSize n rfl, second.sampleSize n rfl]
  · rw [first.elsewhere part key overridden, second.elsewhere part key overridden,
      same part key overridden]

/-! ## What the integers do to the settings -/

/-- Settings with the given integers. -/
def withIntegers (depth size : Option Int) (s : Settings) : Settings where
  maxDepth := (depth.map Int.toNat).getD s.maxDepth
  rules := { s.rules with sampleSize := (size.map Int.toNat).getD s.rules.sampleSize }

/-- What is read from a value is read from it alone. -/
theorem ReadFrom.iff_eq {β : Type} {check : Yaml.Value → Checked β} {absent b b' : β}
    {v? : Option Yaml.Value} (read : ReadFrom check absent v? b) :
    ReadFrom check absent v? b' ↔ b' = b := by
  constructor
  · rcases read with ⟨v, rfl, valid⟩ | ⟨rfl, rfl⟩
    · rintro (⟨w, same, valid'⟩ | ⟨no, -⟩)
      · obtain rfl := Option.some.inj same
        rw [valid] at valid'
        cases valid'
        rfl
      · cases no
    · rintro (⟨w, no, -⟩ | ⟨-, rfl⟩)
      · cases no
      · rfl
  · rintro rfl
    exact read

theorem readFrom_some_iff {β : Type} {check : Yaml.Value → Checked β} {absent b : β}
    {v : Yaml.Value} : ReadFrom check absent (some v) b ↔ check v = .valid b := by
  simp [ReadFrom]

theorem natural_integer_iff {n : Int} {b : Nat} :
    natural (Yaml.Value.scalar (.int n)) = .valid b ↔ 0 ≤ n ∧ b = n.toNat := by
  show (if 0 ≤ n then Checked.valid n.toNat else .fail (.below 0)) = .valid b ↔ _
  split <;> simp [*, fail, eq_comm]

theorem integerAbove_integer_iff {n : Int} {b : Nat} :
    (integerAbove 0 (Yaml.Value.scalar (.int n))).map Int.toNat = .valid b ↔
      0 < n ∧ b = n.toNat := by
  show (if ((0 : Nat) : Int) < n then Checked.valid n else .fail (.notAbove 0)).map Int.toNat =
    .valid b ↔ _
  by_cases above : ((0 : Nat) : Int) < n
  · rw [if_pos above]
    simp [Checked.map, eq_comm, show 0 < n from above]
  · rw [if_neg above]
    simp [Checked.map, fail, show ¬0 < n from above]

/-- The integers are ones that the settings may be. -/
def WithinBounds (depth size : Option Int) : Prop :=
  (∀ n, depth = some n → 0 ≤ n) ∧ ∀ n, size = some n → 0 < n

/-- A setting that is given is read from the integer, and any other one from the file. -/
theorem readFrom_given_iff {check : Yaml.Value → Checked Nat} {absent b base : Nat}
    {n? : Option Int} {v? v₀? : Option Yaml.Value} {bound : Int → Prop}
    (integer : ∀ n b, check (.scalar (.int n)) = .valid b ↔ bound n ∧ b = n.toNat)
    (given : ∀ n, n? = some n → v? = some (.scalar (.int n))) (kept : n? = none → v? = v₀?)
    (read : ReadFrom check absent v₀? base) :
    ReadFrom check absent v? b ↔
      (∀ n, n? = some n → bound n) ∧ b = (n?.map Int.toNat).getD base := by
  cases n? with
  | none =>
    rw [kept rfl, read.iff_eq]
    simp
  | some n =>
    rw [given n rfl, readFrom_some_iff, integer]
    simp

/-- What is read from a written file: the integers as far as they are within the bounds, and
else what is read from any file that is the same elsewhere. -/
theorem readAs_written_iff {depth size : Option Int} {data data₀ written : ConfigData}
    {base s : Settings} (made : Written depth size data written)
    (same : SameElsewhere depth size data data₀) (read : ReadAs data₀ base) :
    ReadAs written s ↔ WithinBounds depth size ∧ s = base.withIntegers depth size := by
  have kept : ∀ part key, ¬IsOverridden depth size part key →
      written.setting? part key = data₀.setting? part key := by
    intro part key other
    rw [made.elsewhere part key other, same part key other]
  have maxDepth : ReadFrom natural 50 (written.setting? "query" "max_depth") s.maxDepth ↔
      (∀ n, depth = some n → 0 ≤ n) ∧ s.maxDepth = (depth.map Int.toNat).getD base.maxDepth :=
    readFrom_given_iff (fun _ _ => natural_integer_iff) made.maxDepth
      (fun unset => kept _ _ (by simp [IsOverridden, unset])) read.maxDepth
  have sampleSize : ReadFrom (fun v => (integerAbove 0 v).map Int.toNat) 50
      (written.setting? "detection" "sample_size") s.rules.sampleSize ↔
      (∀ n, size = some n → 0 < n) ∧
        s.rules.sampleSize = (size.map Int.toNat).getD base.rules.sampleSize :=
    readFrom_given_iff (fun _ _ => integerAbove_integer_iff) made.sampleSize
      (fun unset => kept _ _ (by simp [IsOverridden, unset])) read.sampleSize
  have kindField := kept "detection" "kind_field" (by simp [IsOverridden])
  have defaultKind := kept "detection" "default_kind" (by simp [IsOverridden])
  have internalStart := kept "detection" "internal_prefix" (by simp [IsOverridden])
  have reserved := kept "detection" "reserved_fields" (by simp [IsOverridden])
  constructor
  · rintro ⟨depthRead, sizeRead, kind, default, start, fields⟩
    obtain ⟨depthBound, depthSame⟩ := maxDepth.mp depthRead
    obtain ⟨sizeBound, sizeSame⟩ := sampleSize.mp sizeRead
    rw [kindField, read.kindField.iff_eq] at kind
    rw [defaultKind, read.defaultKind.iff_eq] at default
    rw [internalStart, read.internalStart.iff_eq] at start
    rw [reserved, read.reserved.iff_eq] at fields
    refine ⟨⟨depthBound, sizeBound⟩, ?_⟩
    obtain ⟨_, _, _, _, _, _⟩ := s
    simp_all [withIntegers]
  · rintro ⟨⟨depthBound, sizeBound⟩, rfl⟩
    refine ⟨maxDepth.mpr ⟨depthBound, rfl⟩, sampleSize.mpr ⟨sizeBound, rfl⟩, ?_, ?_, ?_, ?_⟩
    · rw [kindField]
      exact read.kindField
    · rw [defaultKind]
      exact read.defaultKind
    · rw [internalStart]
      exact read.internalStart
    · rw [reserved]
      exact read.reserved

/-! ## Loading with overrides -/

section
variable {env : Overrides} {depth size : Option Int} {data : ConfigData}

/-- Overrides load as a file in which the integers are written. -/
theorem load_eq_ofData_of_written (form : data.WellFormed)
    (maxDepth : SpelledBy env.maxDepth depth) (sampleSize : SpelledBy env.sampleSize size)
    {data₀ written : ConfigData} (same : SameElsewhere depth size data₀ data)
    (made : Written depth size data₀ written) : load env data = ofData written := by
  obtain ⟨own, answer, ownMade⟩ := exists_override form maxDepth sampleSize
  have loaded : load env data = ofData own := by
    rw [load, answer]
    rfl
  rw [loaded]
  refine ofData_congr ownMade.form made.form fun part key => ?_
  exact (setting?_written same made ownMade part key).symm

/-- What a file has under an overridden key does not matter. -/
theorem load_congr {data₀ : ConfigData} (form : data.WellFormed) (form₀ : data₀.WellFormed)
    (maxDepth : SpelledBy env.maxDepth depth) (sampleSize : SpelledBy env.sampleSize size)
    (same : SameElsewhere depth size data data₀) : load env data = load env data₀ := by
  obtain ⟨written, -, made⟩ := exists_override form maxDepth sampleSize
  rw [load_eq_ofData_of_written form maxDepth sampleSize (fun _ _ _ => rfl) made,
    load_eq_ofData_of_written form₀ maxDepth sampleSize same made]

end

end Settings

/-! ## The settings of a store -/

namespace Store

open Settings

/-- The store keeps no settings, and the settings file in force is read as the data. -/
def Reads (s : Store) (data : ConfigData) : Prop :=
  s.kept = none ∧ ∃ d, (s.filled.directory.document ConfigDirectory.settingsFile).1 = .ok d ∧
    ConfigData.ofDocument d = data

theorem Reads.get_eq_load {s : Store} {data : ConfigData} (file : s.Reads data) :
    s.get.1.1 = load s.filled.overrides data := by
  obtain ⟨unkept, d, read, rfl⟩ := file
  rw [get_of_unkept unkept, read]
  rfl

/-- **Overrides are written into the file.** Where the variables in force spell integers, or are
not set, and the sections of the settings file are mappings:

* there are files with these integers written into them, and the settings come to what a store
  without variables and with such a file comes to;
* they are settings that hold the integers, which are within their bounds, or values of the
  file are invalid;
* another value under an overridden key comes to the same, and if there is one with which the
  file loads without variables, all other settings are those of that file. -/
theorem get_overridden {s : Store} {data : ConfigData} {depth size : Option Int}
    (file : s.Reads data) (form : data.WellFormed)
    (maxDepth : SpelledBy s.filled.overrides.maxDepth depth)
    (sampleSize : SpelledBy s.filled.overrides.sampleSize size) :
    (∃ written, Written depth size data written) ∧
      (∀ (s' : Store) (written : ConfigData), s'.Reads written → s'.filled.overrides = {} →
        Written depth size data written → s.get.1.1 = s'.get.1.1) ∧
      ((∃ settings, s.get.1.1 = .ok settings ∧ WithinBounds depth size ∧
          settings = settings.withIntegers depth size) ∨
        ∃ issues, s.get.1.1 = .error (.invalid issues)) ∧
      ∀ data₀ : ConfigData, data₀.WellFormed → SameElsewhere depth size data data₀ →
        s.get.1.1 = load s.filled.overrides data₀ ∧
        ∀ base, load {} data₀ = .ok base → ∀ settings, s.get.1.1 = .ok settings ↔
          WithinBounds depth size ∧ settings = base.withIntegers depth size := by
  rw [file.get_eq_load]
  obtain ⟨own, -, made⟩ := exists_override form maxDepth sampleSize
  have asWritten : ∀ {written}, Written depth size data written →
      load s.filled.overrides data = ofData written :=
    load_eq_ofData_of_written form maxDepth sampleSize fun _ _ _ => rfl
  refine ⟨⟨own, made⟩, ?_, ?_, ?_⟩
  · intro s' written file' unset made'
    rw [asWritten made', file'.get_eq_load, unset]
    rfl
  · rw [asWritten made, ofData_of_textKeys made.form.texts]
    cases checked : check (Yaml.Value.named own) with
    | invalid issues => exact .inr ⟨issues, rfl⟩
    | valid settings =>
      have read : ReadAs own settings := by
        rw [← ofData_eq_ok_iff made.form, ofData_of_textKeys made.form.texts, checked]
      -- the written file is the same elsewhere as itself
      obtain ⟨bounds, same⟩ := (readAs_written_iff made made.elsewhere read).mp read
      exact .inl ⟨settings, rfl, bounds, same⟩
  · intro data₀ form₀ same
    refine ⟨load_congr form form₀ maxDepth sampleSize same, ?_⟩
    intro base loaded settings
    have read : ReadAs data₀ base := (ofData_eq_ok_iff form₀).mp loaded
    rw [asWritten made, ofData_eq_ok_iff made.form, readAs_written_iff made same read]

/-- The text of a settings file with a depth that is no integer. -/
def maskedText : String := "query:\n  max_depth: deep\ndetection:\n  kind_field: kind\n"

/-- The data of the text above. -/
def maskedData : ConfigData :=
  [(.str "query", .map [(.str "max_depth", .scalar (.str "deep"))]),
    (.str "detection", .map [(.str "kind_field", .scalar (.str "kind"))])]

/-- The document of the text above. -/
def maskedDocument : Yaml.Document where
  cells := #[.map [(⟨.str "query", 2⟩, 2), (⟨.str "detection", 6⟩, 6)], .scalar (.str "query"),
    .map [(⟨.str "max_depth", 4⟩, 4)], .scalar (.str "max_depth"), .scalar (.str "deep"),
    .scalar (.str "detection"), .map [(⟨.str "kind_field", 8⟩, 8)], .scalar (.str "kind_field"),
    .scalar (.str "kind")]
  root := 0

/-- A store with the settings file above. One variable is set, and the file of variables gives the
other one; what it gives for the first does not count. -/
def masked : Store where
  home := .withSettings "config" (some maskedText)
  overrides := { maxDepth := some " +1_0 " }
  supplied := { overrides := { maxDepth := some "7", sampleSize := some "٣" } }

/-- The text of a file with the integers of the variables, and with its sections turned round. -/
def writtenText : String :=
  "detection:\n  sample_size: 3\n  kind_field: kind\nquery:\n  max_depth: 10\n"

/-- The data of the text above. -/
def writtenData : ConfigData :=
  [(.str "detection", .map [(.str "sample_size", .scalar (.int 3)),
      (.str "kind_field", .scalar (.str "kind"))]),
    (.str "query", .map [(.str "max_depth", .scalar (.int 10))])]

/-- The document of the text above. -/
def writtenDocument : Yaml.Document where
  cells := #[.map [(⟨.str "detection", 2⟩, 2), (⟨.str "query", 8⟩, 8)], .scalar (.str "detection"),
    .map [(⟨.str "sample_size", 4⟩, 4), (⟨.str "kind_field", 6⟩, 6)],
    .scalar (.str "sample_size"), .scalar (.int 3), .scalar (.str "kind_field"),
    .scalar (.str "kind"), .scalar (.str "query"), .map [(⟨.str "max_depth", 10⟩, 10)],
    .scalar (.str "max_depth"), .scalar (.int 10)]
  root := 0

/-- A store with the settings file above, and no variables. -/
def written : Store where
  home := .withSettings "config" (some writtenText)

theorem written_maskedData : Written (some 10) (some 3) maskedData writtenData := by
  refine ⟨ConfigData.wellFormed_of_sections (by simp [writtenData]), ?_, ?_, ?_⟩
  · rintro n ⟨⟩
    rfl
  · rintro n ⟨⟩
    rfl
  · intro part key other
    simp only [IsOverridden, Option.isSome_some, and_true, not_or, not_and] at other
    obtain ⟨depth, size⟩ := other
    simp only [ConfigData.setting?, ConfigData.pairsOf, maskedData, writtenData,
      ConfigData.get?_cons]
    by_cases query : part = "query"
    · simp [ConfigData.get?_cons, query, Ne.symm (depth query)]
    · by_cases detection : part = "detection"
      · simp [ConfigData.get?_cons, detection, Ne.symm (size detection)]
      · simp [Ne.symm query, Ne.symm detection]

theorem get_overridden_masked :
    masked.Reads maskedData ∧ maskedData.WellFormed ∧
      SpelledBy masked.filled.overrides.maxDepth (some 10) ∧
      SpelledBy masked.filled.overrides.sampleSize (some 3) ∧
      masked.get.1.1 = written.get.1.1 ∧
      masked.get.1.1 =
        .ok { maxDepth := 10, rules := { sampleSize := 3, kindField := "kind" } } := by
  have document : (masked.filled.directory.document ConfigDirectory.settingsFile).1 =
      .ok maskedDocument := by decide +kernel
  have document' : (written.filled.directory.document ConfigDirectory.settingsFile).1 =
      .ok writtenDocument := by decide +kernel
  have file : masked.Reads maskedData := ⟨rfl, maskedDocument, document, rfl⟩
  have file' : written.Reads writtenData := ⟨rfl, writtenDocument, document', rfl⟩
  have form : maskedData.WellFormed := ConfigData.wellFormed_of_sections (by simp [maskedData])
  have ten : spelledInteger? " +1_0 " = some 10 := by decide +kernel
  have three : spelledInteger? "٣" = some 3 := by decide +kernel
  have maxDepth : SpelledBy masked.filled.overrides.maxDepth (some 10) := congrArg some ten
  have sampleSize : SpelledBy masked.filled.overrides.sampleSize (some 3) := congrArg some three
  obtain ⟨-, asWritten, -, masks⟩ := get_overridden file form maxDepth sampleSize
  refine ⟨file, form, maxDepth, sampleSize, asWritten _ _ file' rfl written_maskedData, ?_⟩
  -- the written file is one that the file above is the same as elsewhere
  obtain ⟨-, settings⟩ := masks writtenData written_maskedData.form written_maskedData.elsewhere
  have loaded : load {} writtenData =
      .ok { maxDepth := 10, rules := { sampleSize := 3, kindField := "kind" } } := by
    decide +kernel
  exact (settings _ loaded _).mpr ⟨by simp [WithinBounds], rfl⟩

end Store

end SearchDesk
