import SearchDesk.Proofs.Check.Valid
import SearchDesk.Settings.Store

/-!
# How loading the settings can fail

What is wrong with a configuration is told as a fault of the configuration
(`LoadFault.IsOfConfiguration`): its text is malformed, it is no mapping, a variable spells no
integer, or a value is not accepted. `get_derails_iff` says exactly when the settings fail in
another way although the settings file can be read (`Derails`):

* a variable overrides a value of a section that is something other than a mapping;
* some key of the file is not a text.

Both are met before any value is checked. One override has four outcomes (`Overridden`), and
none of them touches what decides about the steps after it: the other section, and whether
the keys are texts.
-/

namespace SearchDesk

open Check Check.Checked

/-! ## The data of a configuration file -/

namespace ConfigData

/-- All keys are texts. -/
def TextKeys (data : ConfigData) : Prop := ∀ p ∈ data, ∃ name, p.1 = .str name

/-- A part of the data is something other than a mapping, and neither empty nor false. -/
def Blocked (part : String) (data : ConfigData) : Prop :=
  ∃ v, data.get? part = some v ∧ v.holds = true ∧ ∀ pairs, v ≠ .map pairs

theorem get?_cons (name : String) (p : Yaml.Scalar × Yaml.Value) (rest : ConfigData) :
    get? name (p :: rest) = if p.1 = .str name then some p.2 else get? name rest := by
  rw [get?, List.find?_cons]
  by_cases here : p.1 = .str name <;> simp [here, get?]

theorem get?_put_of_ne {name other : String} (ne : other ≠ name) (value : Yaml.Value)
    (data : ConfigData) : get? other (put name value data) = get? other data := by
  have different : ¬Yaml.Scalar.str name = .str other := by
    intro same
    exact ne (Yaml.Scalar.str.inj same).symm
  induction data with
  | nil =>
    rw [put, get?_cons, if_neg different]
  | cons p rest ih =>
    obtain ⟨k, v⟩ := p
    rw [put]
    by_cases here : k = .str name
    · rw [if_pos here, get?_cons, get?_cons, here, if_neg different, if_neg different]
    · rw [if_neg here, get?_cons, get?_cons, ih]

theorem blocked_put_of_ne {part other : String} (ne : other ≠ part) (value : Yaml.Value)
    (data : ConfigData) : Blocked other (put part value data) ↔ Blocked other data := by
  rw [Blocked, get?_put_of_ne ne, Blocked]

/-- A key that is put in is a text, and no key is lost. -/
theorem textKeys_put (name : String) (value : Yaml.Value) (data : ConfigData) :
    TextKeys (put name value data) ↔ TextKeys data := by
  induction data with
  | nil => simp [TextKeys, put]
  | cons p rest ih =>
    obtain ⟨k, v⟩ := p
    unfold TextKeys at ih ⊢
    rw [put]
    by_cases here : k = .str name
    · -- the key that is kept is a text either way
      rw [if_pos here, List.forall_mem_cons, List.forall_mem_cons]
    · rw [if_neg here, List.forall_mem_cons, List.forall_mem_cons, ih]

end ConfigData

/-! ## Overrides -/

/-- The fault says what is wrong with the configuration. -/
def LoadFault.IsOfConfiguration : LoadFault → Prop
  | .unreadable _ .malformed => True
  | .notAMapping _ => True
  | .notAnInteger _ _ => True
  | .invalid _ => True
  | _ => False

/-- A fault that is not one of the configuration. -/
def Derailed {α : Type} (answer : Except LoadFault α) : Prop :=
  ∃ f, answer = .error f ∧ ¬f.IsOfConfiguration

theorem derailed_error_iff {α : Type} {f : LoadFault} :
    Derailed (.error f : Except LoadFault α) ↔ ¬f.IsOfConfiguration := by
  constructor
  · rintro ⟨_, same, other⟩
    rwa [Except.error.inj same]
  · exact fun other => ⟨f, rfl, other⟩

theorem not_derailed_ok {α : Type} (a : α) : ¬Derailed (.ok a : Except LoadFault α) := by
  rintro ⟨_, no, -⟩
  cases no

namespace Settings

/-- A variable is set and spells an integer. -/
def Spells (text : Option String) : Prop :=
  ∃ t, text = some t ∧ (spelledInteger? t).isSome

/-- What comes of one override. -/
inductive Overridden (name part : String) (text : Option String) (data : ConfigData) :
    Except LoadFault ConfigData → Prop
  | unset (unset : text = none) : Overridden name part text data (.ok data)
  | misspelled {t : String} (set : text = some t) (misspelled : spelledInteger? t = none) :
      Overridden name part text data (.error (.notAnInteger name t))
  | blocked {typeName : String} (spells : Spells text) (blocked : data.Blocked part) :
      Overridden name part text data (.error (.sectionNotAMapping typeName))
  | put {pairs : ConfigData} (spells : Spells text) (free : ¬data.Blocked part) :
      Overridden name part text data (.ok (data.put part (.map pairs)))

/-- A section has pairs unless it is blocked. -/
theorem sectionPairs_cases (part : String) (data : ConfigData) :
    (¬data.Blocked part ∧ ∃ pairs, sectionPairs part data = .ok pairs) ∨
      (data.Blocked part ∧
        ∃ typeName, sectionPairs part data = .error (.sectionNotAMapping typeName)) := by
  unfold ConfigData.Blocked
  rcases here : data.get? part with _ | v
  · refine .inl ⟨by simp, [], ?_⟩
    rw [sectionPairs, here]
  · by_cases isMap : ∃ pairs, v = .map pairs
    · obtain ⟨pairs, rfl⟩ := isMap
      refine .inl ⟨by simp, pairs, ?_⟩
      rw [sectionPairs, here]
    · -- what is no mapping blocks the section if it counts as true, and is empty otherwise
      have noMap : ∀ pairs, v ≠ .map pairs := fun pairs same => isMap ⟨pairs, same⟩
      have answer : sectionPairs part data =
          if v.holds then .error (.sectionNotAMapping v.typeName) else .ok [] := by
        rw [sectionPairs, here]
        cases v with
        | map pairs => exact absurd rfl (noMap pairs)
        | _ => rfl
      rw [answer]
      by_cases holds : v.holds = true
      · rw [if_pos holds]
        exact .inr ⟨⟨v, rfl, holds, noMap⟩, _, rfl⟩
      · rw [if_neg holds]
        refine .inl ⟨?_, [], rfl⟩
        rintro ⟨w, same, holds', -⟩
        rw [Option.some.inj same] at holds
        exact holds holds'

theorem overridden (name part key : String) (text : Option String) (data : ConfigData) :
    Overridden name part text data (overrideOne name part key text data) := by
  rcases text with _ | t
  · exact .unset rfl
  · rcases spelled : spelledInteger? t with _ | n
    · rw [overrideOne, spelled]
      exact .misspelled rfl spelled
    · have spells : Spells (some t) := ⟨t, rfl, by rw [spelled]; rfl⟩
      rw [overrideOne, spelled]
      rcases sectionPairs_cases part data with ⟨free, pairs, found⟩ | ⟨blocked, typeName, fault⟩
      · rw [found]
        exact .put spells free
      · rw [fault]
        exact .blocked spells blocked

/-- An override that neither fails nor is blocked. -/
def Passes (text : Option String) (part : String) (data : ConfigData) : Prop :=
  text = none ∨ Spells text ∧ ¬data.Blocked part

theorem Passes.free {text : Option String} {part : String} {data : ConfigData}
    (passes : Passes text part data) (spells : Spells text) : ¬data.Blocked part := by
  rcases passes with unset | ⟨-, free⟩
  · obtain ⟨t, set, -⟩ := spells
    rw [unset] at set
    cases set
  · exact free

/-- An override that is made leaves the other sections alone, and the keys of the file. -/
theorem Overridden.frame {name part : String} {text : Option String} {data data' : ConfigData}
    (made : Overridden name part text data (.ok data')) :
    Passes text part data ∧ (∀ other, other ≠ part → (data'.Blocked other ↔ data.Blocked other)) ∧
      (data'.TextKeys ↔ data.TextKeys) := by
  cases made with
  | unset unset => exact ⟨.inl unset, fun _ _ => Iff.rfl, Iff.rfl⟩
  | put spells free =>
    refine ⟨.inr ⟨spells, free⟩, ?_, ConfigData.textKeys_put part _ data⟩
    intro other ne
    exact ConfigData.blocked_put_of_ne ne _ data

/-- An override fails by its text or by its section. -/
theorem Overridden.fault {name part : String} {text : Option String} {data : ConfigData}
    {f : LoadFault} (failed : Overridden name part text data (.error f)) :
    ¬Passes text part data ∧ (¬f.IsOfConfiguration ↔ Spells text ∧ data.Blocked part) := by
  cases failed with
  | misspelled set misspelled =>
    have no : ¬Spells text := by
      rintro ⟨t, set', spelled⟩
      obtain rfl := Option.some.inj (set.symm.trans set')
      rw [misspelled] at spelled
      cases spelled
    refine ⟨?_, fun other => absurd trivial other, fun spells => absurd spells.1 no⟩
    rintro (unset | ⟨spells, -⟩)
    · rw [unset] at set
      cases set
    · exact no spells
  | blocked spells blocked =>
    exact ⟨fun passes => passes.free spells blocked, fun _ => ⟨spells, blocked⟩, fun _ => id⟩

/-- With an override before it, a step derails where the section is blocked, or else where the
step derails on data with the same keys and the same other sections. -/
theorem derailed_overrideOne_iff {α : Type} {name part key : String} {text : Option String}
    {data : ConfigData} {next : ConfigData → Except LoadFault α} {later : Prop}
    (frame : ∀ data' : ConfigData,
      (∀ other, other ≠ part → (data'.Blocked other ↔ data.Blocked other)) →
      (data'.TextKeys ↔ data.TextKeys) → (Derailed (next data') ↔ later)) :
    Derailed (overrideOne name part key text data >>= next) ↔
      Spells text ∧ data.Blocked part ∨ Passes text part data ∧ later := by
  have outcome := overridden name part key text data
  rcases made : overrideOne name part key text data with f | data'
  · rw [made] at outcome
    obtain ⟨stuck, other⟩ := outcome.fault
    show Derailed (.error f) ↔ _
    rw [derailed_error_iff, other]
    -- the override fails, so the step after it is never reached
    exact ⟨.inl, fun either => either.resolve_right fun passes => stuck passes.1⟩
  · rw [made] at outcome
    obtain ⟨passes, others, texts⟩ := outcome.frame
    show Derailed (next data') ↔ _
    rw [frame data' others texts]
    constructor
    · exact fun goesWrong => .inr ⟨passes, goesWrong⟩
    · rintro (⟨spells, blocked⟩ | ⟨-, goesWrong⟩)
      · exact absurd blocked (passes.free spells)
      · exact goesWrong

/-! ## Checking -/

/-- Rules are read if each of them is. -/
theorem checkRules_eq_valid_iff {ms : Entries Yaml.Value} {rules : Schema.Rules} :
    checkRules ms = .valid rules ↔
      defaulted ⟨"sample_size", "sample_size"⟩ 50
        (fun v => (integerAbove 0 v).map Int.toNat) ms = .valid rules.sampleSize ∧
      defaulted ⟨"kind_field", "kind_field"⟩ "_type" text ms = .valid rules.kindField ∧
      defaulted ⟨"default_kind", "default_kind"⟩ "default" text ms = .valid rules.defaultKind ∧
      defaulted ⟨"internal_prefix", "internal_prefix"⟩ "_" text ms = .valid rules.internalStart ∧
      defaulted ⟨"reserved_fields", "reserved_fields"⟩
        ["_type", "_id", "_embeddings", "_summaries"] (list text) ms = .valid rules.reserved := by
  unfold checkRules
  simp only [seq_eq_valid_iff, map_eq_valid_iff]
  constructor
  · rintro ⟨_, _, ⟨_, _, ⟨_, _, ⟨_, _, ⟨_, size, rfl⟩, kind, rfl⟩, default, rfl⟩, start, rfl⟩,
      reserved, rfl⟩
    exact ⟨size, kind, default, start, reserved⟩
  · rintro ⟨size, kind, default, start, reserved⟩
    exact ⟨_, _, ⟨_, _, ⟨_, _, ⟨_, _, ⟨_, size, rfl⟩, kind, rfl⟩, default, rfl⟩, start, rfl⟩,
      reserved, rfl⟩

/-- Rules that were checked ask for a sample of at least one document. -/
theorem sampleSize_pos_of_checkRules {ms : Entries Yaml.Value} {rules : Schema.Rules}
    (valid : checkRules ms = .valid rules) : 0 < rules.sampleSize := by
  obtain ⟨first, -⟩ := checkRules_eq_valid_iff.mp valid
  rcases defaulted_eq_valid_iff.mp first with ⟨v, -, read⟩ | ⟨-, absent⟩
  · obtain ⟨n, above, size⟩ := map_eq_valid_iff.mp read
    obtain ⟨m, -, bound⟩ := andThen_eq_valid_iff.mp above
    by_cases positive : ((0 : Nat) : Int) < m
    · rw [if_pos positive] at bound
      cases bound
      omega
    · rw [if_neg positive] at bound
      cases bound
  · omega

theorem sampleSize_pos_of_check {ms : Entries Yaml.Value} {s : Settings}
    (valid : check ms = .valid s) : 0 < s.rules.sampleSize := by
  obtain ⟨_, rules, query, detection, rfl⟩ := seq_eq_valid_iff.mp valid
  obtain ⟨depth, -, rfl⟩ := map_eq_valid_iff.mp query
  show 0 < rules.sampleSize
  rcases defaulted_eq_valid_iff.mp detection with ⟨v, -, read⟩ | ⟨-, rfl⟩
  · obtain ⟨members, -, valid⟩ := andThen_eq_valid_iff.mp read
    exact sampleSize_pos_of_checkRules valid
  · decide

/-- What comes of data that no variable overrides. -/
inductive Read (data : ConfigData) : Except LoadFault Settings → Prop
  | valid {s : Settings} (texts : data.TextKeys) (positive : 0 < s.rules.sampleSize) :
      Read data (.ok s)
  | invalid {issues : List Issue} (texts : data.TextKeys) : Read data (.error (.invalid issues))
  | key (others : ¬data.TextKeys) : Read data (.error .keyNotText)

theorem read_ofData (data : ConfigData) : Read data (ofData data) := by
  unfold ofData
  split
  case isTrue all =>
    have texts : data.TextKeys := by
      rintro ⟨k, v⟩ here
      have text := List.all_eq_true.mp all (k, v) here
      cases k with
      | str name => exact ⟨name, rfl⟩
      | _ => cases text
    rcases checked : check (Yaml.Value.named data) with s | issues
    · exact .valid texts (sampleSize_pos_of_check checked)
    · exact .invalid texts
  case isFalse some =>
    refine .key fun texts => some (List.all_eq_true.mpr ?_)
    rintro ⟨k, v⟩ here
    obtain ⟨name, rfl⟩ : ∃ name, k = .str name := texts (k, v) here
    rfl

theorem derailed_ofData_iff (data : ConfigData) : Derailed (ofData data) ↔ ¬data.TextKeys := by
  have read := read_ofData data
  generalize ofData data = answer at read
  cases read with
  | valid texts positive => exact iff_of_false (not_derailed_ok _) fun others => others texts
  | invalid texts =>
    rw [derailed_error_iff]
    exact iff_of_false (fun other => other trivial) fun others => others texts
  | key others =>
    rw [derailed_error_iff]
    exact iff_of_true id others

/-! ## Loading -/

/-- The first thing that goes wrong is no fault of the configuration: a variable would override
a value of a blocked section, or the overrides are made and some key is not a text. -/
inductive Derails (env : Overrides) (data : ConfigData) : Prop
  | depth (spells : Spells env.maxDepth) (blocked : data.Blocked "query")
  | sampleSize (depth : Passes env.maxDepth "query" data) (spells : Spells env.sampleSize)
      (blocked : data.Blocked "detection")
  | key (depth : Passes env.maxDepth "query" data)
      (sampleSize : Passes env.sampleSize "detection" data) (others : ¬data.TextKeys)

theorem derailed_load_iff (env : Overrides) (data : ConfigData) :
    Derailed (load env data) ↔ Derails env data := by
  have steps : load env data =
      overrideOne maxDepthVariable "query" "max_depth" env.maxDepth data >>= fun data =>
        overrideOne sampleSizeVariable "detection" "sample_size" env.sampleSize data >>= ofData := by
    rw [load, override, bind_assoc]
  have outcome : Derailed (load env data) ↔
      Spells env.maxDepth ∧ data.Blocked "query" ∨ Passes env.maxDepth "query" data ∧
        (Spells env.sampleSize ∧ data.Blocked "detection" ∨
          Passes env.sampleSize "detection" data ∧ ¬data.TextKeys) := by
    rw [steps]
    apply derailed_overrideOne_iff
    -- the second override reads the data of the first, but in another section
    intro data₁ others texts
    have same := others "detection" (by decide)
    rw [Passes, ← same, ← texts]
    apply derailed_overrideOne_iff
    intro data₂ _ texts'
    rw [derailed_ofData_iff, texts']
  rw [outcome]
  constructor
  · rintro (⟨spells, blocked⟩ | ⟨depth, ⟨spells, blocked⟩ | ⟨sampleSize, others⟩⟩)
    · exact .depth spells blocked
    · exact .sampleSize depth spells blocked
    · exact .key depth sampleSize others
  · rintro (⟨spells, blocked⟩ | ⟨depth, spells, blocked⟩ | ⟨depth, sampleSize, others⟩)
    · exact .inl ⟨spells, blocked⟩
    · exact .inr ⟨depth, .inl ⟨spells, blocked⟩⟩
    · exact .inr ⟨depth, .inr ⟨sampleSize, others⟩⟩

theorem sampleSize_pos_of_load {env : Overrides} {data : ConfigData} {s : Settings}
    (loaded : load env data = .ok s) : 0 < s.rules.sampleSize := by
  rcases made : override env data with f | data'
  · rw [load, made] at loaded
    cases loaded
  · have read := read_ofData data'
    rw [load, made] at loaded
    rw [show ofData data' = .ok s from loaded] at read
    cases read with
    | valid texts positive => exact positive

end Settings

/-! ## The settings of a store -/

/-- The settings file is not there, or it is read as a text that is malformed or has a
document. -/
def ConfigDirectory.HasReadableSettings (c : ConfigDirectory) : Prop :=
  c.directory.probe (.ofText settingsFile) = .ok false ∨
    c.directory.probe (.ofText settingsFile) = .ok true ∧
      ∃ text, c.directory.readText (.ofText settingsFile) = .ok text ∧
        ∀ f, Yaml.Document.ofText text = .error f → f = .malformed

theorem ConfigDirectory.not_derailed_documentOf (path : String) {text : String}
    (form : ∀ f, Yaml.Document.ofText text = .error f → f = .malformed) :
    ¬Derailed (documentOf path text) := by
  have notAMapping : ¬Derailed (.error (.notAMapping path) : Except LoadFault Yaml.Document) := by
    rw [derailed_error_iff]
    exact fun other => other trivial
  unfold documentOf
  rcases read : Yaml.Document.ofText text with f | d
  · rw [form f read, derailed_error_iff]
    exact fun other => other trivial
  · dsimp only
    cases d.cell d.root with
    | map _ => exact not_derailed_ok _
    | scalar v =>
      cases v with
      | null => exact not_derailed_ok _
      | _ => exact notAMapping
    | _ => exact notAMapping

theorem ConfigDirectory.not_derailed_document {c : ConfigDirectory}
    (readable : c.HasReadableSettings) : ¬Derailed (c.document settingsFile).1 := by
  rcases readable with absent | ⟨present, text, read, form⟩
  · have answer : (c.document settingsFile).1 = .ok Yaml.Document.noPairs := by
      unfold document
      dsimp only
      rw [absent]
    rw [answer]
    exact not_derailed_ok _
  · have answer : (c.document settingsFile).1 = documentOf (c.pathOf settingsFile) text := by
      unfold document
      dsimp only
      rw [present, read]
      dsimp only
      rcases documentOf (c.pathOf settingsFile) text <;> rfl
    rw [answer]
    exact not_derailed_documentOf _ form

namespace Store

/-- The settings of a store that keeps none come from the file and the environment, as it is once
the variables have been filled in. -/
theorem get_of_unkept {s : Store} (unkept : s.kept = none) :
    s.get.1.1 = (s.filled.directory.document ConfigDirectory.settingsFile).1 >>= fun d =>
      Settings.load s.filled.overrides (.ofDocument d) := by
  have answer : s.get.1.1 = s.fresh.1 := by
    rw [get, unkept]
    rcases s.fresh with ⟨_ | _, _⟩ <;> rfl
  rw [answer, fresh, read]
  rcases s.filled.directory.document ConfigDirectory.settingsFile with ⟨_ | _, _⟩ <;> rfl

/-- **Faults of the settings.** If the settings file can be read, the settings take a sample of
at least one document, or they fail by a fault of the configuration, but for one condition on
the data of the file and the variables (`Derails`), under which they fail in another way. The
variables are those of the environment, filled in from the file of variables, whatever it says. -/
theorem get_derails_iff {s : Store} (unkept : s.kept = none)
    (readable : s.filled.directory.HasReadableSettings) :
    (∀ settings, s.get.1.1 = .ok settings → 0 < settings.rules.sampleSize) ∧
      (Derailed s.get.1.1 ↔
        ∃ d, (s.filled.directory.document ConfigDirectory.settingsFile).1 = .ok d ∧
          Settings.Derails s.filled.overrides (.ofDocument d)) := by
  have sound := ConfigDirectory.not_derailed_document readable
  rw [get_of_unkept unkept]
  generalize (s.filled.directory.document ConfigDirectory.settingsFile).1 = answer at sound
  rcases answer with f | d
  · rw [derailed_error_iff] at sound
    refine ⟨fun _ => nofun, ?_⟩
    show Derailed (.error f : Except LoadFault Settings) ↔ _
    rw [derailed_error_iff]
    refine iff_of_false sound ?_
    rintro ⟨d, no, -⟩
    cases no
  · refine ⟨fun settings loaded => Settings.sampleSize_pos_of_load loaded, ?_⟩
    show Derailed (Settings.load s.filled.overrides (.ofDocument d)) ↔ _
    rw [Settings.derailed_load_iff]
    constructor
    · exact fun derails => ⟨d, rfl, derails⟩
    · rintro ⟨_, same, derails⟩
      cases same
      exact derails

/-- The text of a settings file with a key that is a number. -/
def numberKeyText : String := "1: 2\n"

/-- The document of the text above. -/
def numberKeyDocument : Yaml.Document where
  cells := #[.map [(⟨.int 1, 2⟩, 2)], .scalar (.int 1), .scalar (.int 2)]
  root := 0

/-- A store with the settings file above, and no variables. -/
def numberKey : Store where
  home := .withSettings "config" (some numberKeyText)

theorem get_derails_iff_numberKey :
    numberKey.kept = none ∧ numberKey.filled.directory.HasReadableSettings ∧
      Derailed numberKey.get.1.1 := by
  have read : Yaml.Document.ofText numberKeyText = .ok numberKeyDocument := by decide +kernel
  have readable : numberKey.filled.directory.HasReadableSettings := by
    refine .inr ⟨by decide, numberKeyText, by decide, fun f no => ?_⟩
    rw [read] at no
    cases no
  have document : (numberKey.filled.directory.document ConfigDirectory.settingsFile).1 =
      .ok numberKeyDocument := by decide +kernel
  have others : ¬(ConfigData.ofDocument numberKeyDocument).TextKeys := by
    intro texts
    obtain ⟨name, same⟩ := texts (.int 1, .scalar (.int 2)) List.mem_cons_self
    cases same
  obtain ⟨-, derails⟩ := get_derails_iff rfl readable
  exact ⟨rfl, readable, derails.mpr ⟨numberKeyDocument, document, .key (.inl rfl) (.inl rfl) others⟩⟩

/-- The text of a settings file with a section that is a number. -/
def numberSectionText : String := "query: 5\n"

/-- A store with the settings file above, and a variable that overrides a value of the section. -/
def numberSection : Store where
  home := .withSettings "config" (some numberSectionText)
  overrides := { maxDepth := some "10" }

/-- The section is not checked: it fails as the wrong type before that. -/
theorem get_numberSection :
    numberSection.kept = none ∧ numberSection.filled.directory.HasReadableSettings ∧
      numberSection.get.1.1 = .error (.sectionNotAMapping "int") ∧
      Derailed numberSection.get.1.1 := by
  have read : (Yaml.Document.ofText numberSectionText).toOption.isSome = true := by decide +kernel
  have readable : numberSection.filled.directory.HasReadableSettings := by
    refine .inr ⟨by decide, numberSectionText, by decide, fun f no => ?_⟩
    rw [no] at read
    cases read
  have answer : numberSection.get.1.1 = .error (.sectionNotAMapping "int") := by decide +kernel
  refine ⟨rfl, readable, answer, ?_⟩
  rw [answer, derailed_error_iff]
  exact id

end Store

end SearchDesk
