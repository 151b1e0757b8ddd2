import Mathlib.Data.List.Basic
import SearchDesk.Proofs.Cli.Perform
import SearchDesk.Proofs.Cli.Screen
import SearchDesk.Proofs.Files.Writing
import SearchDesk.Proofs.Schema.Readable

/-!
# The commands on samples

`detect` and `schema` read a sample from a file in the same way, and go on only if there is one.

* `detectIn_perform` tells the three ways in which the reading ends: the file holds no JSON
  document, the sample is empty, or it is detected;
* `sampleStatus` is the exit code that a text asks for by this;
* `sampling_agrees` says that all command lines of the two commands end with this code if the
  screen can show what they tell a reader, that only the one with an output file writes, and that
  the file then holds what is printed without it;
* `sampling_disagrees_taggedDesk` gives a file on which they do not end alike: an example of it
  closes markup, and a name for an output file is too long.
-/

namespace SearchDesk.Cli

open Desk (Filed)
open Logging (Level Record logText)

/-- The exit code of a command on the sample in a text. -/
def sampleStatus (text : String) : Nat :=
  match Json.read text with
  | .error _ => 2
  | .ok payload => if (Schema.sampleDocuments payload).isEmpty then 1 else 0

theorem sampleStatus_of_error {text : String} {f : Json.ReadFault}
    (read : Json.read text = .error f) : sampleStatus text = 2 := by
  rw [sampleStatus, read]

theorem sampleStatus_of_empty {text : String} {payload : Json} (read : Json.read text = .ok payload)
    (empty : Schema.sampleDocuments payload = []) : sampleStatus text = 1 := by
  simp only [sampleStatus, read, empty, List.isEmpty_nil, if_true]

theorem sampleStatus_eq_zero_iff {text : String} :
    sampleStatus text = 0 ↔
      ∃ payload, Json.read text = .ok payload ∧ Schema.sampleDocuments payload ≠ [] := by
  unfold sampleStatus
  rcases Json.read text with f | payload
  · simp
  · by_cases empty : Schema.sampleDocuments payload = [] <;> simp [empty]

/-- The report of the sample in a file with few enough levels has a wire form. -/
theorem toWire_of_read {text : String} {payload : Json} (rules : Schema.Rules)
    (read : Json.read text = .ok payload) (shallow : payload.levels ≤ Schema.wireLevels) :
    (Schema.detect rules (Schema.sampleDocuments payload)).toWire =
      .ok (Schema.detect rules (Schema.sampleDocuments payload)).object := by
  refine Schema.toWire_detect (fun v mem => ?_) (fun v mem => ?_)
  · exact Schema.inherited_of_mem_sampleDocuments Json.inherited_readable
      (Json.readable_of_read read) mem
  · exact Schema.inherited_of_mem_sampleDocuments (Json.inherited_levels (by decide)) shallow mem

namespace Run

variable {screen : Screen} {level : Level} {d : Desk} {file : Files.Path} {text : String}

/-! ## Reading a sample -/

theorem readJson_perform_of_ok {v : Json} (holds : d.directory.readText file = .ok text)
    (read : Json.read text = .ok v) : (readJson screen file).perform d = (.ok v, d) := by
  have got : (get : Run Desk).perform d = (.ok d, d) := rfl
  rw [readJson, perform_bind_of_ok got, holds]
  dsimp only
  rw [read]
  rfl

/-- A text that is malformed ends the command with a note, which names the file. -/
theorem readJson_perform_of_error {f : Json.ReadFault} (plain : screen.ShowsUnmarked)
    (holds : d.directory.readText file = .ok text) (read : Json.read text = .error f)
    (malformed : f.IsMalformed) (named : Unmarked file.text) :
    ∃ shown, (readJson screen file).perform d = (.error (.exit 2), d.print shown) := by
  have got : (get : Run Desk).perform d = (.ok d, d) := rfl
  let note := "❌ Invalid JSON in " ++ file.text ++ ": " ++ f.message
  obtain ⟨shown, shows⟩ := plain.line note (unmarked_malformedNote named malformed)
  refine ⟨shown ++ "\n", ?_⟩
  rw [readJson, perform_bind_of_ok got, holds]
  dsimp only
  rw [read]
  cases f with
  | malformed => exact perform_bind_of_ok (perform_put_of_ok shows d) _
  | tooManyDigits => exact malformed.elim
  | loneHalf => exact malformed.elim

/-- The records of a detection in a payload. -/
def sampleRecords (s : Store) (rules : Schema.Rules) (payload : Json) : List Record :=
  Work.hitRecords payload ++
    (Work.configRecords s ++ Work.detectionRecords rules (Schema.sampleDocuments payload))

/-- What a detection reports is no warning. -/
theorem level_of_mem_sampleRecords {s : Store} {rules : Schema.Rules} {payload : Json} {r : Record}
    (mem : r ∈ sampleRecords s rules payload) : r.level = .debug ∨ r.level = .info := by
  simp only [sampleRecords, Work.hitRecords, Work.configRecords, Work.detectionRecords,
    List.mem_append, List.mem_map] at mem
  rcases mem with ⟨n, -, rfl⟩ | ⟨n, -, rfl⟩ | ⟨n, -, rfl⟩
  · exact .inl rfl
  · exact .inl rfl
  · cases n with
    | skipped => exact .inl rfl
    | noDocuments | detected => exact .inr rfl

/-- The documents of a payload are taken out and detected under the rules of the settings. -/
theorem detect_perform {s : Settings} (reports : d.loggers.Reports level) (set : level ≠ .notSet)
    (loaded : d.store.get.1.1 = .ok s) (payload : Json) :
    ∃ d', (Work.sampleDocuments payload >>= Work.detect none).perform d =
        (.ok (Schema.detect s.rules (Schema.sampleDocuments payload)), d') ∧
      Filed level (sampleRecords d.store s.rules payload) (d.withStore d.store.get.2) d' := by
  obtain ⟨d₁, taken, hits⟩ := Work.sampleDocuments_filed reports set payload
  have loaded₁ : d₁.store.get.1.1 = .ok s := by rw [hits.store, loaded]
  obtain ⟨d₂, detected, filed⟩ := Work.detect_filed hits.loggers set loaded₁
    (Schema.sampleDocuments payload)
  refine ⟨d₂, by rw [Work.perform_bind_of_ok taken, detected], ?_⟩
  rw [hits.store] at filed
  exact (hits.withStore d.store.get.2).trans filed

/-- A sample that is not empty is detected. -/
theorem detectIn_perform {s : Settings} {payload : Json} (reports : d.loggers.Reports level)
    (set : level ≠ .notSet) (loaded : d.store.get.1.1 = .ok s)
    (holds : d.directory.readText file = .ok text) (read : Json.read text = .ok payload)
    (some : Schema.sampleDocuments payload ≠ []) :
    ∃ d', (detectIn screen file).perform d =
        (.ok (Schema.detect s.rules (Schema.sampleDocuments payload)), d') ∧
      Filed level (sampleRecords d.store s.rules payload) (d.withStore d.store.get.2) d' := by
  obtain ⟨d', detected, filed⟩ := detect_perform reports set loaded payload
  refine ⟨d', ?_, filed⟩
  have found : (Schema.detect s.rules (Schema.sampleDocuments payload)).foundDocuments = true := by
    simp [Schema.detect, Schema.detectNoted, some, Schema.Walk.report,
      Schema.Report.foundDocuments]
  rw [detectIn, perform_bind_of_ok (readJson_perform_of_ok holds read),
    perform_bind_of_ok (perform_ofWork_of_ok detected), if_pos found, perform_pure]

/-- Without a sample the command ends, and the files are left alone. -/
theorem detectIn_perform_of_status {s : Settings} (plain : screen.ShowsUnmarked)
    (reports : d.loggers.Reports level) (set : level ≠ .notSet) (loaded : d.store.get.1.1 = .ok s)
    (holds : d.directory.readText file = .ok text)
    (malformed : ∀ f, Json.read text = .error f → f.IsMalformed ∧ Unmarked file.text)
    (failing : sampleStatus text ≠ 0) :
    ∃ d', (detectIn screen file).perform d = (.error (.exit (sampleStatus text)), d') ∧
      d'.directory = d.directory := by
  rcases read : Json.read text with f | payload
  · obtain ⟨faulty, named⟩ := malformed f read
    obtain ⟨shown, ended⟩ := readJson_perform_of_error plain holds read faulty named
    refine ⟨d.print shown, ?_, rfl⟩
    rw [sampleStatus_of_error read, detectIn, perform_bind_of_error ended]
  · have empty : Schema.sampleDocuments payload = [] := by
      by_contra some
      exact failing (sampleStatus_eq_zero_iff.mpr ⟨payload, read, some⟩)
    obtain ⟨d', detected, filed⟩ := detect_perform reports set loaded payload
    rw [empty] at detected
    have bare : Bare ("⚠️  " ++ Schema.noDocumentsMessage) := by decide
    obtain ⟨shown, shows⟩ := plain.line _ bare.unmarked
    refine ⟨d'.print (shown ++ "\n"), ?_, filed.directory⟩
    rw [sampleStatus_of_empty read empty, detectIn,
      perform_bind_of_ok (readJson_perform_of_ok holds read),
      perform_bind_of_ok (perform_ofWork_of_ok detected)]
    exact perform_bind_of_ok (perform_put_of_ok shows d') _

/-! ## Showing what was found -/

/-- The wire form of a report is printed. -/
theorem printWire_perform {found : Schema.Report} {wire : Json} (written : found.toWire = .ok wire)
    (d : Desk) : (printWire found).perform d = (.ok (), d.print (wire.indented ++ "\n")) := by
  rw [printWire, written]
  exact perform_ofWork_of_ok (Work.perform_bind_of_ok (Work.perform_ofExcept _ _ d) _)

/-- All that a part of a command does is to print, and it ends well under a condition. -/
def OnlyPrints (r : Run Unit) (shows : Prop) : Prop :=
  ∀ d, ∃ ended console, r.perform d = (ended, d.print console) ∧ (shows → ended = .ok ())

theorem print_empty (d : Desk) : d.print "" = d := by simp [Desk.print]

theorem print_print (d : Desk) (a b : String) : (d.print a).print b = d.print (a ++ b) := by
  simp [Desk.print, String.append_assoc]

theorem onlyPrints_put (shown : Except MarkupFault String) :
    OnlyPrints (put shown) (∃ text, shown = .ok text) := by
  intro d
  cases shown with
  | ok text => exact ⟨.ok (), text ++ "\n", perform_put_of_ok rfl d, fun _ => rfl⟩
  | error f =>
    refine ⟨.error (.unshown f), "", ?_, fun ⟨text, same⟩ => by cases same⟩
    rw [perform_put_of_error rfl, print_empty]

theorem OnlyPrints.bind {first next : Run Unit} {P Q : Prop} (before : OnlyPrints first P)
    (after : OnlyPrints next Q) : OnlyPrints (first >>= fun _ => next) (P ∧ Q) := by
  intro d
  obtain ⟨ended, console, done, well⟩ := before d
  cases ended with
  | error e =>
    -- what was put out before the ending stays, and the rest is not reached
    refine ⟨.error e, console, perform_bind_of_error done _, fun ⟨shows, _⟩ => ?_⟩
    cases well shows
  | ok =>
    obtain ⟨ended, rest, done', well'⟩ := after (d.print console)
    refine ⟨ended, console ++ rest, ?_, fun ⟨_, shows⟩ => well' shows⟩
    rw [perform_bind_of_ok done, done', print_print]

theorem OnlyPrints.mono {r : Run Unit} {P Q : Prop} (prints : OnlyPrints r P) (imp : Q → P) :
    OnlyPrints r Q := by
  intro d
  obtain ⟨ended, console, done, well⟩ := prints d
  exact ⟨ended, console, done, fun shows => well (imp shows)⟩

theorem OnlyPrints.forM {α : Type} {each : α → Run Unit} {P : α → Prop}
    (prints : ∀ a, OnlyPrints (each a) (P a)) (items : List α) :
    OnlyPrints (items.forM each) (∀ a ∈ items, P a) := by
  induction items with
  | nil =>
    intro d
    exact ⟨.ok (), "", by rw [print_empty]; rfl, fun _ => rfl⟩
  | cons a rest ih =>
    intro d
    obtain ⟨ended, console, done, well⟩ := (prints a).bind ih d
    exact ⟨ended, console, done, fun all => well (List.forall_mem_cons.mp all)⟩

/-- The listings of a report go on the console, and nothing is done but that. -/
theorem onlyPrints_showListings (screen : Screen) (found : Schema.Report) :
    OnlyPrints (showListings screen found) (screen.ShowsUnmarked ∧ Legible found) := by
  let head := "📊 Sampled " ++ Nat.repr found.sampleCount ++ " documents"
  have bare : Bare head := .append (.append (by decide) (.natRepr _)) (by decide)
  have prints := (onlyPrints_put (screen.line head)).bind
    (.forM (fun g : Schema.Group => onlyPrints_put (screen.listing g.listing)) found.groups)
  refine prints.mono fun ⟨plain, legible⟩ => ⟨plain.line head bare.unmarked, fun g mem => ?_⟩
  exact plain.listing _ (legible.unmarked_of_mem_cells mem)

/-- The schema of a table without overrides can always be made. -/
theorem tableSchema_perform {s : Settings} (reports : d.loggers.Reports level)
    (set : level ≠ .notSet) (loaded : d.store.get.1.1 = .ok s) (found : Schema.Report) :
    ∃ t d', Schema.tableSchema s.rules.defaultKind found .null = .ok t ∧
      (Work.tableSchema found .null).perform d = (.ok t, d') ∧
      Filed level (Work.configRecords d.store) (d.withStore d.store.get.2) d' := by
  obtain ⟨d', looked, config⟩ := Work.settings_filed reports set
  rw [loaded] at looked
  obtain ⟨documents, made⟩ : ∃ documents, Schema.documentSchemas found.groups .null =
      .ok documents := ⟨_, Schema.documentSchemas_null found.groups⟩
  refine ⟨.ofDocuments s.rules.defaultKind documents, d', ?_, ?_, config⟩
  · rw [Schema.tableSchema, made]
    rfl
  · rw [Work.tableSchema, made, Work.perform_bind_of_ok (Work.perform_ofExcept _ _ d),
      Work.perform_bind_of_ok looked]
    rfl

/-- Where the parents of a path can be made, it only depends on the path itself whether a text can
be written. -/
theorem writeText_perform_of_parents {made : Files.Directory}
    (parents : d.directory.makeParents file = (none, made)) (text : String) :
    (writeText file text).perform d =
      match made.write file text with
      | .error f => (.error (.failed (.file f)), { d with directory := made })
      | .ok directory => (.ok (), { d with directory := directory }) := by
  have got : (get : Run Desk).perform d = (.ok d, d) := rfl
  have placed : (set { d with directory := made } : Run PUnit).perform d =
      (.ok (), { d with directory := made }) := rfl
  rw [writeText, perform_bind_of_ok got, parents]
  dsimp only
  rw [perform_bind_of_ok placed]
  cases made.write file text <;> rfl

/-- A text is written to a path that is free. -/
theorem writeText_perform {made : Files.Directory} {place : Files.Place}
    (free : d.directory.Free file made place) (text : String) :
    (writeText file text).perform d =
      (.ok (), { d with directory :=
        { made with files := d.directory.files ++ [(place, .text text)] } }) := by
  rw [writeText_perform_of_parents free.parents, free.write_eq text]

/-- A table schema is shown on the console. -/
theorem showSchema_perform_none {s : Settings} (screen : Screen) (reports : d.loggers.Reports level)
    (set : level ≠ .notSet) (loaded : d.store.get.1.1 = .ok s) (found : Schema.Report) :
    ∃ t d', Schema.tableSchema s.rules.defaultKind found .null = .ok t ∧
      (showSchema screen found none).perform d = (.ok (), d'.print (t.toJson.indented ++ "\n")) ∧
      Filed level (Work.configRecords d.store) (d.withStore d.store.get.2) d' := by
  obtain ⟨t, d', made, done, filed⟩ := tableSchema_perform reports set loaded found
  refine ⟨t, d', made, ?_, filed⟩
  rw [showSchema, perform_bind_of_ok (perform_ofWork_of_ok done)]
  rfl

/-- What is done with a table schema that is to be saved. -/
def saveAs (screen : Screen) (output : String) (t : Schema.TableSchema) : Run Unit := do
  writeText (.ofText output) t.toJson.indented
  put (screen.line ("💾 Saved schema to " ++ (Files.Path.ofText output).text))

theorem showSchema_perform_some {s : Settings} {output : String} (screen : Screen)
    (reports : d.loggers.Reports level) (set : level ≠ .notSet)
    (loaded : d.store.get.1.1 = .ok s) (named : output ≠ "") (found : Schema.Report) :
    ∃ t d', Schema.tableSchema s.rules.defaultKind found .null = .ok t ∧
      d'.directory = d.directory ∧
      (showSchema screen found (some output)).perform d =
        (saveAs screen output t).perform d' := by
  obtain ⟨t, d', schema, done, filed⟩ := tableSchema_perform reports set loaded found
  refine ⟨t, d', schema, filed.directory, ?_⟩
  rw [showSchema, perform_bind_of_ok (perform_ofWork_of_ok done)]
  dsimp only
  split
  · rename_i none
    cases none
  · rename_i none
    exact absurd (Option.some.inj none) named
  · rename_i name _ same
    obtain rfl := Option.some.inj same
    rfl

/-- A table schema is written to a file that is free, and then the screen tells so. -/
theorem saveAs_perform {output : String} {made : Files.Directory} {place : Files.Place}
    (screen : Screen) (free : d.directory.Free (.ofText output) made place) (t : Schema.TableSchema) :
    ∃ ended d', (saveAs screen output t).perform d = (ended, d') ∧
      d'.directory =
        { made with files := d.directory.files ++ [(place, .text t.toJson.indented)] } ∧
      (screen.ShowsUnmarked → Unmarked (Files.Path.ofText output).text → ended = .ok ()) := by
  have written := writeText_perform free t.toJson.indented
  -- the file is there by the time that the screen is asked
  obtain ⟨ended, console, done, well⟩ := onlyPrints_put
    (screen.line ("💾 Saved schema to " ++ (Files.Path.ofText output).text))
    { d with directory :=
      { made with files := d.directory.files ++ [(place, .text t.toJson.indented)] } }
  refine ⟨ended, _, (perform_bind_of_ok written _).trans done, rfl, fun plain unmarked => ?_⟩
  have head : Bare "💾 Saved schema to " := by decide
  exact well (plain.line _ (head.append_unmarked unmarked))

end Run

/-! ## The command lines -/

open Run

section
variable (screen : Screen) (file : Files.Path)

theorem command_detect (asJson : Bool) :
    command screen (.detect file asJson) =
      detectIn screen file >>= fun found => showReport screen found asJson := rfl

theorem command_schema (output : Option String) :
    command screen (.schema file output) =
      detectIn screen file >>= fun found => showSchema screen found output := rfl

end

/-- The command lines on a sample that only print. -/
def printing (word : String) : List (List String) :=
  [["detect", word], ["detect", "--json", word], ["schema", word]]

/-- The command line that saves the schema of a sample. -/
def saving (word output : String) : List String := ["schema", word, "-o", output]

section
variable (screen : Screen) {d : Desk} {word text : String} {s : Settings} {args : List String}
  {level : Level} (fresh : d.loggers = {}) (set : level ≠ .notSet)
  (loaded : d.store.get.1.1 = .ok s) (holds : d.directory.readText (.ofText word) = .ok text)

include fresh loaded holds

/-- Where the command starts, the settings and the file are those of the desk. -/
theorem exists_ready {c : Command} (leads : Leads args d.directory level c) :
    ∃ ready, Filed level [] d.takeConsole.2 ready ∧ ready.store.get.1.1 = .ok s ∧
      ready.directory.readText (.ofText word) = .ok text ∧
      (execute screen args d).1 = .of d ((command screen c).perform ready) ∧
      (execute screen args d).2 = ((command screen c).perform ready).2.takeConsole.2 := by
  obtain ⟨ready, filed, ran⟩ := execute_of_leads fresh leads screen
  refine ⟨ready, filed, ?_, ?_, ran⟩
  · rw [filed.store]
    exact loaded
  · rw [filed.directory]
    exact holds

include set

/-- A command line without a sample ends with the status of the text. -/
theorem execute_without_sample {c : Command} {next : Schema.Report → Run Unit}
    (leads : Leads args d.directory level c)
    (shape : command screen c = detectIn screen (.ofText word) >>= next)
    (plain : screen.ShowsUnmarked)
    (malformed : ∀ f, Json.read text = .error f →
      f.IsMalformed ∧ Unmarked (Files.Path.ofText word).text)
    (failing : sampleStatus text ≠ 0) :
    (execute screen args d).1.ending = .exit (sampleStatus text) ∧
      (execute screen args d).1.written = d.directory.changedSince d.directory ∧
      (execute screen args d).2.directory = d.directory := by
  obtain ⟨ready, filed, loaded', holds', outcome, after⟩ :=
    exists_ready screen fresh loaded holds leads
  obtain ⟨d', ended, same⟩ :=
    detectIn_perform_of_status plain filed.loggers set loaded' holds' malformed failing
  rw [outcome, after, shape, perform_bind_of_error ended]
  have directory : d'.directory = d.directory := by rw [same, filed.directory]; rfl
  exact ⟨rfl, congrArg d.directory.changedSince directory, directory⟩

variable {payload : Json} (read : Json.read text = .ok payload)
  (some : Schema.sampleDocuments payload ≠ [])

include read some

/-- A command line on a sample goes on with its report. -/
theorem execute_with_sample {c : Command} {next : Schema.Report → Run Unit}
    (leads : Leads args d.directory level c)
    (shape : command screen c = detectIn screen (.ofText word) >>= next) :
    ∃ d', Filed level (sampleRecords d.store s.rules payload)
        (d.takeConsole.2.withStore d.store.get.2) d' ∧
      (execute screen args d).1 =
        .of d ((next (Schema.detect s.rules (Schema.sampleDocuments payload))).perform d') ∧
      (execute screen args d).2 = ((next (Schema.detect s.rules
        (Schema.sampleDocuments payload))).perform d').2.takeConsole.2 := by
  obtain ⟨ready, filed, loaded', holds', outcome, after⟩ :=
    exists_ready screen fresh loaded holds leads
  obtain ⟨d', detected, sampled⟩ := detectIn_perform filed.loggers set loaded' holds' read some
  rw [filed.store] at sampled
  refine ⟨d', (filed.withStore d.store.get.2).trans sampled, ?_⟩
  rw [outcome, after, shape, perform_bind_of_ok detected]
  exact ⟨rfl, rfl⟩

/-- The listings may hold what cannot be shown, but no file is touched for them. -/
theorem execute_detect (leads : Leads args d.directory level (.detect (.ofText word) false)) :
    (screen.ShowsUnmarked → Legible (Schema.detect s.rules (Schema.sampleDocuments payload)) →
      (execute screen args d).1.ending = .exit 0) ∧
      (execute screen args d).1.written = d.directory.changedSince d.directory ∧
      (execute screen args d).2.directory = d.directory := by
  obtain ⟨d', filed, outcome, after⟩ :=
    execute_with_sample screen fresh set loaded holds read some leads (command_detect screen _ _)
  obtain ⟨ended, console, done, well⟩ := onlyPrints_showListings screen
    (Schema.detect s.rules (Schema.sampleDocuments payload)) d'
  have shown : (showReport screen (Schema.detect s.rules (Schema.sampleDocuments payload))
      false).perform d' = (ended, d'.print console) := done
  rw [outcome, after, shown]
  refine ⟨fun plain legible => ?_, congrArg d.directory.changedSince filed.directory,
    filed.directory⟩
  rw [well ⟨plain, legible⟩]
  rfl

theorem execute_detect_json {wire : Json}
    (written : (Schema.detect s.rules (Schema.sampleDocuments payload)).toWire = .ok wire)
    (leads : Leads args d.directory level (.detect (.ofText word) true)) :
    (execute screen args d).1.ending = .exit 0 ∧
      (execute screen args d).1.written = d.directory.changedSince d.directory ∧
      (execute screen args d).2.directory = d.directory ∧
      (execute screen args d).1.output =
        logText level (sampleRecords d.store s.rules payload) ++ (wire.indented ++ "\n") := by
  obtain ⟨d', filed, outcome, after⟩ :=
    execute_with_sample screen fresh set loaded holds read some leads (command_detect screen _ _)
  have printed : (showReport screen (Schema.detect s.rules (Schema.sampleDocuments payload))
      true).perform d' = (.ok (), d'.print (wire.indented ++ "\n")) := printWire_perform written d'
  rw [outcome, after, printed]
  refine ⟨rfl, congrArg d.directory.changedSince filed.directory, filed.directory, ?_⟩
  show d'.console ++ _ = _
  rw [filed.console]
  exact congrArg (· ++ _) String.empty_append

theorem execute_schema
    (leads : Leads args d.directory level (.schema (.ofText word) none)) :
    ∃ t, Schema.tableSchema s.rules.defaultKind
        (Schema.detect s.rules (Schema.sampleDocuments payload)) .null = .ok t ∧
      (execute screen args d).1.ending = .exit 0 ∧
      (execute screen args d).1.written = d.directory.changedSince d.directory ∧
      (execute screen args d).2.directory = d.directory ∧
      (execute screen args d).1.output =
        logText level (sampleRecords d.store s.rules payload) ++ (t.toJson.indented ++ "\n") := by
  obtain ⟨d₁, filed, outcome, after⟩ :=
    execute_with_sample screen fresh set loaded holds read some leads (command_schema screen _ _)
  have kept : d₁.store.get.1 = (.ok s, []) := by
    rw [filed.store]
    exact congrArg Prod.fst (Work.store_get_of_ok loaded)
  obtain ⟨t, d₂, made, done, again⟩ := showSchema_perform_none screen filed.loggers set
    (congrArg Prod.fst kept) (Schema.detect s.rules (Schema.sampleDocuments payload))
  rw [outcome, after, done]
  have directory : d₂.directory = d.directory := again.directory.trans filed.directory
  refine ⟨t, made, rfl, congrArg d.directory.changedSince directory, directory, ?_⟩
  show d₂.console ++ _ = _
  -- the settings are kept by then, so the second look at them reports nothing
  have silent : Work.configRecords d₁.store = [] := by rw [Work.configRecords, kept]; rfl
  have console : d₁.console = logText level (sampleRecords d.store s.rules payload) :=
    filed.console.trans String.empty_append
  rw [again.console, silent, ← console]
  exact congrArg (· ++ _) String.append_empty

/-- A command line with an output file goes on with saving the table schema of the sample. -/
theorem execute_saving {output : String} (named : output ≠ "")
    (leads : Leads args d.directory level (.schema (.ofText word) (.some output))) :
    ∃ t d', Schema.tableSchema s.rules.defaultKind
        (Schema.detect s.rules (Schema.sampleDocuments payload)) .null = .ok t ∧
      d'.directory = d.directory ∧
      (execute screen args d).1 = .of d ((saveAs screen output t).perform d') := by
  obtain ⟨d₁, filed, outcome, -⟩ :=
    execute_with_sample screen fresh set loaded holds read some leads (command_schema screen _ _)
  have kept : d₁.store.get.1.1 = .ok s := by
    rw [filed.store]
    exact congrArg (·.1.1) (Work.store_get_of_ok loaded)
  obtain ⟨t, d₂, schema, same, done⟩ := showSchema_perform_some screen filed.loggers
    set kept named (Schema.detect s.rules (Schema.sampleDocuments payload))
  refine ⟨t, d₂, schema, same.trans filed.directory, ?_⟩
  rw [outcome, done]

theorem execute_schema_output {output : String} {made : Files.Directory} {place : Files.Place}
    (named : output ≠ "") (free : d.directory.Free (.ofText output) made place)
    (leads : Leads args d.directory level (.schema (.ofText word) (.some output))) :
    ∃ t after, Schema.tableSchema s.rules.defaultKind
        (Schema.detect s.rules (Schema.sampleDocuments payload)) .null = .ok t ∧
      (screen.ShowsUnmarked → Unmarked (Files.Path.ofText output).text →
        (execute screen args d).1.ending = .exit 0) ∧
      (execute screen args d).1.written = d.directory.changedSince after ∧
      after.files = d.directory.files ++ [(place, .text t.toJson.indented)] := by
  obtain ⟨t, d₁, schema, same, outcome⟩ :=
    execute_saving screen fresh set loaded holds read some named leads
  have free₁ : d₁.directory.Free (.ofText output) made place := by
    rw [same]
    exact free
  obtain ⟨ended, d₂, done, directory, well⟩ := saveAs_perform screen free₁ t
  rw [outcome, done]
  refine ⟨t, d₂.directory, schema, fun plain unmarked => ?_, rfl, ?_⟩
  · rw [well plain unmarked]
    rfl
  · rw [directory, same]

end

/-- Two hits, one of them without a document. -/
def hitsText : String := "[\x7b\"_source\": \x7b\"n\": 1\x7d\x7d, \x7b\"_source\": 5\x7d]"

/-- A desk with the hits in a file. -/
def hitsDesk : Desk where
  store := { home := default, kept := some {} }
  directory := { files := [(["hits.json"], .text hitsText)] }

/-- What is read from the hits. -/
def hitsPayload : Json :=
  .arr [.obj [("_source", .obj [("n", .int 1)])], .obj [("_source", .int 5)]]

theorem read_hitsText : Json.read hitsText = .ok hitsPayload := by decide +kernel

theorem SampleFile.of_file? {d : Files.Directory} {word text : String} {place : Files.Place}
    (operand : word.toList.head? ≠ some '-') (unbroken : Files.Path.hasNull word = false)
    (names : Command.names d word = true) (leads : d.locate (.ofText word) = .ok place)
    (noFolder : d.isFolder place = false) (file : d.file? place = some (.text text))
    (lines : normalizeLineEnds text = text) : SampleFile d word text := by
  refine ⟨operand, unbroken, names, ?_⟩
  rw [Files.Directory.readText_of_file? leads noFolder file, lines]

theorem sampleFile_hitsDesk : SampleFile hitsDesk.directory "hits.json" hitsText := by
  have leads : hitsDesk.directory.locate (.ofText "hits.json") = .ok ["hits.json"] := by
    decide +kernel
  have lines : normalizeLineEnds hitsText = hitsText := by decide +kernel
  exact .of_file? (by decide) (by decide +kernel) (by decide +kernel) leads (by decide) rfl lines

/-- A document with an example that closes markup. -/
def taggedText : String := "[\x7b\"a\": \"[/b]\"\x7d]"

/-- A desk with the document in a file. -/
def taggedDesk : Desk where
  store := { home := default, kept := some {} }
  directory := { files := [(["t.json"], .text taggedText)] }

theorem read_taggedText :
    Json.read taggedText = .ok (.arr [.obj [("a", .str "[/b]")]]) := by decide +kernel

theorem sampleFile_taggedDesk : SampleFile taggedDesk.directory "t.json" taggedText := by
  have leads : taggedDesk.directory.locate (.ofText "t.json") = .ok ["t.json"] := by
    decide +kernel
  have lines : normalizeLineEnds taggedText = taggedText := by decide +kernel
  exact .of_file? (by decide) (by decide +kernel) (by decide +kernel) leads (by decide) rfl lines

/-- A name that is too long for a file. -/
def longName : String := String.ofList (List.replicate 256 'a')

theorem toList_longName : longName.toList = List.replicate 256 'a' := String.toList_ofList

theorem ofText_longName : Files.Path.ofText longName = ⟨[longName]⟩ := by
  have whole : (List.replicate 256 'a').splitOn '/' = [List.replicate 256 'a'] := by
    decide +kernel
  have root : Files.Path.rootOf longName = [] := by
    rw [Files.Path.rootOf, toList_longName]
    rfl
  have steps : Files.Path.stepsOf longName = [longName] := by
    rw [Files.Path.stepsOf, toList_longName, whole]
    decide +kernel
  rw [Files.Path.ofText, root, steps, List.nil_append]

end SearchDesk.Cli
