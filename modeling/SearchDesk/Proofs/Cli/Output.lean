import SearchDesk.Proofs.Cli.Sampling
import SearchDesk.Proofs.Query.Readable
import SearchDesk.Proofs.Schema.Readable

/-!
# The output of command lines as documents

The console takes the lines of the log as well as the result of a command, so the result alone is
the whole output only where no line of the log passes the level.

* `Prints` says what a command line puts on the console: the lines of its records that pass, then
  the text of a value, which reads back;
* `read_logText_append` is why the whole is no document when a record passes: a line of the log
  starts with a date, and no document does;
* `output_at_level` says which values the three commands print, and at which levels the output is
  a document.
-/

namespace SearchDesk.Cli

open Desk (Filed)
open Logging (Level Record logText)

/-! ## Lines of the log are no document -/

/-- A line starts with a date. -/
theorem exists_toList_consoleLine (r : Record) :
    ∃ rest, r.consoleLine.toList = decimalDigits 1970 ++ '-' :: rest := by
  have date : "1970-01-01 00:00:00 - ".toList =
      decimalDigits 1970 ++ '-' :: "01-01 00:00:00 - ".toList := by decide
  unfold Record.consoleLine
  simp only [String.toList_append, date, List.append_assoc, List.cons_append]
  exact ⟨_, rfl⟩

theorem read_consoleLine_append_ne_ok (r : Record) (text : String) (v : Json) :
    Json.read (r.consoleLine ++ text) ≠ .ok v := by
  intro read
  have whole := Json.document_of_read read
  obtain ⟨rest, date⟩ := exists_toList_consoleLine r
  rw [String.toList_append, date, List.append_assoc, List.cons_append] at whole
  exact Json.Reader.document_date_ne_ok (by decide) _ v whole

/-- With a line of the log before it a text is no document. -/
theorem read_logText_append {level : Level} {records : List Record} {text : String} {v : Json}
    (read : Json.read (logText level records ++ text) = .ok v) :
    ∀ r ∈ records, r.level.passes level = false := by
  induction records with
  | nil => simp
  | cons r rest ih =>
    rw [logText] at read
    by_cases passes : r.level.passes level = true
    · rw [if_pos passes, String.append_assoc] at read
      exact absurd read (read_consoleLine_append_ne_ok r _ v)
    · rw [if_neg passes, String.empty_append] at read
      exact List.forall_mem_cons.mpr ⟨by simpa using passes, ih read⟩

/-- A command line prints a value: on the console are the lines of its records that pass the level
and then the text of the value. The whole is a document only if the log is silent, and stands for
the value then. -/
structure Prints (screen : Screen) (args : List String) (d : Desk) (least : Level)
    (records : List Record) (v : Json) (silent : Prop) : Prop where
  ending : (execute screen args d).1.ending = .exit 0
  output : (execute screen args d).1.output = logText least records ++ (v.indented ++ "\n")
  document : Json.read (v.indented ++ "\n") = .ok v
  whole : ∀ w, Json.read (execute screen args d).1.output = .ok w ↔ w = v ∧ silent

theorem prints_of_readable {screen : Screen} {args : List String} {d : Desk} {least : Level}
    {records : List Record} {v : Json} {silent : Prop} (readable : v.Readable)
    (ending : (execute screen args d).1.ending = .exit 0)
    (output : (execute screen args d).1.output = logText least records ++ (v.indented ++ "\n"))
    (below : (∀ r ∈ records, r.level.passes least = false) ↔ silent) :
    Prints screen args d least records v silent := by
  have document := Json.read_indented readable
  refine ⟨ending, output, document, fun w => ?_⟩
  rw [output, ← below]
  constructor
  · intro read
    have nothing := read_logText_append read
    rw [Logging.logText_eq_empty nothing, String.empty_append, document] at read
    exact ⟨(Except.ok.inj read).symm, nothing⟩
  · rintro ⟨rfl, nothing⟩
    rw [Logging.logText_eq_empty nothing, String.empty_append, document]

/-! ## Canonicalization -/

/-- The records of the canonicalization of a query in a file. -/
def queryRecords (store : Store) (s : Settings) (file : Files.Path) (query : Json) : List Record :=
  Area.commands.record .debug ("Canonicalizing query from " ++ file.text) ::
    (Work.configRecords store ++
      Work.noticeRecords (Query.canonicalizeNoted 0 s.maxDepth query).notices)

theorem level_of_mem_queryRecords {store : Store} {s : Settings} {file : Files.Path} {query : Json}
    {r : Record} (mem : r ∈ queryRecords store s file query) : r.level = .debug := by
  simp only [queryRecords, Work.configRecords, Work.noticeRecords, List.mem_cons, List.mem_append,
    List.mem_map] at mem
  rcases mem with rfl | ⟨_, -, rfl⟩ | ⟨_, -, rfl⟩ <;> rfl

/-- A query is canonicalized under the ceiling of the settings, and its canonical form printed. -/
theorem Run.canonicalize_perform {d : Desk} {level : Level} {s : Settings}
    (reports : d.loggers.Reports level) (set : level ≠ .notSet)
    (loaded : d.store.get.1.1 = .ok s) (file : Files.Path) (query : Json) :
    ∃ d', (Run.canonicalize file none query).perform d =
        (.ok (), d'.print ((Query.canonicalize 0 s.maxDepth query).indented ++ "\n")) ∧
      Filed level (queryRecords d.store s file query) (d.withStore d.store.get.2) d' := by
  let line := "Canonicalizing query from " ++ file.text
  let told := d.report (Area.commands.record .debug line)
  have first : Filed level [Area.commands.record .debug line] d told :=
    .report reports set .commands .debug line
  have reported : (Work.report .commands .debug line).perform d = (.ok (), told) :=
    Work.perform_report .commands .debug line d
  have loaded' : told.store.get.1.1 = .ok s := by
    rw [first.store]
    exact loaded
  obtain ⟨d', formed, canonical⟩ := Work.canonicalize_filed first.loggers set loaded' 0 query
  refine ⟨d', perform_ofWork_of_ok ?_, ?_⟩
  · rw [Work.perform_bind_of_ok reported, Work.perform_bind_of_ok formed]
    rfl
  · rw [first.store] at canonical
    exact (first.withStore d.store.get.2).trans canonical

theorem execute_canonicalize (screen : Screen) {d : Desk} {word text : String} {s : Settings}
    {args : List String} {level : Level} {query : Json} (fresh : d.loggers = {}) (set : level ≠ .notSet)
    (loaded : d.store.get.1.1 = .ok s) (holds : d.directory.readText (.ofText word) = .ok text)
    (read : Json.read text = .ok query)
    (leads : Leads args d.directory level (.canonicalize (.ofText word) false none)) :
    (execute screen args d).1.ending = .exit 0 ∧
      (execute screen args d).1.output =
        logText level (queryRecords d.store s (.ofText word) query) ++
          ((Query.canonicalize 0 s.maxDepth query).indented ++ "\n") := by
  obtain ⟨ready, filed, loaded', holds', outcome, -⟩ := exists_ready screen fresh loaded holds leads
  obtain ⟨d', printed, canonical⟩ :=
    Run.canonicalize_perform filed.loggers set loaded' (.ofText word) query
  have done : (Run.command screen (.canonicalize (.ofText word) false none)).perform ready =
      (.ok (), d'.print ((Query.canonicalize 0 s.maxDepth query).indented ++ "\n")) := by
    show (Run.readJson screen (.ofText word) >>= fun query =>
      Run.canonicalize (.ofText word) none query).perform ready = _
    rw [Run.perform_bind_of_ok (Run.readJson_perform_of_ok holds' read), printed]
  rw [filed.store] at canonical
  have console := ((filed.withStore d.store.get.2).trans canonical).console
  rw [outcome, done]
  refine ⟨rfl, ?_⟩
  show d'.console ++ _ = _
  rw [console]
  exact congrArg (· ++ _) String.empty_append

/-! ## The levels -/

/-- The levels that may be asked for, and what passes them. -/
theorem exists_level {name : String} (known : name ∈ Invocation.levels) :
    ∃ least, Level.ofSetting name = .ok least ∧ least ≠ .notSet ∧
      levelName (some name) = some name ∧
      (Level.debug.passes least = false ↔ name ≠ "DEBUG") ∧
      (Level.info.passes least = false ↔ name = "WARNING" ∨ name = "ERROR") := by
  simp only [Invocation.levels, List.mem_cons, List.not_mem_nil, or_false] at known
  rcases known with rfl | rfl | rfl | rfl
  · exact ⟨.debug, by decide, by decide, by decide, by decide, by decide⟩
  · exact ⟨.info, by decide, by decide, by decide, by decide, by decide⟩
  · exact ⟨.warning, by decide, by decide, by decide, by decide, by decide⟩
  · exact ⟨.error, by decide, by decide, by decide, by decide, by decide⟩

/-- Every canonicalization reports at the level `DEBUG`, and at no other. -/
theorem queryRecords_below_iff (store : Store) (s : Settings) (file : Files.Path) (query : Json)
    {least : Level} :
    (∀ r ∈ queryRecords store s file query, r.level.passes least = false) ↔
      Level.debug.passes least = false := by
  constructor
  · intro below
    exact below _ List.mem_cons_self
  · intro below r mem
    rw [level_of_mem_queryRecords mem]
    exact below

/-- Every detection in a sample reports at the level `INFO` in the end, and at no higher one. -/
theorem sampleRecords_below_iff (store : Store) (rules : Schema.Rules) {payload : Json}
    {least : Level} (some : Schema.sampleDocuments payload ≠ []) :
    (∀ r ∈ Run.sampleRecords store rules payload, r.level.passes least = false) ↔
      Level.info.passes least = false := by
  constructor
  · intro below
    -- the last record tells what was detected
    obtain ⟨notices, last, all, info⟩ : ∃ notices last,
        (Schema.detectNoted rules (Schema.sampleDocuments payload)).2 = notices ++ [last] ∧
          last.level = .info := by
      rw [Schema.detectNoted, if_neg (by simpa using some)]
      exact ⟨_, _, rfl, rfl⟩
    have filed : Area.detection.record last.level last.message ∈
        Run.sampleRecords store rules payload := by
      apply List.mem_append_right
      apply List.mem_append_right
      rw [Work.detectionRecords, all]
      exact List.mem_map.mpr ⟨last, List.mem_append_right _ List.mem_cons_self, rfl⟩
    rw [← info]
    exact below _ filed
  · intro below r mem
    have debug : Level.debug.passes least = false := by
      revert below
      cases least <;> decide
    rcases Run.level_of_mem_sampleRecords mem with level | level <;> rw [level]
    · exact debug
    · exact below

/-- **Output.** At every log level that may be asked for, the three commands end well on a file
with a JSON document, and print the canonical form of a query, the wire form of the report of a
sample and its table schema, whatever the screen: the output is the lines of the records that pass
the level, in the order in which they were filed, and then one document, which stands for the value.
The whole output is a document exactly if no record passes: for a query at all levels but `DEBUG`,
for a sample at `WARNING` and `ERROR`. -/
theorem output_at_level {d : Desk} {word text name : String} {s : Settings} {payload : Json}
    (screen : Screen) (fresh : d.loggers = {}) (loaded : d.store.get.1.1 = .ok s)
    (file : SampleFile d.directory word text) (read : Json.read text = .ok payload)
    (known : name ∈ Invocation.levels) :
    ∃ least, Level.ofSetting name = .ok least ∧
      Prints screen ["--log-level", name, "canonicalize", word] d least
        (queryRecords d.store s (.ofText word) payload)
        (Query.canonicalize 0 s.maxDepth payload) (name ≠ "DEBUG") ∧
      (Schema.sampleDocuments payload ≠ [] →
        (payload.levels ≤ Schema.wireLevels →
          (Schema.sampleDocuments payload).length < 10 ^ digitLimit →
          ∃ wire, (Schema.detect s.rules (Schema.sampleDocuments payload)).toWire = .ok wire ∧
            Prints screen ["--log-level", name, "detect", "--json", word] d least
              (Run.sampleRecords d.store s.rules payload) wire
              (name = "WARNING" ∨ name = "ERROR")) ∧
        ∃ t, Schema.tableSchema s.rules.defaultKind
            (Schema.detect s.rules (Schema.sampleDocuments payload)) .null = .ok t ∧
          Prints screen ["--log-level", name, "schema", word] d least
            (Run.sampleRecords d.store s.rules payload) t.toJson
            (name = "WARNING" ∨ name = "ERROR")) := by
  obtain ⟨least, stands, set, asked, ofQuery, ofSample⟩ := exists_level known
  have readable := Json.readable_of_read read
  refine ⟨least, stands, ?_, fun some => ⟨fun shallow few => ?_, ?_⟩⟩
  · have leads := leads_canonicalize file asked stands
    obtain ⟨ending, output⟩ :=
      execute_canonicalize screen fresh set loaded file.holds read leads
    exact prints_of_readable (Query.readable_canonicalize 0 _ readable) ending output
      ((queryRecords_below_iff _ _ _ _).trans ofQuery)
  · have each := fun v => Schema.inherited_of_mem_sampleDocuments (v := v)
      Json.inherited_readable readable
    have wire := toWire_of_read s.rules read shallow
    have leads := leads_detect_json file asked stands
    obtain ⟨ending, -, -, output⟩ :=
      execute_detect_json screen fresh set loaded file.holds read some wire leads
    exact ⟨_, wire, prints_of_readable (Schema.readable_object_detect each few) ending output
      ((sampleRecords_below_iff _ _ some).trans ofSample)⟩
  · have leads := leads_schema file asked stands
    obtain ⟨t, made, ending, -, -, output⟩ :=
      execute_schema screen fresh set loaded file.holds read some leads
    exact ⟨t, made, prints_of_readable (Schema.readable_tableSchema made) ending output
      ((sampleRecords_below_iff _ _ some).trans ofSample)⟩

/-- At `INFO` a query is alone on the console, and what is found in a sample is not. -/
theorem output_at_level_hitsDesk :
    SampleFile hitsDesk.directory "hits.json" hitsText ∧ Json.read hitsText = .ok hitsPayload ∧
      "INFO" ∈ Invocation.levels ∧
      Json.read (execute .plain ["--log-level", "INFO", "canonicalize", "hits.json"]
        hitsDesk).1.output = .ok Query.emptyQuery ∧
      (∀ w, Json.read (execute .plain ["--log-level", "INFO", "detect", "--json", "hits.json"]
        hitsDesk).1.output ≠ .ok w) ∧
      ∃ t : Schema.TableSchema, (execute .plain ["--log-level", "INFO", "schema", "hits.json"]
          hitsDesk).1.output =
        logText .info (Run.sampleRecords hitsDesk.store (Settings.rules {}) hitsPayload) ++
          (t.toJson.indented ++ "\n") := by
  have known : "INFO" ∈ Invocation.levels := by decide
  have few : (Schema.sampleDocuments hitsPayload).length < 10 ^ digitLimit :=
    Nat.lt_of_lt_of_le (by decide : 2 < 10 ^ 1) (Nat.pow_le_pow_right (by decide) (by decide))
  obtain ⟨least, stands, query, ofSample⟩ :=
    output_at_level (s := {}) .plain rfl rfl sampleFile_hitsDesk read_hitsText known
  obtain ⟨detected, t, -, schema⟩ := ofSample (by decide)
  obtain ⟨wire, -, report⟩ := detected (by decide) few
  obtain rfl : Level.info = least := Except.ok.inj stands
  refine ⟨sampleFile_hitsDesk, read_hitsText, known, ?_, fun w found => ?_, t, schema.output⟩
  · exact (query.whole _).mpr ⟨rfl, by decide⟩
  · exact absurd ((report.whole w).mp found).2 (by decide)

/-- A query in the canonical form. -/
def termText : String := "\x7b\"term\": \"a\"\x7d"

/-- A desk with the query in a file. -/
def termDesk : Desk where
  store := { home := default, kept := some {} }
  directory := { files := [(["q.json"], .text termText)] }

/-- At `DEBUG` the file of a query is named first, so what is printed is no document. -/
theorem output_no_document_termDesk :
    Json.read termText = .ok (.obj [("term", .str "a")]) ∧ "DEBUG" ∈ Invocation.levels ∧
      ∀ w, Json.read (execute .plain ["--log-level", "DEBUG", "canonicalize", "q.json"]
        termDesk).1.output ≠ .ok w := by
  have read : Json.read termText = .ok (.obj [("term", .str "a")]) := by decide +kernel
  have known : "DEBUG" ∈ Invocation.levels := by decide
  have file : SampleFile termDesk.directory "q.json" termText := by
    have leads : termDesk.directory.locate (.ofText "q.json") = .ok ["q.json"] := by
      decide +kernel
    have lines : normalizeLineEnds termText = termText := by decide +kernel
    exact .of_file? (by decide) (by decide +kernel) (by decide +kernel) leads (by decide) rfl lines
  have stands : Level.ofSetting "DEBUG" = .ok .debug := by decide
  have asked : levelName (some "DEBUG") = some "DEBUG" := by decide
  have leads := leads_canonicalize file asked stands
  rw [leveled] at leads
  obtain ⟨-, output⟩ :=
    execute_canonicalize (s := {}) .plain rfl (by decide) rfl file.holds read leads
  refine ⟨read, known, fun w document => ?_⟩
  rw [output] at document
  exact absurd (read_logText_append document _ List.mem_cons_self) (by decide)

end SearchDesk.Cli
