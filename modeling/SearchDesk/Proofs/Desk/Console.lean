import SearchDesk.Desk.Queries
import SearchDesk.Desk.Samples
import SearchDesk.Proofs.Desk.Perform
import SearchDesk.Proofs.Logging.Package

/-!
# What work puts on the console

Work puts nothing on the console but the lines of the records that it reports, and of these only
the ones that pass the level of the loggers.

* `Logging.logText` is the text of a row of records at a level;
* `Desk.Filed` says of two desks that between them nothing was done but to report some records;
* for each piece of work there is a list of the records that it reports (`configRecords`,
  `noticeRecords`, `hitRecords`, `detectionRecords`), and it is done with just these filed.
-/

namespace SearchDesk

/-! ## Records on the console -/

namespace Logging

/-- The lines of the records that pass a level. -/
def logText (level : Level) : List Record → String
  | [] => ""
  | r :: rest => (if r.level.passes level then r.consoleLine else "") ++ logText level rest

theorem logText_append (level : Level) (rs rs' : List Record) :
    logText level (rs ++ rs') = logText level rs ++ logText level rs' := by
  induction rs with
  | nil => simp [logText]
  | cons r rest ih => rw [List.cons_append, logText, ih, logText, String.append_assoc]

/-- Records below the level leave no line. -/
theorem logText_eq_empty {level : Level} {rs : List Record}
    (below : ∀ r ∈ rs, r.level.passes level = false) : logText level rs = "" := by
  induction rs with
  | nil => rfl
  | cons r rest ih =>
    obtain ⟨first, later⟩ := List.forall_mem_cons.mp below
    rw [logText, first, ih later]
    rfl

end Logging

open Logging (Level Record logText)

/-- A record of a part of the program. -/
def Area.record (area : Area) (level : Level) (message : String) : Record :=
  ⟨level, area.logger, message⟩

namespace Desk

/-- Between two desks only these records were reported, at a level of the loggers. -/
structure Filed (level : Level) (records : List Record) (d d' : Desk) : Prop where
  store : d'.store = d.store
  directory : d'.directory = d.directory
  console : d'.console = d.console ++ logText level records
  journal : d'.journal = d.journal ++ records
  loggers : d'.loggers.Reports level

namespace Filed

variable {level : Level} {records records' : List Record} {d d' d'' : Desk}

theorem refl (reports : d.loggers.Reports level) : Filed level [] d d :=
  ⟨rfl, rfl, by simp [logText], by simp, reports⟩

theorem trans (first : Filed level records d d') (second : Filed level records' d' d'') :
    Filed level (records ++ records') d d'' := by
  refine ⟨?_, ?_, ?_, ?_, second.loggers⟩
  · rw [second.store, first.store]
  · rw [second.directory, first.directory]
  · rw [second.console, first.console, Logging.logText_append, String.append_assoc]
  · rw [second.journal, first.journal, List.append_assoc]

theorem withStore (filed : Filed level records d d') (store : Store) :
    Filed level records (d.withStore store) (d'.withStore store) :=
  ⟨rfl, filed.directory, filed.console, filed.journal, filed.loggers⟩

/-- A record of an area is filed, and its line is on the console if it passes. -/
theorem report (reports : d.loggers.Reports level) (set : level ≠ .notSet) (area : Area)
    (own : Level) (message : String) :
    Filed level [area.record own message] d (d.report (area.record own message)) := by
  have targets := reports.targets set area own message
  have reports' := reports.named area
  unfold Desk.report Area.record
  by_cases passes : own.passes level = true
  · rw [targets, if_pos passes]
    refine ⟨rfl, rfl, ?_, rfl, reports'⟩
    simp [writeTo, logText, passes]
  · rw [targets, if_neg passes]
    refine ⟨rfl, rfl, ?_, rfl, reports'⟩
    simp [logText, passes]

end Filed

end Desk

namespace Work

open Desk (Filed)
open Schema

variable {level : Level} {d : Desk}

/-- A report on every item of a list files a record for each. -/
theorem forM_report_filed {α : Type} (reports : d.loggers.Reports level) (set : level ≠ .notSet)
    (area : Area) (own : α → Level) (message : α → String) (items : List α) :
    ∃ d', (items.forM fun a => report area (own a) (message a)).perform d = (.ok (), d') ∧
      Filed level (items.map fun a => area.record (own a) (message a)) d d' := by
  induction items generalizing d with
  | nil => exact ⟨d, rfl, .refl reports⟩
  | cons a rest ih =>
    have first := Filed.report reports set area (own a) (message a)
    obtain ⟨d', done, later⟩ := ih first.loggers
    refine ⟨d', ?_, first.trans later⟩
    have step : ((a :: rest).forM fun a => report area (own a) (message a)).perform d =
        (report area (own a) (message a) >>= fun _ =>
          rest.forM fun a => report area (own a) (message a)).perform d := rfl
    rw [step, perform_bind_of_ok (perform_report area (own a) (message a) d)]
    exact done

/-! ## The records of the pieces of work -/

/-- What a look at the settings reports. -/
def configRecords (s : Store) : List Record :=
  s.get.1.2.map fun n => Area.configuration.record .debug n.message

/-- What canonicalization reports. -/
def noticeRecords (notices : List Query.Notice) : List Record :=
  notices.map fun n => Area.queries.record .debug n.message

/-- What a sample reports that is read from hits. -/
def hitRecords (payload : Json) : List Record :=
  (Payload.ofJson payload).notices.map fun n => Area.detection.record .debug n.message

/-- What a detection reports. -/
def detectionRecords (rules : Rules) (sample : List Json) : List Record :=
  (detectNoted rules sample).2.map fun n => Area.detection.record n.level n.message

/-- The settings are looked up. -/
theorem settings_filed (reports : d.loggers.Reports level) (set : level ≠ .notSet) :
    ∃ d', settings.perform d = (d.store.get.1.1.mapError Fault.load, d') ∧
      Filed level (configRecords d.store) (d.withStore d.store.get.2) d' := by
  have reports' : (d.adopt d.store.get.2).loggers.Reports level := reports
  obtain ⟨d', done, filed⟩ := forM_report_filed reports' set .configuration (fun _ => .debug)
    ConfigNotice.message d.store.get.1.2
  refine ⟨d', ?_, ⟨filed.store, filed.directory, filed.console, filed.journal, filed.loggers⟩⟩
  show (reportConfig d.store.get.1.2 >>= fun _ => ofExcept .load d.store.get.1.1).perform
    (d.adopt d.store.get.2) = _
  rw [reportConfig, perform_bind_of_ok done, perform_ofExcept]

/-- Settings that are loaded are kept. -/
theorem store_get_of_ok {s : Store} {settings : Settings} (loaded : s.get.1.1 = .ok settings) :
    s.get.2.get = ((.ok settings, []), s.get.2) := by
  rcases kept : s.kept with _ | kept'
  · rcases fresh : s.fresh with ⟨f | settings', notices⟩
    · simp [Store.get, kept, fresh] at loaded
    · simp_all [Store.get]
  · simp_all [Store.get]

/-- A query is made canonical under the ceiling of the settings. -/
theorem canonicalize_filed (reports : d.loggers.Reports level) (set : level ≠ .notSet)
    {s : Settings} (loaded : d.store.get.1.1 = .ok s) (depth : Int) (node : Json) :
    ∃ d', (canonicalize depth none node).perform d =
        (.ok (Query.canonicalize depth s.maxDepth node), d') ∧
      Filed level (configRecords d.store ++
          noticeRecords (Query.canonicalizeNoted depth s.maxDepth node).notices)
        (d.withStore d.store.get.2) d' := by
  obtain ⟨d₁, looked, config⟩ := settings_filed reports set
  rw [loaded] at looked
  obtain ⟨d₂, noted, notices⟩ := forM_report_filed config.loggers set .queries
    (fun _ => .debug) Query.Notice.message (Query.canonicalizeNoted depth s.maxDepth node).notices
  refine ⟨d₂, ?_, config.trans notices⟩
  have ceiling : (ceilingOr none).perform d = (.ok (s.maxDepth : Int), d₁) := by
    rw [ceilingOr, perform_bind_of_ok looked]
    rfl
  rw [canonicalize, perform_bind_of_ok ceiling, reportNoted, perform_bind_of_ok noted]
  rfl

/-- The documents of a payload are taken out. -/
theorem sampleDocuments_filed (reports : d.loggers.Reports level) (set : level ≠ .notSet)
    (payload : Json) :
    ∃ d', (sampleDocuments payload).perform d = (.ok (Schema.sampleDocuments payload), d') ∧
      Filed level (hitRecords payload) d d' := by
  unfold sampleDocuments Schema.sampleDocuments hitRecords
  cases Payload.ofJson payload with
  | documents docs => exact ⟨d, rfl, .refl reports⟩
  | hits hits =>
    obtain ⟨d', done, filed⟩ := forM_report_filed reports set .detection (fun _ => .debug)
      HitNotice.message (hitNotices hits)
    refine ⟨d', ?_, filed⟩
    show (documentsOfHits hits).perform d = _
    rw [documentsOfHits, perform_bind_of_ok done]
    rfl

/-- A sample is detected under the rules of the settings. -/
theorem detect_filed (reports : d.loggers.Reports level) (set : level ≠ .notSet)
    {s : Settings} (loaded : d.store.get.1.1 = .ok s) (sample : List Json) :
    ∃ d', (detect none sample).perform d = (.ok (Schema.detect s.rules sample), d') ∧
      Filed level (configRecords d.store ++ detectionRecords s.rules sample)
        (d.withStore d.store.get.2) d' := by
  obtain ⟨d₁, looked, config⟩ := settings_filed reports set
  rw [loaded] at looked
  obtain ⟨d₂, noted, notices⟩ := forM_report_filed config.loggers set .detection
    DetectionNotice.level DetectionNotice.message (detectNoted s.rules sample).2
  refine ⟨d₂, ?_, config.trans notices⟩
  have rules : (rulesOr none).perform d = (.ok s.rules, d₁) := by
    rw [rulesOr, perform_bind_of_ok looked]
    rfl
  rw [detect, perform_bind_of_ok rules]
  show (((detectNoted s.rules sample).2.forM fun n => report .detection n.level n.message) >>=
    fun _ => pure (Schema.detect s.rules sample)).perform d₁ = _
  rw [perform_bind_of_ok noted]
  rfl

end Work

end SearchDesk
