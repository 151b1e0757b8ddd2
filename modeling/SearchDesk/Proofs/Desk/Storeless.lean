import SearchDesk.Desk.Samples
import SearchDesk.Proofs.Desk.Perform

/-!
# Work that leaves the store out of account

Most work at the desk only reports what it finds. It neither reads the store of the settings nor
changes it: over any other store it goes the same way (`Storeless`), and it always comes to the
same answer (`Gives`). Work that needs the settings looks them up once and is of this kind from
then on (`perform_settings_bind`).
-/

namespace SearchDesk

open Schema

namespace Work

variable {α β : Type}

/-- The work neither reads the store nor changes it: it goes the same way over any other. -/
def Storeless (w : Work α) : Prop :=
  ∀ d store, w.perform (d.withStore store) = ((w.perform d).1, (w.perform d).2.withStore store)

/-- The work always comes to the same answer, without the store. -/
structure Gives (w : Work α) (answer : Except Fault α) : Prop where
  outcome : ∀ d, (w.perform d).1 = answer
  storeless : Storeless w

theorem Storeless.store_perform {w : Work α} (storeless : Storeless w) (d : Desk) :
    (w.perform d).2.store = d.store := by
  -- the store that is put in comes out again, also if it was there before
  have same := storeless d d.store
  rw [show d.withStore d.store = d from rfl] at same
  rw [same]
  rfl

theorem Gives.pure (a : α) : Gives (pure a : Work α) (.ok a) := ⟨fun _ => rfl, fun _ _ => rfl⟩

theorem Gives.bind {w : Work α} {next : α → Work β} {a : α} {answer : Except Fault β}
    (first : Gives w (.ok a)) (after : Gives (next a) answer) : Gives (w >>= next) answer := by
  have step : ∀ d, (w >>= next).perform d = (next a).perform (w.perform d).2 := by
    intro d
    exact perform_bind_of_ok (Prod.ext (first.outcome d) rfl) next
  constructor
  · intro d
    rw [step, after.outcome]
  · intro d store
    rw [step, step, first.storeless d store, after.storeless]

theorem Gives.report (area : Area) (level : Logging.Level) (message : String) :
    Gives (report area level message) (.ok ()) := by
  refine ⟨fun _ => rfl, fun d store => ?_⟩
  rw [perform_report, perform_report, report_withStore]

theorem Gives.forM_report (area : Area) (level : α → Logging.Level) (message : α → String)
    (items : List α) :
    Gives (items.forM fun a => Work.report area (level a) (message a)) (.ok ()) := by
  induction items with
  | nil => exact .pure ()
  | cons a rest ih => exact .bind (.report area (level a) (message a)) ih

theorem Gives.reportNoted (r : Query.Noted Json) : Gives (reportNoted r) (.ok r.value) :=
  .bind (.forM_report .queries (fun _ => .debug) Query.Notice.message r.notices) (.pure r.value)

theorem Gives.detect (rules : Rules) (sample : List Json) :
    Gives (detect (some rules) sample) (.ok (Schema.detect rules sample)) :=
  .bind (.pure rules) <|
    .bind (.forM_report .detection DetectionNotice.level DetectionNotice.message
      (detectNoted rules sample).2) (.pure _)

/-- What needs the settings fails with them, and otherwise goes on; the store is the one after
a look at the settings. -/
theorem perform_settings_bind {next : Settings → Work α} {answer : Settings → Except Fault α}
    (gives : ∀ s, Gives (next s) (answer s)) (d : Desk) :
    ((settings >>= next).perform d).1 = (d.store.get.1.1.mapError Fault.load).bind answer ∧
      ((settings >>= next).perform d).2.store = d.store.get.2 := by
  obtain ⟨d', looked, store⟩ := exists_perform_settings d
  rw [perform_bind, looked, ← store]
  rcases d.store.get.1.1 with f | s
  · exact ⟨rfl, rfl⟩
  · exact ⟨(gives s).outcome d', (gives s).storeless.store_perform d'⟩

/-- A table schema whose document schemas can be made is made as soon as the settings are there. -/
theorem perform_tableSchema {found : Report} {overrides : Json} {tables : Entries DocumentSchema}
    (made : documentSchemas found.groups overrides = .ok tables) (d : Desk) :
    ((tableSchema found overrides).perform d).1 =
      (d.store.get.1.1.mapError Fault.load).map fun s =>
        .ofDocuments s.rules.defaultKind tables := by
  rw [tableSchema, made, perform_bind_of_ok (perform_ofExcept _ _ d)]
  have outcome := (perform_settings_bind
    (fun s : Settings => Gives.pure (TableSchema.ofDocuments s.rules.defaultKind tables)) d).1
  rw [outcome]
  cases d.store.get.1.1 <;> rfl

/-- Without document schemas there is no table schema, and the settings are not needed. -/
theorem perform_tableSchema_of_error {found : Report} {overrides : Json} {e : TableFault}
    (failed : documentSchemas found.groups overrides = .error e) (d : Desk) :
    ((tableSchema found overrides).perform d).1 = .error (.table e) := by
  rw [tableSchema, failed]
  rfl

/-- What is made has document schemas that can be made. -/
theorem documentSchemas_of_perform_tableSchema {found : Report} {overrides : Json} {d : Desk}
    {t : TableSchema} (made : ((tableSchema found overrides).perform d).1 = .ok t) :
    documentSchemas found.groups overrides = .ok t.documents := by
  cases tables : documentSchemas found.groups overrides with
  | error e =>
    rw [perform_tableSchema_of_error tables] at made
    cases made
  | ok documents =>
    rw [perform_tableSchema tables] at made
    cases settings : d.store.get.1.1 with
    | error e =>
      rw [settings] at made
      cases made
    | ok s =>
      rw [settings] at made
      obtain rfl := Except.ok.inj made
      rfl

end Work

end SearchDesk
