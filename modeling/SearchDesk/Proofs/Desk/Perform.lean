import SearchDesk.Desk.Queries

/-!
# Doing pieces of work

What it comes to when pieces of work are done one after the other: a value is passed on
together with the desk, and a fault ends the work. Reports never fail, and they leave the
settings alone.
-/

namespace SearchDesk

/-- The desk with another store. -/
def Desk.withStore (store : Store) (d : Desk) : Desk := { d with store := store }

namespace Work

variable {α β : Type}

@[simp] theorem perform_pure (a : α) (d : Desk) : (pure a : Work α).perform d = (.ok a, d) := rfl

theorem perform_bind (w : Work α) (next : α → Work β) (d : Desk) :
    (w >>= next).perform d =
      match w.perform d with
      | (.ok a, d') => (next a).perform d'
      | (.error f, d') => (.error f, d') := by
  unfold perform
  rw [ExceptT.run_bind, StateT.run_bind]
  rcases w.run.run d with ⟨_ | _, _⟩ <;> rfl

theorem perform_bind_of_ok {w : Work α} {d d' : Desk} {a : α} (done : w.perform d = (.ok a, d'))
    (next : α → Work β) : (w >>= next).perform d = (next a).perform d' := by
  rw [perform_bind, done]

@[simp] theorem perform_report (area : Area) (level : Logging.Level) (message : String) (d : Desk) :
    (report area level message).perform d =
      (.ok (), d.report ⟨level, area.logger, message⟩) := rfl

/-- Work on every item of a list that never fails is done item by item. -/
theorem perform_forM {each : α → Work Unit} {step : Desk → α → Desk}
    (done : ∀ a d, (each a).perform d = (.ok (), step d a)) (items : List α) (d : Desk) :
    (items.forM each).perform d = (.ok (), items.foldl step d) := by
  induction items generalizing d with
  | nil => rfl
  | cons a rest ih =>
    have first : ((a :: rest).forM each).perform d =
        (each a >>= fun _ => rest.forM each).perform d := rfl
    rw [first, perform_bind_of_ok (done a d), ih, List.foldl_cons]

/-- What can be made without the desk is made without a change to it. -/
theorem perform_ofExcept {ε : Type} (fault : ε → Fault) (answer : Except ε α) (d : Desk) :
    (ofExcept fault answer).perform d = (answer.mapError fault, d) := by
  cases answer <;> rfl

/-! ## Settings -/

theorem writeTo_withStore (r : Logging.Record) (d : Desk) (store : Store)
    (target : Logging.Target) :
    Desk.writeTo r (d.withStore store) target = (Desk.writeTo r d target).withStore store := by
  cases target <;> rfl

/-- A report goes the same way over every store. -/
theorem report_withStore (r : Logging.Record) (d : Desk) (store : Store) :
    (d.withStore store).report r = (d.report r).withStore store := by
  have filed : ∀ (targets : List Logging.Target) (d : Desk),
      targets.foldl (Desk.writeTo r) (d.withStore store) =
        (targets.foldl (Desk.writeTo r) d).withStore store := by
    intro targets
    induction targets with
    | nil => exact fun _ => rfl
    | cons target rest ih =>
      intro d
      rw [List.foldl_cons, List.foldl_cons, writeTo_withStore, ih]
  exact filed (d.loggers.targets r)
    { d with loggers := d.loggers.named r.logger, journal := d.journal ++ [r] }

/-- A report changes neither the settings nor where they come from. -/
@[simp] theorem report_store (r : Logging.Record) (d : Desk) : (d.report r).store = d.store := by
  have same : d.report r = (d.report r).withStore d.store := report_withStore r d d.store
  rw [same]
  rfl

@[simp] theorem report_journal (r : Logging.Record) (d : Desk) :
    (d.report r).journal = d.journal ++ [r] := by
  have written : ∀ (targets : List Logging.Target) (d : Desk),
      (targets.foldl (Desk.writeTo r) d).journal = d.journal := by
    intro targets
    induction targets with
    | nil => exact fun _ => rfl
    | cons target rest ih =>
      intro d
      rw [List.foldl_cons, ih]
      cases target <;> rfl
  exact written _ _

/-- Reports on the items of a list stand in the journal one after the other. -/
theorem exists_perform_forM_journal (area : Area) (level : α → Logging.Level)
    (message : α → String) (items : List α) (d : Desk) :
    ∃ d', (items.forM fun a => report area (level a) (message a)).perform d = (.ok (), d') ∧
      d'.journal = d.journal ++ items.map fun a => ⟨level a, area.logger, message a⟩ := by
  have filed := perform_forM (fun a d => perform_report area (level a) (message a) d) items d
  refine ⟨_, filed, ?_⟩
  clear filed
  induction items generalizing d with
  | nil => simp
  | cons a rest ih =>
    rw [List.foldl_cons, ih, report_journal, List.map_cons, List.append_assoc,
      List.singleton_append]

/-- A report on every item of a list is made, and the settings stay. -/
theorem exists_perform_forM_report (area : Area) (level : α → Logging.Level) (message : α → String)
    (items : List α) (d : Desk) :
    ∃ d', (items.forM fun a => report area (level a) (message a)).perform d = (.ok (), d') ∧
      d'.store = d.store := by
  have filed := perform_forM (fun a d => perform_report area (level a) (message a) d) items d
  refine ⟨_, filed, ?_⟩
  clear filed
  induction items generalizing d with
  | nil => rfl
  | cons a rest ih => rw [List.foldl_cons, ih, report_store]

/-- The settings at a desk are those of its store, which keeps them if they are loaded. -/
theorem exists_perform_settings (d : Desk) :
    ∃ d', settings.perform d = (d.store.get.1.1.mapError Fault.load, d') ∧
      d'.store = d.store.get.2 := by
  obtain ⟨d', filed, kept⟩ := exists_perform_forM_report .configuration (fun _ => .debug)
    ConfigNotice.message d.store.get.1.2 (d.adopt d.store.get.2)
  refine ⟨d', ?_, kept⟩
  show (reportConfig d.store.get.1.2 >>= fun _ => ofExcept .load d.store.get.1.1).perform
    (d.adopt d.store.get.2) = _
  rw [reportConfig, perform_bind_of_ok filed, perform_ofExcept]

theorem perform_settings (d : Desk) :
    (settings.perform d).1 = d.store.get.1.1.mapError Fault.load := by
  obtain ⟨d', looked, -⟩ := exists_perform_settings d
  rw [looked]

end Work

end SearchDesk
