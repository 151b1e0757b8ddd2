import SearchDesk.Proofs.Logging.Delivery

/-!
# Calls whose log file cannot be made

A call sets the level and the console handler of its logger before it makes the log file, and
silences the logger after that. If the folder or the file cannot be made, the first half is done
and stays done (`HalfDone`): the logger has the level of the call and one handler, for the console,
and a log file that it had before is gone. The logger propagates as before, and the other loggers
are as they were.

`halfDone_of_failed` says so of every call in every hierarchy. No record reaches the console more
often than before if the logger has reported there before: the loggers stand where they stood
(`SamePlaces`), and none of them has more handlers for the console (`consoles_le`).
-/

namespace SearchDesk.Logging

namespace Hierarchy

/-- How many handlers for the console a record of a logger can reach. -/
def consoles (h : Hierarchy) (name : String) : Nat :=
  (h.reached name).countP fun x => x.target = .console

/-- On the same way there are fewer handlers of a kind if every logger has fewer of them. -/
theorem countP_collect_le {h h' : Hierarchy} (kind : Handler → Bool)
    (propagate : ∀ n, (h'.logger n).propagate = (h.logger n).propagate)
    (fewer : ∀ n, (h'.logger n).handlers.countP kind ≤ (h.logger n).handlers.countP kind)
    (names : List String) : (h'.collect names).countP kind ≤ (h.collect names).countP kind := by
  induction names with
  | nil => exact Nat.le_refl _
  | cons name rest ih =>
    rw [collect, collect, List.countP_append, List.countP_append, propagate]
    refine Nat.add_le_add (fewer name) ?_
    split
    · exact ih
    · exact Nat.le_refl _

/-- Loggers in the same places reach the console no more often if none of them has more handlers
for it. -/
theorem consoles_le {h h' : Hierarchy} (same : h.SamePlaces h')
    (propagate : ∀ n, (h'.logger n).propagate = (h.logger n).propagate)
    (fewer : ∀ n, (h'.logger n).handlers.countP (fun x => x.target = .console) ≤
      (h.logger n).handlers.countP fun x => x.target = .console)
    (name : String) : h'.consoles name ≤ h.consoles name := by
  have named : ∀ (g : Hierarchy) n, ((g.named name).logger n).detached = (g.logger n).detached :=
    fun g n => g.detached_logger_named name n
  rw [consoles, consoles, reached, reached, ← (same.named name).chain]
  refine countP_collect_le _ (fun n => ?_) (fun n => ?_) _
  · rw [Logger.propagate_eq_of_detached (named h' n), Logger.propagate_eq_of_detached (named h n),
      propagate]
  · rw [Logger.handlers_eq_of_detached (named h' n), Logger.handlers_eq_of_detached (named h n)]
    exact fewer n

end Hierarchy

/-- What a call leaves that ends halfway, at the given level. -/
structure HalfDone (c : Call) (level : Level) (h after : Hierarchy) : Prop where
  /-- The logger has the level and one handler for the console, and propagates as before. -/
  own : (after.logger c.logger).detached =
    { (h.logger c.logger).detached with level := level, handlers := [⟨.console, level⟩] }
  others : ∀ other, other ≠ c.logger → (after.logger other).detached = (h.logger other).detached
  /-- The logger is as before exactly if it had the level and that handler alone. -/
  same_iff : (after.logger c.logger).detached = (h.logger c.logger).detached ↔
    (h.logger c.logger).level = level ∧ (h.logger c.logger).handlers = [⟨.console, level⟩]
  /-- A logger that had a handler for the console leads no record there more often. -/
  consoles : (∃ x ∈ (h.logger c.logger).handlers, x.target = .console) →
    ∀ name, after.consoles name ≤ h.consoles name

variable {c : Call} {h : Hierarchy} {f : Files.FileFault}

/-- A logger with handlers is there. -/
theorem Hierarchy.known_of_mem_handlers {name : String} {x : Handler}
    (mem : x ∈ (h.logger name).handlers) : h.Known name := by
  by_contra new
  rw [Hierarchy.Known, not_or, Bool.not_eq_true, Entries.has_eq_false_iff] at new
  rw [Hierarchy.logger, if_neg new.1, new.2] at mem
  cases mem

theorem halfDone_update {level : Level} :
    HalfDone c level h ((h.named c.logger).update c.logger fun l =>
      { l with level := level, handlers := [⟨.console, level⟩] }) := by
  generalize changed : (h.named c.logger).update c.logger _ = after
  have own : (after.logger c.logger).detached =
      { (h.logger c.logger).detached with level := level, handlers := [⟨.console, level⟩] } := by
    rw [← changed, Hierarchy.logger_update_self, ← h.detached_logger_named c.logger c.logger]
    rfl
  have others : ∀ other, other ≠ c.logger →
      (after.logger other).detached = (h.logger other).detached := fun other ne => by
    rw [← changed, Hierarchy.logger_update_of_ne ne, h.detached_logger_named c.logger other]
  refine ⟨own, others, ?_, fun ⟨x, mem, console⟩ => ?_⟩
  · rw [own]
    constructor
    · intro same
      exact ⟨(congrArg (·.level) same).symm, (congrArg (·.handlers) same).symm⟩
    · rintro ⟨rfl, alone⟩
      rw [← alone]
      rfl
  · have known := Hierarchy.known_of_mem_handlers mem
    have same : h.SamePlaces after := by
      rw [← changed, Hierarchy.named_of_known known]
      exact Hierarchy.samePlaces_update known fun _ => rfl
    refine Hierarchy.consoles_le same (fun n => ?_) fun n => ?_
    · by_cases ofCall : n = c.logger
      · exact ofCall ▸ congrArg (·.propagate) own
      · exact Logger.propagate_eq_of_detached (others n ofCall)
    · by_cases ofCall : n = c.logger
      · have handlers : (after.logger c.logger).handlers = [⟨.console, level⟩] :=
          congrArg (·.handlers) own
        rw [ofCall, handlers]
        exact List.countP_pos_iff.mpr ⟨x, mem, decide_eq_true console⟩
      · have handlers := Logger.handlers_eq_of_detached (others n ofCall)
        exact Nat.le_of_eq (congrArg _ handlers)

/-- A call whose log file cannot be made ends halfway. -/
theorem halfDone_of_failed (failed : (setUp c.options h c.directory).1 = some (.file f)) :
    ∃ level, Level.ofSetting c.options.level = .ok level ∧
      HalfDone c level h (setUp c.options h c.directory).2.1 := by
  have outcome := setUp_outcome c h
  generalize (setUp c.options h c.directory).2.1 = after at outcome
  rw [failed] at outcome
  cases outcome with
  | failed named => exact ⟨_, named, halfDone_update⟩

/-- The logger of the package is set up with the log file `f.log`, and then once more with a log
file below that one. The folder cannot be made, and the logger has lost its log file. -/
theorem setUp_below_file_drops_handler :
    ∃ h d, setUp { file := some "f.log" } {} {} = (none, h, d) ∧
      History [.call { options := { file := some "f.log" } }] h ∧
      (setUp { file := some "f.log/b.log" } h d).1 = some (.file ⟨.exists, "f.log"⟩) ∧
      (h.logger packageName).handlers = [⟨.console, .info⟩, ⟨.file ["f.log"], .debug⟩] ∧
      ((setUp { file := some "f.log/b.log" } h d).2.1.logger packageName).handlers =
        [⟨.console, .info⟩] := by
  refine ⟨_, _, rfl, .call _ .start (by decide +kernel), ?_, ?_, ?_⟩ <;> decide +kernel

/-- The logger of the package is set up without a log file, and then once more with a folder in the
place of one: it has the new level, and reports to the console as often as before. -/
theorem halfDone_at_folder :
    ∃ h d, setUp { toFile := false } {} { folders := [["logs"]] } = (none, h, d) ∧
      HalfDone ⟨{ level := "ERROR", file := some "logs" }, d⟩ .error h
        (setUp { level := "ERROR", file := some "logs" } h d).2.1 := by
  refine ⟨_, _, rfl, ?_⟩
  obtain ⟨level, named, half⟩ := halfDone_of_failed (f := ⟨.isDirectory, "logs"⟩)
    (c := ⟨{ level := "ERROR", file := some "logs" }, { folders := [["logs"]] }⟩)
    (h := (setUp { toFile := false } {} { folders := [["logs"]] }).2.1) (by decide +kernel)
  have same : Level.error = level := Except.ok.inj ((by decide +kernel :
    Level.ofSetting "ERROR" = .ok .error).symm.trans named)
  exact same ▸ half

end SearchDesk.Logging
