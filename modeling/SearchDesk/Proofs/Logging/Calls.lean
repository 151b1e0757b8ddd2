import SearchDesk.Logging.Setup
import SearchDesk.Proofs.Entries
import SearchDesk.Proofs.Logging.Places

/-!
# What a call leaves

A call sets up one logger, in the directory in which it is made. `setUp_outcome` says all that
comes of it: a level that is refused leaves the logger as it was named; a log file that cannot be
made leaves it with the level and a handler for the console alone; a call that ends well leaves it
with the level and the handlers that the call installs (`Installs`), and a named logger without
propagation.

Whatever comes of a call, the other loggers stay as they are (`detached_logger_setUp_of_ne`).
-/

namespace SearchDesk.Logging

/-- A call that sets up logging, in the directory in which it is made. -/
structure Call where
  options : Options
  directory : Files.Directory := {}
deriving DecidableEq, Repr, Inhabited

namespace Call

/-- The logger that the call sets up. -/
def logger (c : Call) : String := c.options.loggerName

/-- The handlers that a call installs: one for the console at the level of the call, and one for
the log file if the call asks for it. -/
inductive Installs (c : Call) : List Handler → Prop
  | console {level : Level} (named : Level.ofSetting c.options.level = .ok level)
      (fileless : c.options.toFile = false) : c.Installs [⟨.console, level⟩]
  | file {level : Level} {place : Files.Place} (named : Level.ofSetting c.options.level = .ok level)
      (filed : c.options.toFile = true)
      (opened : (openFile c.directory c.options.path).1 = .ok place) :
      c.Installs [⟨.console, level⟩, ⟨.file place, .debug⟩]

/-- What may come of a call, and the loggers that it leaves. -/
inductive Outcome (c : Call) (h : Hierarchy) : Option SetUpFault → Hierarchy → Prop
  | refused {f : LevelFault} (refused : Level.ofSetting c.options.level = .error f) :
      c.Outcome h (some (.level f)) (h.named c.logger)
  | failed {level : Level} {f : Files.FileFault}
      (named : Level.ofSetting c.options.level = .ok level) (filed : c.options.toFile = true)
      (unopened : (openFile c.directory c.options.path).1 = .error f) :
      c.Outcome h (some (.file f)) ((h.named c.logger).update c.logger fun l =>
        { l with level := level, handlers := [⟨.console, level⟩] })
  | made {level : Level} {handlers : List Handler}
      (named : Level.ofSetting c.options.level = .ok level) (installs : c.Installs handlers) :
      c.Outcome h none ((h.named c.logger).update c.logger fun l =>
        { l with
          level := level
          handlers := handlers
          propagate := l.propagate && !c.options.logger.isSome })

end Call

namespace Hierarchy

theorem update_update (h : Hierarchy) (name : String) (f g : Logger → Logger) :
    (h.update name f).update name g = h.update name fun l => g (f l) := by
  by_cases isRoot : name = rootName
  · simp [update, isRoot]
  · simp [update, isRoot, logger, Entries.get?_put_self, Entries.put_put]

/-- A change after which the logger may be silenced is one change. -/
theorem update_silenced {h changed : Hierarchy} {name : String} {f : Logger → Logger}
    (once : changed = h.update name f) (silent : Bool) :
    (if silent then changed.update name fun l => { l with propagate := false } else changed) =
      h.update name fun l => { f l with propagate := (f l).propagate && !silent } := by
  cases silent with
  | false => simp [once]
  | true => simp [once, update_update]

end Hierarchy

/-- What comes of a call. -/
theorem setUp_outcome (c : Call) (h : Hierarchy) :
    c.Outcome h (setUp c.options h c.directory).1 (setUp c.options h c.directory).2.1 := by
  rcases named : Level.ofSetting c.options.level with f | level
  · rw [setUp, named]
    exact .refused named
  · have called : setUp c.options h c.directory =
        ((setUpAt level c.options (h.named c.logger) c.directory).1.map .file,
          (setUpAt level c.options (h.named c.logger) c.directory).2) := by
      rw [setUp, named, Call.logger]
    rw [called]
    rcases filed : c.options.toFile with _ | _
    · have made : setUpAt level c.options (h.named c.logger) c.directory =
          (none, (h.named c.logger).update c.logger fun l =>
            { l with
              level := level
              handlers := [⟨.console, level⟩]
              propagate := l.propagate && !c.options.logger.isSome }, c.directory) := by
        rw [setUpAt, filed]
        exact Prod.ext rfl (Prod.ext (Hierarchy.update_silenced rfl c.options.logger.isSome) rfl)
      rw [made]
      exact .made named (.console named filed)
    · rcases opened : openFile c.directory c.options.path with ⟨f | place, d⟩
      · have failed : setUpAt level c.options (h.named c.logger) c.directory =
            (some f, (h.named c.logger).update c.logger fun l =>
              { l with level := level, handlers := [⟨.console, level⟩] }, d) := by
          rw [setUpAt, filed, opened]
          rfl
        rw [failed]
        exact .failed named filed (by rw [opened])
      · have made : setUpAt level c.options (h.named c.logger) c.directory =
            (none, (h.named c.logger).update c.logger fun l =>
              { l with
                level := level
                handlers := [⟨.console, level⟩, ⟨.file place, .debug⟩]
                propagate := l.propagate && !c.options.logger.isSome }, d) := by
          rw [setUpAt, filed, opened]
          have once := Hierarchy.update_update (h.named c.logger) c.logger
            (fun l => { l with level := level, handlers := [⟨.console, level⟩] })
            fun l => { l with handlers := l.handlers ++ [⟨.file place, .debug⟩] }
          exact Prod.ext rfl (Prod.ext (Hierarchy.update_silenced once c.options.logger.isSome) rfl)
        rw [made]
        exact .made named (.file named filed (by rw [opened]))

namespace Call

variable {c : Call} {h : Hierarchy} {other : String}

/-- A call changes no logger but its own. -/
theorem detached_logger_setUp_of_ne (ne : other ≠ c.logger) :
    ((setUp c.options h c.directory).2.1.logger other).detached = (h.logger other).detached := by
  have outcome := setUp_outcome c h
  generalize (setUp c.options h c.directory).1 = fault at outcome
  generalize (setUp c.options h c.directory).2.1 = after at outcome
  cases outcome with
  | refused => rw [Hierarchy.detached_logger_named]
  | failed => rw [Hierarchy.logger_update_of_ne ne, Hierarchy.detached_logger_named]
  | made => rw [Hierarchy.logger_update_of_ne ne, Hierarchy.detached_logger_named]

/-- A call puts loggers where naming its own puts them. -/
theorem samePlaces_setUp (c : Call) (h : Hierarchy) :
    (h.named c.logger).SamePlaces (setUp c.options h c.directory).2.1 := by
  have known : (h.named c.logger).Known c.logger := (h.known_named _ _).mpr (.inr rfl)
  have outcome := setUp_outcome c h
  generalize (setUp c.options h c.directory).1 = fault at outcome
  generalize (setUp c.options h c.directory).2.1 = after at outcome
  cases outcome with
  | refused => exact .refl _
  | failed => exact Hierarchy.samePlaces_update known fun _ => rfl
  | made => exact Hierarchy.samePlaces_update known fun _ => rfl

/-- Only a call for the root names no logger. -/
theorem isSome_logger_of_ne (ne : c.logger ≠ rootName) : c.options.logger.isSome = true := by
  rcases named : c.options.logger with _ | name
  · refine absurd ?_ ne
    rw [logger, Options.loggerName, named]
    rfl
  · rfl

end Call

end SearchDesk.Logging
