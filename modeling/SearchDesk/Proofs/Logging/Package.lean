import SearchDesk.Desk.Basic
import SearchDesk.Proofs.Logging.Places

/-!
# The loggers of the program

Every part of the program has a logger of its own below the logger of the package. Once logging
is set up for a command line, all of them report to the console at one level.

* `Hierarchy.Reports` says so of a hierarchy, whichever of these loggers have been named;
* it holds after logging is set up (`reports_setUp`) and stays when a part of the program names
  its logger (`Reports.named`);
* a record then goes to the console exactly if it passes the level (`Reports.targets`).
-/

namespace SearchDesk.Logging

/-! ## Names -/

theorem areaLogger_ne_packageName (area : Area) : area.logger ≠ packageName := by
  cases area <;> decide

theorem areaLogger_ne_rootName (area : Area) : area.logger ≠ rootName := by
  cases area <;> decide

/-- Between the logger of the package and that of an area there are only names that no logger of
the program has. -/
theorem exists_ancestors_areaLogger (area : Area) :
    ∃ between, ancestors area.logger = between ++ [packageName] ∧
      ∀ name ∈ between, name ≠ packageName ∧ ∀ other : Area, name ≠ other.logger := by
  cases area with
  | configuration => exact ⟨[], by decide +kernel, by simp⟩
  | commands => exact ⟨[], by decide +kernel, by simp⟩
  | queries =>
    refine ⟨[packageName ++ ".query"], by decide +kernel, ?_⟩
    simp only [List.mem_singleton, forall_eq]
    exact ⟨by decide, fun other => by cases other <;> decide⟩
  | detection =>
    refine ⟨[packageName ++ ".schema"], by decide +kernel, ?_⟩
    simp only [List.mem_singleton, forall_eq]
    exact ⟨by decide, fun other => by cases other <;> decide⟩

namespace Hierarchy

/-! ## Reporting to the console -/

/-- The logger of the package after it is set up without a log file. -/
def packageLogger (level : Level) : Logger :=
  { level := level, propagate := false, handlers := [⟨.console, level⟩] }

/-- The logger of an area. -/
def areaLogger : Logger := { parent := some packageName }

/-- The loggers of the program report to the console at a level, and there are no others. -/
structure Reports (level : Level) (h : Hierarchy) : Prop where
  package : h.loggers.get? packageName = some (packageLogger level)
  known : ∀ name ∈ h.loggers.keys, name = packageName ∨ ∃ area : Area, name = area.logger
  area : ∀ (area : Area) (l : Logger), h.loggers.get? area.logger = some l → l = areaLogger
  unawaited : ∀ area : Area, h.waiting.get? area.logger = none

/-- What no logger waits for has nothing to adopt. -/
theorem adopt_of_unawaited {h : Hierarchy} {name : String} (unawaited : h.waiting.get? name = none) :
    h.adopt name = h.loggers := by
  simp [adopt, unawaited]

theorem get?_foldl_await {name other : String} {places : List String}
    (apart : ∀ place ∈ places, place ≠ other) (waiting : Entries (List String)) :
    (places.foldl (await name) waiting).get? other = waiting.get? other := by
  induction places generalizing waiting with
  | nil => rfl
  | cons place rest ih =>
    obtain ⟨first, later⟩ := List.forall_mem_cons.mp apart
    rw [List.foldl_cons, ih later, await, Entries.get?_put_of_ne first.symm]

namespace Reports

variable {level : Level} {h : Hierarchy}

theorem has_package (reports : h.Reports level) : h.loggers.has packageName = true := by
  rw [Entries.has_iff_get?_isSome, reports.package]
  rfl

/-- A logger of the program that is named for the first time. -/
theorem named_of_new (reports : h.Reports level) (area : Area)
    (new : h.loggers.has area.logger = false) :
    ∃ between : List String, (∀ name ∈ between, ∀ other : Area, name ≠ other.logger) ∧
      h.named area.logger =
        { h with
          loggers := h.loggers.put area.logger areaLogger
          waiting := between.foldl (await area.logger) (h.waiting.erase area.logger) } := by
  obtain ⟨between, above, strange⟩ := exists_ancestors_areaLogger area
  refine ⟨between, fun name mem => (strange name mem).2, ?_⟩
  have absent : ∀ name ∈ between, h.loggers.has name = false := by
    intro name mem
    rw [Entries.has_eq_false_iff, Entries.get?_eq_none_iff]
    intro here
    rcases reports.known name here with same | ⟨other, same⟩
    · exact (strange name mem).1 same
    · exact (strange name mem).2 other same
  have found : h.nearest (between ++ [packageName]) = (between, some packageName) :=
    nearest_of_present absent reports.has_package
  have unnamed : ¬(area.logger = rootName ∨ h.loggers.has area.logger = true) := by
    rw [new]
    simp [areaLogger_ne_rootName]
  rw [named, if_neg unnamed, above, found, adopt_of_unawaited (reports.unawaited area)]
  rfl

/-- The logger of an area is there once it is named. -/
theorem get?_named (reports : h.Reports level) (area : Area) :
    (h.named area.logger).loggers.get? area.logger = some areaLogger := by
  rcases here : h.loggers.has area.logger with _ | _
  · obtain ⟨between, -, named⟩ := reports.named_of_new area here
    rw [named, Entries.get?_put_self]
  · obtain ⟨l, value⟩ := Option.isSome_iff_exists.mp
      ((Entries.has_iff_get?_isSome _ _).symm.trans here)
    rw [named, if_pos (.inr here), value, reports.area area l value]

/-- Naming the logger of an area leaves the others as they are. -/
theorem named (reports : h.Reports level) (area : Area) :
    (h.named area.logger).Reports level := by
  rcases here : h.loggers.has area.logger with _ | _
  · obtain ⟨between, strange, named⟩ := reports.named_of_new area here
    have new : area.logger ∉ h.loggers.keys :=
      (Entries.get?_eq_none_iff _ _).mp ((Entries.has_eq_false_iff _ _).mp here)
    rw [named]
    refine ⟨?_, ?_, ?_, ?_⟩
    · rw [Entries.get?_put_of_ne (areaLogger_ne_packageName area).symm, reports.package]
    · intro name mem
      rw [Entries.keys_put_of_not_mem new, List.mem_append, List.mem_singleton] at mem
      rcases mem with old | rfl
      · exact reports.known name old
      · exact .inr ⟨area, rfl⟩
    · intro other l value
      by_cases same : other.logger = area.logger
      · rw [same, Entries.get?_put_self] at value
        exact (Option.some.inj value).symm
      · rw [Entries.get?_put_of_ne same] at value
        exact reports.area other l value
    · intro other
      have apart : ∀ name ∈ between, name ≠ other.logger := fun name mem => strange name mem other
      rw [get?_foldl_await apart]
      by_cases same : other.logger = area.logger
      · rw [same, Entries.get?_erase_self]
      · rw [Entries.get?_erase_of_ne same, reports.unawaited]
  · rw [Hierarchy.named, if_pos (.inr here)]
    exact reports

/-- The way up from the logger of an area. -/
theorem chain_areaLogger (reports : h.Reports level) {area : Area}
    (there : h.loggers.get? area.logger = some areaLogger) :
    h.chain area.logger = [area.logger, packageName, rootName] := by
  have some : h.loggers ≠ [] := by
    intro none
    rw [none] at there
    cases there
  obtain ⟨n, length⟩ : ∃ n, h.loggers.length = n + 1 :=
    ⟨h.loggers.length - 1, by have := List.length_pos_iff.mpr some; omega⟩
  have own : h.logger area.logger = areaLogger := by
    rw [logger, if_neg (areaLogger_ne_rootName area), there]
    rfl
  have package : h.logger packageName = packageLogger level := by
    rw [logger, if_neg (by decide), reports.package]
    rfl
  rw [chain, length, chainWithin, if_neg (areaLogger_ne_rootName area), own]
  show area.logger :: h.chainWithin (n + 1) packageName = _
  rw [chainWithin, if_neg (by decide), package]
  show [area.logger, packageName] ++ h.chainWithin n rootName = _
  rw [chainWithin_rootName]
  rfl

/-- A record of an area goes to the console exactly if it passes the level. -/
theorem targets (reports : h.Reports level) (set : level ≠ .notSet) (area : Area) (own : Level)
    (message : String) :
    h.targets ⟨own, area.logger, message⟩ = if own.passes level then [.console] else [] := by
  have reports' := reports.named area
  have there := reports.get?_named area
  have chain := reports'.chain_areaLogger there
  have own' : (h.named area.logger).logger area.logger = areaLogger := by
    rw [logger, if_neg (areaLogger_ne_rootName area), there]
    rfl
  have package : (h.named area.logger).logger packageName = packageLogger level := by
    rw [logger, if_neg (by decide), reports'.package]
    rfl
  have goesBy : h.level area.logger = level := by
    simp [Hierarchy.level, chain, own', package, areaLogger, packageLogger, set]
  have reached : h.reached area.logger = [⟨.console, level⟩] := by
    simp [Hierarchy.reached, chain, collect, own', package, areaLogger, packageLogger]
  -- a record without a level passes no level that is set
  have leveled : own.passes level = true → own ≠ .notSet := by
    rintro passes rfl
    cases level <;> first | exact set rfl | exact absurd passes (by decide)
  by_cases passes : own.passes level = true
  · simp [Hierarchy.targets, goesBy, reached, passes, leveled passes]
  · simp [Hierarchy.targets, goesBy, passes]

end Reports

/-- Setting up logging for a command line makes the logger of the package the only one. -/
theorem reports_setUp {word : String} {level : Level} (named : Level.ofSetting word = .ok level)
    (d : Files.Directory) :
    ∃ h, setUp { level := word, toFile := false } {} d = (none, h, d) ∧ h.Reports level := by
  refine ⟨{ loggers := [(packageName, packageLogger level)] }, ?_, rfl, ?_, ?_, fun _ => rfl⟩
  · have first : ({} : Hierarchy).named packageName = { loggers := [(packageName, {})] } := by
      decide +kernel
    have name : ({ level := word, toFile := false } : Options).loggerName = packageName := by
      show canonicalName packageName = packageName
      decide
    rw [setUp, named, name, first]
    rfl
  · intro name mem
    exact .inl (List.mem_singleton.mp mem)
  · intro area l value
    rw [Entries.get?, if_neg (areaLogger_ne_packageName area).symm] at value
    cases value

end Hierarchy

end SearchDesk.Logging
