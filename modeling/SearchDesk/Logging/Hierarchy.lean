import SearchDesk.Entries
import SearchDesk.Files.Directory
import SearchDesk.Logging.Level

/-!
# The hierarchy of loggers

Loggers have dotted names, and a logger stands below the nearest logger whose name is the
beginning of its own, or else below the root logger. A record that a logger lets through
goes to its handlers and on to those above it, up to the first logger that does not
propagate.

A logger is there as soon as it is named. At each name between it and the logger above it
waits for a logger of that name, and is put below it when it comes. It stays where it is
if the name of the logger above it begins with the new name; so a logger below the root
does not move below a logger named `r`.

* `Hierarchy.named` is the hierarchy after a logger is named;
* `Hierarchy.level` is the level that a logger goes by: the first one that is set on the way
  to the root;
* `Hierarchy.reached` are the handlers that a record of a logger can reach;
* `Hierarchy.targets` are the places that a record is written to.

Log lines have a fixed time and a fixed position in the program.
-/

namespace SearchDesk.Logging

/-- Where a handler writes. -/
inductive Target where
  | console
  | file (place : Files.Place)
deriving DecidableEq, Repr, Inhabited

/-- A handler: where it writes, and the least level that it writes. -/
structure Handler where
  target : Target
  level : Level
deriving DecidableEq, Repr, Inhabited

/-- A logger. -/
structure Logger where
  level : Level := .notSet
  propagate : Bool := true
  handlers : List Handler := []
  /-- The logger above it, if that is not the root. -/
  parent : Option String := none
deriving DecidableEq, Repr, Inhabited

/-- The name of the root logger. -/
def rootName : String := "root"

/-- A log record. -/
structure Record where
  level : Level
  logger : String
  message : String
deriving DecidableEq, Repr, Inhabited

/-- The line of a record on the console. -/
def Record.consoleLine (r : Record) : String :=
  "1970-01-01 00:00:00 - " ++ r.logger ++ " - " ++ r.level.name ++ " - " ++ r.message ++ "\n"

/-- The line of a record in a file. -/
def Record.fileLine (r : Record) : String :=
  "1970-01-01 00:00:00 - " ++ r.logger ++ " - " ++ r.level.name ++ " - src.py:1 - " ++ r.message
    ++ "\n"

/-- The places below `n` where a dot parts the beginning of a name from the rest, the last
one first. A dot at the start parts nothing, and the character right before a parting dot
is passed over. -/
def cuts (name : List Char) (passOver : Bool) : Nat → List Nat
  | 0 => []
  | n + 1 =>
    if !passOver && n ≠ 0 && name[n]? = some '.' then n :: cuts name true n
    else cuts name false n

/-- The names above a name, the nearest one first, without the root. -/
def ancestors (name : String) : List String :=
  (cuts name.toList false name.length).map fun n => String.ofList (name.toList.take n)

/-- The name that a logger goes by: the empty name is the root's. -/
def canonicalName (name : String) : String := if name = "" then rootName else name

/-- The loggers that have been named. -/
structure Hierarchy where
  root : Logger := { level := .warning }
  /-- The loggers other than the root, by name. -/
  loggers : Entries Logger := []
  /-- The names without a logger, each with the loggers that wait there for one. -/
  waiting : Entries (List String) := []
deriving DecidableEq, Repr, Inhabited

namespace Hierarchy

/-- The logger with a name. -/
def logger (h : Hierarchy) (name : String) : Logger :=
  if name = rootName then h.root else (h.loggers.get? name).getD {}

/-- Change the logger with a name. -/
def update (h : Hierarchy) (name : String) (f : Logger → Logger) : Hierarchy :=
  if name = rootName then { h with root := f h.root }
  else { h with loggers := h.loggers.put name (f (h.logger name)) }

theorem logger_update_self (h : Hierarchy) (name : String) (f : Logger → Logger) :
    (h.update name f).logger name = f (h.logger name) := by
  by_cases isRoot : name = rootName
  · simp [logger, update, isRoot]
  · simp [logger, update, isRoot, Entries.get?_put_self]

/-- A change of one logger leaves the others as they are. -/
theorem logger_update_of_ne {name other : String} (ne : other ≠ name) (h : Hierarchy)
    (f : Logger → Logger) : (h.update name f).logger other = h.logger other := by
  by_cases isRoot : name = rootName
  · have notRoot : other ≠ rootName := isRoot ▸ ne
    simp [logger, update, isRoot, notRoot]
  · simp [logger, update, isRoot, Entries.get?_put_of_ne ne]

/-! ## Naming loggers -/

/-- The first of the given names that has a logger, and the names before it. -/
def nearest (h : Hierarchy) : List String → List String × Option String
  | [] => ([], none)
  | name :: rest =>
    if h.loggers.has name then ([], some name)
    else
      let (passed, found) := nearest h rest
      (name :: passed, found)

/-- Whether a logger stays below the logger above it when one with the given name comes. -/
def staysBelow (l : Logger) (name : String) : Bool :=
  name.toList.isPrefixOf (l.parent.getD rootName).toList

/-- The loggers, with those that wait for a name put below its logger. -/
def adopt (h : Hierarchy) (name : String) : Entries Logger :=
  let children := (h.waiting.get? name).getD []
  h.loggers.map fun e =>
    if children.contains e.1 && !staysBelow e.2 name then (e.1, { e.2 with parent := some name })
    else e

/-- Let a logger wait at a name. -/
def await (name : String) (waiting : Entries (List String)) (place : String) :
    Entries (List String) :=
  waiting.put place ((waiting.get? place).getD [] ++ [name])

/-- The hierarchy after a logger is named. -/
def named (h : Hierarchy) (name : String) : Hierarchy :=
  if name = rootName ∨ h.loggers.has name then h
  else
    let (passed, parent) := h.nearest (ancestors name)
    { h with
      loggers := (h.adopt name).put name { parent := parent }
      waiting := passed.foldl (await name) (h.waiting.erase name) }

/-! ## Ways up -/

/-- The names from a logger up to the root. The first argument bounds their number. -/
def chainWithin (h : Hierarchy) : Nat → String → List String
  | 0, _ => [rootName]
  | n + 1, name =>
    if name = rootName then [rootName]
    else name :: h.chainWithin n ((h.logger name).parent.getD rootName)

/-- From the root there is nowhere to go. -/
theorem chainWithin_rootName (h : Hierarchy) (n : Nat) : h.chainWithin n rootName = [rootName] := by
  cases n with
  | zero => rfl
  | succ n => rw [chainWithin, if_pos rfl]

/-- The names from a logger that has been named up to the root. -/
def chain (h : Hierarchy) (name : String) : List String :=
  h.chainWithin (h.loggers.length + 1) name

/-- The level that a logger goes by. -/
def level (h : Hierarchy) (name : String) : Level :=
  let h := h.named name
  (((h.chain name).map fun n => (h.logger n).level).find? fun l => l ≠ .notSet).getD .notSet

/-- The handlers on a way up, to the end or to a logger that does not propagate. -/
def collect (h : Hierarchy) : List String → List Handler
  | [] => []
  | name :: rest =>
    (h.logger name).handlers ++ if (h.logger name).propagate then collect h rest else []

/-- The handlers that a record of a logger can reach. -/
def reached (h : Hierarchy) (name : String) : List Handler :=
  let h := h.named name
  h.collect (h.chain name)

/-- What a record is written to: nothing if it has no level or its logger does not let it
through. -/
def targets (h : Hierarchy) (r : Record) : List Target :=
  if r.level ≠ .notSet && r.level.passes (h.level r.logger) then
    ((h.reached r.logger).filter fun x => r.level.passes x.level).map (·.target)
  else []

end Hierarchy

end SearchDesk.Logging
