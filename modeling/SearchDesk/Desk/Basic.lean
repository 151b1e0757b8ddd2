import SearchDesk.Json.Reader
import SearchDesk.Logging.Setup
import SearchDesk.Schema.Table
import SearchDesk.Schema.Wire
import SearchDesk.Settings.Store

/-!
# The desk

Queries and samples are worked on at a desk. It holds everything that outlasts a single
piece of work: the settings, the loggers, the working directory, what stands on the console,
and a journal of all log records.

`Work` is a piece of work: it changes the desk and gives a value or a fault. A fault does not
undo what was done before it.

* `report` files a log record: it goes into the journal and to the targets that the loggers
  name for it;
* `print` puts a text on the console.
-/

namespace SearchDesk

open Logging (Record Level Target)

/-- What outlasts a single piece of work. -/
structure Desk where
  /-- Where settings come from, and those that are kept. -/
  store : Store
  /-- The variables of the environment that set up logging. -/
  environment : Logging.Variables := {}
  /-- Those of them that the file of variables gives. -/
  supplied : Logging.Variables := {}
  /-- The loggers that have been set up. -/
  loggers : Logging.Hierarchy := {}
  /-- The working directory. -/
  directory : Files.Directory := {}
  /-- What stands on the console. -/
  console : String := ""
  /-- All log records, the oldest one first. -/
  journal : List Record := []
deriving DecidableEq, Repr, Inhabited

/-- Why a piece of work fails. -/
inductive Fault where
  | load (fault : LoadFault)
  | table (fault : Schema.TableFault)
  | file (fault : Files.FileFault)
  | logLevel (fault : Logging.LevelFault)
  | undecodable (fault : Utf8Fault)
  | longInteger (digits : Nat)
  | loneHalf
  | wire (fault : Schema.WireFault)
deriving DecidableEq, Repr

/-- The message of a fault. -/
def Fault.message : Fault → String
  | .load f => f.message
  | .table f => f.message
  | .file f => f.message
  | .logLevel f => f.message
  | .undecodable f => f.message
  | .longInteger digits => (Json.ReadFault.tooManyDigits digits).message
  | .loneHalf => Json.ReadFault.loneHalf.message
  | .wire f => f.message

/-- The fault of a logger that cannot be set up. -/
def Fault.ofSetUp : Logging.SetUpFault → Fault
  | .level f => .logLevel f
  | .file f => .file f

/-- The fault of a file that cannot be read as text. -/
def Fault.ofText : Files.TextFault → Fault
  | .file f => .file f
  | .undecodable f => .undecodable f

/-- A part of the program that has a logger of its own. -/
inductive Area where
  | configuration | queries | detection | commands
deriving DecidableEq, Repr

/-- The logger of a part of the program. -/
def Area.logger : Area → String
  | .configuration => Logging.packageName ++ ".config"
  | .queries => Logging.packageName ++ ".query.canonicalizer"
  | .detection => Logging.packageName ++ ".schema.detection"
  | .commands => Logging.packageName ++ ".cli"

namespace Desk

/-- Write a record to a target. -/
def writeTo (r : Record) (d : Desk) : Target → Desk
  | .console => { d with console := d.console ++ r.consoleLine }
  | .file place => { d with directory := d.directory.appendAt place r.fileLine }

/-- File a record. -/
def report (r : Record) (d : Desk) : Desk :=
  (d.loggers.targets r).foldl (writeTo r)
    { d with loggers := d.loggers.named r.logger, journal := d.journal ++ [r] }

/-- Put a text on the console. -/
def print (text : String) (d : Desk) : Desk := { d with console := d.console ++ text }

/-- Clear the console; gives what stood there. -/
def takeConsole (d : Desk) : String × Desk := (d.console, { d with console := "" })

end Desk

/-- A piece of work at the desk. -/
abbrev Work := ExceptT Fault (StateM Desk)

namespace Work

/-- Do a piece of work. -/
def perform {α : Type} (w : Work α) (d : Desk) : Except Fault α × Desk := w.run.run d

/-- A value, or the fault that kept it from being made. -/
def ofExcept {ε α : Type} (fault : ε → Fault) : Except ε α → Work α
  | .ok a => pure a
  | .error e => throw (fault e)

/-- Report a message from a part of the program. -/
def report (area : Area) (level : Level) (message : String) : Work Unit :=
  modify (Desk.report ⟨level, area.logger, message⟩)

/-- Put a text on the console. -/
def print (text : String) : Work Unit := modify (Desk.print text)

/-- Put a text and a line end on the console. -/
def printLine (text : String) : Work Unit := print (text ++ "\n")

end Work

end SearchDesk
