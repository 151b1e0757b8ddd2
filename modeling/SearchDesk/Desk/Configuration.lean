import SearchDesk.Desk.Basic

/-!
# Configuration at the desk

Settings are loaded when they are first needed and kept from then on; every look at a
configuration file is reported. A load gives the variables of the file of variables to the
environment, those for logging as well. Logging is set up by options or by the variables of
the environment. If the log file cannot be made, the steps before it stay done.
-/

namespace SearchDesk

open Logging (Level)

namespace Desk

/-- The desk with the store that a look at the settings leaves. Unless settings are kept, the
variables for logging are filled in as well. -/
def adopt (store : Store) (d : Desk) : Desk :=
  { d with
    store := store
    environment :=
      if d.store.kept.isSome then d.environment else d.environment.orElse d.supplied }

end Desk

namespace Work

/-- Report what was found when a configuration file was looked for. -/
def reportConfig (notices : List ConfigNotice) : Work Unit :=
  notices.forM fun n => report .configuration .debug n.message

/-- The settings in force. -/
def settings : Work Settings := do
  let ((answer, notices), store) := (← get).store.get
  modify (Desk.adopt store)
  reportConfig notices
  ofExcept .load answer

/-- The document of a file in the configuration directory. -/
def configDocument (name : String) : Work Yaml.Document := do
  let (answer, notices) := (← get).store.directory.document name
  reportConfig notices
  ofExcept .load answer

/-- Set up a logger. -/
def setUpLogging (o : Logging.Options) : Work Unit := do
  let d ← get
  let (fault, loggers, directory) := Logging.setUp o d.loggers d.directory
  set { d with loggers := loggers, directory := directory }
  match fault with
  | some f => throw (.ofSetUp f)
  | none => pure ()

end Work

namespace Desk

/-- The options of logging that the environment asks for. -/
def loggingOptions (d : Desk) : Logging.Options := .ofVariables d.environment

/-- Log a message on the logger with a name. -/
def log (name : String) (level : Level) (message : String) (d : Desk) : Desk :=
  d.report ⟨level, Logging.canonicalName name, message⟩

/-- Set or unset the variable that names the configuration directory. -/
def setConfigPlace (p : Option ConfigPlace) (d : Desk) : Desk :=
  { d with store := { d.store with chosen := p } }

/-- Choose a configuration directory. -/
def chooseConfig (c : ConfigDirectory) (d : Desk) : Desk := d.setConfigPlace (some (.other c))

/-- Go back to the configuration directory of the project. -/
def unchooseConfig (d : Desk) : Desk := d.setConfigPlace none

/-- Forget the settings that are kept. -/
def clearSettings (d : Desk) : Desk := { d with store := d.store.clear }

/-- Set or unset a variable of the environment; other variables than those of the desk have
no effect. -/
def setVariable (name : String) (value : Option String) (d : Desk) : Desk :=
  let overrides := d.store.overrides
  let environment := d.environment
  if name = Settings.maxDepthVariable then
    { d with store := { d.store with overrides := { overrides with maxDepth := value } } }
  else if name = Settings.sampleSizeVariable then
    { d with store := { d.store with overrides := { overrides with sampleSize := value } } }
  else if name = Logging.levelVariable then
    { d with environment := { environment with level := value } }
  else if name = Logging.fileVariable then
    { d with environment := { environment with file := value } }
  else if name = Logging.disableFileVariable then
    { d with environment := { environment with disableFile := value } }
  else d

end Desk

end SearchDesk
