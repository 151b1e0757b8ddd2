import SearchDesk.Logging.Hierarchy

/-!
# Setting up logging

`setUp` gives a logger a level, a console handler and, if asked for, a file handler, and
takes its former handlers away. A named logger stops propagating, so that its records are
not written once more by the root logger. The folders on the way to the log file and the
file itself are made.

The steps are done one after the other, and the file comes last but for propagation: if it
cannot be made, the steps before it stay done and the fault is reported.
-/

namespace SearchDesk.Logging

/-- The logger of the package. -/
def packageName : String := "vectordash_core"

/-- The log file if none is named. -/
def defaultFile : String := "vectordash_core.log"

/-- How logging is set up. -/
structure Options where
  /-- The level by name. -/
  level : String := "INFO"
  /-- The log file; none and an empty name stand for the default. -/
  file : Option String := none
  /-- Whether there is a log file. -/
  toFile : Bool := true
  /-- The logger; none stands for the root. -/
  logger : Option String := some packageName
deriving DecidableEq, Repr, Inhabited

/-- The path of the log file. -/
def Options.path (o : Options) : Files.Path :=
  Files.Path.ofText (match o.file with
    | some f => if f = "" then defaultFile else f
    | none => defaultFile)

/-- The name of the logger. -/
def Options.loggerName (o : Options) : String := canonicalName (o.logger.getD "")

/-- The greatest size of a log file in bytes. -/
def maxBytes : Nat := 10 * 1024 * 1024

/-- How many former log files are kept. -/
def backupCount : Nat := 5

/-- Make the log file, with the folders on the way; gives its place. -/
def openFile (d : Files.Directory) (p : Files.Path) :
    Except Files.FileFault Files.Place × Files.Directory :=
  match d.makeParents p with
  | (some f, d) => (.error f, d)
  | (none, d) =>
    match d.writable p.collapse with
    | .error f => (.error f, d)
    | .ok place => (.ok place, d.appendAt place "")

/-- Why a logger cannot be set up. -/
inductive SetUpFault where
  | level (fault : LevelFault)
  | file (fault : Files.FileFault)
deriving DecidableEq, Repr

/-- The message of a fault. -/
def SetUpFault.message : SetUpFault → String
  | .level f => f.message
  | .file f => f.message

/-- Set up a logger at a level. -/
def setUpAt (level : Level) (o : Options) (h : Hierarchy) (d : Files.Directory) :
    Option Files.FileFault × Hierarchy × Files.Directory :=
  let name := o.loggerName
  let h := h.update name fun l => { l with level := level, handlers := [⟨.console, level⟩] }
  let silence (h : Hierarchy) : Hierarchy :=
    if o.logger.isSome then h.update name fun l => { l with propagate := false } else h
  if o.toFile then
    match openFile d o.path with
    | (.error f, d) => (some f, h, d)
    | (.ok place, d) =>
      let h := h.update name fun l =>
        { l with handlers := l.handlers ++ [⟨.file place, .debug⟩] }
      (none, silence h, d)
  else (none, silence h, d)

/-- Set up a logger. A level that is refused leaves it as it is. -/
def setUp (o : Options) (h : Hierarchy) (d : Files.Directory) :
    Option SetUpFault × Hierarchy × Files.Directory :=
  let h := h.named o.loggerName
  match Level.ofSetting o.level with
  | .error f => (some (.level f), h, d)
  | .ok level =>
    let (fault, h, d) := setUpAt level o h d
    (fault.map .file, h, d)

/-- The variables of the environment that set up logging. -/
structure Variables where
  level : Option String := none
  file : Option String := none
  disableFile : Option String := none
deriving DecidableEq, Repr, Inhabited

/-- The variables, and those of a file where they are not set. -/
def Variables.orElse (v file : Variables) : Variables where
  level := v.level.or file.level
  file := v.file.or file.file
  disableFile := v.disableFile.or file.disableFile

/-- The name of the variable for the level. -/
def levelVariable : String := "LOG_LEVEL"

/-- The name of the variable for the log file. -/
def fileVariable : String := "LOG_FILE"

/-- The name of the variable that turns the log file off. -/
def disableFileVariable : String := "DISABLE_FILE_LOGGING"

/-- The set-up that the environment asks for. -/
def Options.ofVariables (v : Variables) : Options where
  level := v.level.getD "INFO"
  file := some (v.file.getD defaultFile)
  toFile := (v.disableFile.getD "") = ""

end SearchDesk.Logging
