import SearchDesk.Cli.Command
import SearchDesk.Cli.Screen
import SearchDesk.Desk.Queries
import SearchDesk.Desk.Samples

/-!
# Running a command line

`execute` runs a command line at a desk and gives how it ended, what it put on the console
and which files it made or changed:

* the log level is in force as soon as the name of the command is known, before the
  arguments of the command are looked at;
* a file that holds no JSON document ends the command with code 2, and a sample without
  documents ends it with code 1, both with a line on the console;
* notes and listings are shown on a screen, while documents are printed as they are;
* a fault of usage, a fault of the work and a text that cannot be shown end the command with
  nothing on the console but what was put there before.
-/

namespace SearchDesk.Cli

/-- How a command line ends. -/
inductive Ending where
  | exit (code : Nat)
  | misused (fault : UsageFault)
  | failed (fault : Fault)
  | unshown (fault : MarkupFault)
deriving DecidableEq, Repr

/-- A command that runs at a desk, and may end early. -/
abbrev Run := ExceptT Ending (StateM Desk)

namespace Run

/-- A piece of work as a part of a command. -/
def ofWork {α : Type} (w : Work α) : Run α := w.adapt .failed

/-- A reading of arguments as a part of a command. -/
def ofReading {α : Type} : Except UsageFault α → Run α
  | .ok a => pure a
  | .error f => throw (.misused f)

/-- The arguments of a command as a part of it. -/
def ofCommand {α : Type} : Except CommandFault α → Run α
  | .ok a => pure a
  | .error (.usage f) => throw (.misused f)
  | .error (.path f) => throw (.failed (.file f))

/-- Put what a screen shows on the console. -/
def put : Except MarkupFault String → Run Unit
  | .ok shown => ofWork (Work.printLine shown)
  | .error f => throw (.unshown f)

section
variable (screen : Screen)

/-- End with a note. -/
def endWith {α : Type} (code : Nat) (note : String) : Run α := do
  put (screen.line note)
  throw (.exit code)

/-! ## Files -/

/-- The JSON document in a file. -/
def readJson (file : Files.Path) : Run Json := do
  match (← get).directory.readText file with
  | .error f => throw (.failed (.ofText f))
  | .ok text =>
    match Json.read text with
    | .ok v => pure v
    | .error (.tooManyDigits n) => throw (.failed (.longInteger n))
    | .error .loneHalf => throw (.failed .loneHalf)
    | .error f => endWith screen 2 ("❌ Invalid JSON in " ++ file.text ++ ": " ++ f.message)

/-- Write a text to a file, with the folders on the way. -/
def writeText (file : Files.Path) (text : String) : Run Unit := do
  let d ← get
  let (fault, directory) := d.directory.makeParents file
  set { d with directory := directory }
  match fault with
  | some f => throw (.failed (.file f))
  | none =>
    match directory.write file text with
    | .error f => throw (.failed (.file f))
    | .ok directory => set { d with directory := directory }

/-! ## Commands -/

/-- The report of the sample in a file. -/
def detectIn (file : Files.Path) : Run Schema.Report := do
  let payload ← readJson screen file
  let found ← ofWork do Work.detect none (← Work.sampleDocuments payload)
  if found.foundDocuments then return found
  else endWith screen 1 ("⚠️  " ++ found.error.getD "None")

/-- Tell which dialect a query uses. -/
def checkDialect (query : Json) : Run Unit :=
  let dialect := if Query.usesSimplified query then "simplified" else "canonical"
  put (screen.line ("Query uses the " ++ dialect ++ " dialect"))

/-- Print a query in the canonical dialect. -/
def canonicalize (file : Files.Path) (maxDepth : Option Int) (query : Json) : Run Unit :=
  ofWork do
    Work.report .commands .debug ("Canonicalizing query from " ++ file.text)
    Work.printLine (← Work.canonicalize 0 maxDepth query).indented

/-- Print the wire form of what was detected. -/
def printWire (found : Schema.Report) : Run Unit :=
  ofWork do
    let wire ← Work.ofExcept .wire found.toWire
    Work.printLine wire.indented

/-- Show the detected fields of a sample. -/
def showListings (found : Schema.Report) : Run Unit := do
  put (screen.line ("📊 Sampled " ++ Nat.repr found.sampleCount ++ " documents"))
  found.groups.forM fun g => put (screen.listing g.listing)

/-- Print the detected fields of a sample as JSON, or show them as listings. -/
def showReport (found : Schema.Report) (asJson : Bool) : Run Unit :=
  if asJson then printWire found else showListings screen found

/-- Print the table schema of a sample, or write it to a file. -/
def showSchema (found : Schema.Report) (output : Option String) : Run Unit := do
  let schema ← ofWork (Work.tableSchema found .null)
  let text := schema.toJson.indented
  match output with
  | none => ofWork (Work.printLine text)
  | some "" => ofWork (Work.printLine text)
  | some name =>
    let file := Files.Path.ofText name
    writeText file text
    put (screen.line ("💾 Saved schema to " ++ file.text))

/-- Run a command. -/
def command : Command → Run Unit
  | .canonicalize file checkOnly maxDepth => do
    let query ← readJson screen file
    if checkOnly then checkDialect screen query else canonicalize file maxDepth query
  | .detect file asJson => do showReport screen (← detectIn screen file) asJson
  | .schema file output => do showSchema screen (← detectIn screen file) output

/-- The logging that a command line sets up. -/
def logging (level : String) : Logging.Options := { level := level, toFile := false }

/-- Give the answer of a reading, or go on with what is to be run. -/
def answerOr {α : Type} (reading : Reading α) (go : α → Run Unit) : Run Unit :=
  match reading with
  | .answer text => ofWork (Work.print text)
  | .run value => go value

/-- Run a command with its arguments, at the log level that is asked for. -/
def invoke (i : Invocation) : Run Unit := do
  ofWork (Work.setUpLogging (logging i.level))
  let directory := (← get).directory
  answerOr (← ofCommand (Command.parse directory i)) (command screen)

/-- Run a command line. -/
def commandLine (args : List String) : Run Unit := do
  answerOr (← ofReading (Invocation.parse args)) fun (level, operands) => do
    answerOr (← ofReading (Invocation.resolve level operands)) (invoke screen)

end

end Run

/-- What a command line leaves. -/
structure Outcome where
  ending : Ending
  /-- What it put on the console. -/
  output : String
  /-- The files that it made or changed, by name. -/
  written : List (String × Files.Content)
deriving DecidableEq, Repr

/-- How a command line ends, and the desk afterwards. -/
def run (screen : Screen) (args : List String) (d : Desk) : Ending × Desk :=
  match (Run.commandLine screen args).run.run d with
  | (.ok (), d) => (.exit 0, d)
  | (.error e, d) => (e, d)

/-- Run a command line on a clear console. -/
def execute (screen : Screen) (args : List String) (d : Desk) : Outcome × Desk :=
  let (ending, after) := run screen args d.takeConsole.2
  let (output, after) := after.takeConsole
  (⟨ending, output, d.directory.changedSince after.directory⟩, after)

end SearchDesk.Cli
