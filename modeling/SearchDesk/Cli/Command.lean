import SearchDesk.Cli.Options
import SearchDesk.Files.Directory
import SearchDesk.Logging.Level
import SearchDesk.Text.Integer

/-!
# The commands of the desk

A command line has options of its own, the name of a command and the arguments of that
command. `Invocation.parse` reads the first two and `Command.parse` the rest, because the
log level is in force before the arguments of the command are looked at.

Options are checked in the order in which they are given, then the operands, and only then
whether there are too many. `--help` and `--version` win over every other option.
-/

namespace SearchDesk.Cli

/-- The name of the program. -/
def programName : String := "vectordash"

/-- The version of the program. -/
def version : String := "0.1.0"

/-- The line that tells how the program is used. -/
def usage (words : String) : String := "Usage: " ++ programName ++ " " ++ words

/-- The option that asks for help. -/
def helpOption : OptionRule := { long := "--help" }

/-- Either an answer that is given at once, or something to run. -/
inductive Reading (α : Type) where
  | answer (text : String)
  | run (value : α)
deriving Inhabited

/-! ## The program -/

/-- What the program is asked to do. -/
structure Invocation where
  /-- The log level by name. -/
  level : String
  /-- The name of the command. -/
  command : String
  /-- The arguments of the command. -/
  arguments : List String
deriving DecidableEq, Repr, Inhabited

namespace Invocation

/-- The options of the program. -/
def rules : List OptionRule :=
  [{ long := "--version" }, { long := "--log-level", takesValue := true }, helpOption]

/-- The log levels that may be asked for. -/
def levels : List String := ["DEBUG", "INFO", "WARNING", "ERROR"]

/-- The log level that a word names in any case. -/
def levelOf? (word : String) : Option String :=
  levels.find? fun l => l.toList.map Char.toLower = word.toList.map Char.toLower

/-- The reason why a word names no log level. -/
def levelReason (word : String) : String :=
  let lower (l : String) : String := String.ofList (l.toList.map Char.toLower)
  quoted word ++ " is not one of " ++ ", ".intercalate (levels.map fun l => quoted (lower l)) ++ "."

/-- The log level among the options. -/
def levelFrom (a : Arguments) : Except UsageFault String :=
  match a.value? "--log-level" with
  | none => .ok "WARNING"
  | some word =>
    match levelOf? word with
    | some l => .ok l
    | none => .error (.badValue "--log-level" (levelReason word))

/-- The answer to an option that wins over the others. -/
def answerTo (long : String) : String :=
  if long = "--version" then programName ++ ", version " ++ version ++ "\n"
  else usage "[OPTIONS] COMMAND [ARGS]..." ++ "\n"

/-- What the arguments of the program ask for; without a command only the options are
checked. -/
def parse (args : List String) : Except UsageFault (Reading (String × List String)) :=
  if args.isEmpty then .error (.nothingGiven (usage "[OPTIONS] COMMAND [ARGS]..."))
  else
    match Arguments.parse rules false args with
    | .error f => .error f
    | .ok a =>
      match a.firstOf? ["--version", "--help"] with
      | some long => .ok (.answer (answerTo long))
      | none => (levelFrom a).map fun level => .run (level, a.operands)

/-- The names of the commands. -/
def commands : List String := ["canonicalize", "detect", "schema"]

/-- The answer to an unknown command. A name that begins like an option is first read as
one. -/
def unknownCommand (name : String) (rest : List String) : Except UsageFault (Reading Invocation) :=
  match parse (name :: rest) with
  | .error f => .error f
  | .ok (.answer text) => .ok (.answer text)
  | .ok (.run _) => .error (.noSuchCommand name (Similar.closeMatches name commands))

/-- The command among the operands of the program. -/
def resolve (level : String) : List String → Except UsageFault (Reading Invocation)
  | [] => .error .missingCommand
  | name :: rest =>
    if commands.contains name then .ok (.run ⟨level, name, rest⟩) else unknownCommand name rest

end Invocation

/-! ## Commands -/

/-- What can be wrong with the arguments of a command. -/
inductive CommandFault where
  | usage (fault : UsageFault)
  | path (fault : Files.FileFault)
deriving DecidableEq, Repr

/-- A command with its arguments. -/
inductive Command where
  | canonicalize (file : Files.Path) (checkOnly : Bool) (maxDepth : Option Int)
  | detect (file : Files.Path) (asJson : Bool)
  | schema (file : Files.Path) (output : Option String)
deriving DecidableEq, Repr, Inhabited

namespace Command

/-- Whether the text of a path names something in the directory. A path that ends with a
slash or a point names a folder. -/
def names (d : Files.Directory) (text : String) : Bool :=
  let path := Files.Path.ofText text
  let last := ((text.toList.splitOn '/').getLastD [])
  if text = "" || Files.Path.textLimit ≤ text.utf8ByteSize then false
  else if last = [] || last = ['.'] then d.reachesFolder path
  else d.reaches path

/-- The path of the only operand, which has to name something; further operands are too
many. -/
def operand (d : Files.Directory) (name : String) :
    List String → Except CommandFault Files.Path
  | [] => .error (.usage (.missingArgument name))
  | text :: rest =>
    if Files.Path.hasNull text then .error (.path ⟨.nullCharacter, text⟩)
    else if !names d text then
      .error (.usage (.badValue name ("Path " ++ quoted text ++ " does not exist.")))
    else if rest.isEmpty then .ok (Files.Path.ofText text)
    else .error (.usage (.extraArguments rest))

/-- A whole number among the options. -/
def wholeNumber (a : Arguments) (long : String) : Except CommandFault (Option Int) :=
  match a.value? long with
  | none => .ok none
  | some text =>
    match spelledInteger? text with
    | some n => .ok (some n)
    | none => .error (.usage (.badValue long (quoted text ++ " is not a valid integer.")))

/-- The options of a command. -/
def rules : String → List OptionRule
  | "canonicalize" =>
    [{ long := "--check" }, { long := "--max-depth", takesValue := true }, helpOption]
  | "detect" => [{ long := "--json" }, helpOption]
  | _ => [{ long := "--output", short := some 'o', takesValue := true }, helpOption]

/-- The command with a name, from its options and operands. -/
def ofArguments (d : Files.Directory) (name : String) (a : Arguments) :
    Except CommandFault Command :=
  if name = "canonicalize" then do
    let depth ← wholeNumber a "--max-depth"
    let file ← operand d "QUERY_FILE" a.operands
    return .canonicalize file (a.has "--check") depth
  else if name = "detect" then do
    let file ← operand d "SAMPLE_FILE" a.operands
    return .detect file (a.has "--json")
  else do
    let file ← operand d "SAMPLE_FILE" a.operands
    return .schema file (a.value? "--output")

/-- The command that is asked for. -/
def parse (d : Files.Directory) (i : Invocation) : Except CommandFault (Reading Command) :=
  match Arguments.parse (rules i.command) true i.arguments with
  | .error f => .error (.usage f)
  | .ok a =>
    if a.has "--help" then .ok (.answer (usage (i.command ++ " [OPTIONS]") ++ "\n"))
    else (ofArguments d i.command a).map .run

end Command

end SearchDesk.Cli
