import SearchDesk.Cli.Run
import SearchDesk.Proofs.Desk.Console

/-!
# Running commands

What a command line comes to, step by step. Commands are done one after the other at a desk, and
an ending of one ends the whole (`Run.perform_bind`).

* `SampleFile` says that a word on the command line names a file with a text;
* `Leads` says that a command line asks for a command at a log level, and `leads_canonicalize`,
  `leads_detect` and `leads_schema` say so of the command lines of the three commands;
* `execute_of_leads` then gives the outcome of a command line from that of the command, done at
  a desk whose console is clear and whose loggers report at the level.
-/

namespace SearchDesk.Cli

open Logging (Level)

namespace Run

variable {α β : Type}

/-! ## Doing commands -/

/-- Do a part of a command. -/
def perform (r : Run α) (d : Desk) : Except Ending α × Desk := r.run.run d

@[simp] theorem perform_pure (a : α) (d : Desk) : (pure a : Run α).perform d = (.ok a, d) := rfl

theorem perform_bind (r : Run α) (next : α → Run β) (d : Desk) :
    (r >>= next).perform d =
      match r.perform d with
      | (.ok a, d') => (next a).perform d'
      | (.error e, d') => (.error e, d') := by
  unfold perform
  rw [ExceptT.run_bind, StateT.run_bind]
  rcases r.run.run d with ⟨_ | _, _⟩ <;> rfl

theorem perform_bind_of_ok {r : Run α} {d d' : Desk} {a : α} (done : r.perform d = (.ok a, d'))
    (next : α → Run β) : (r >>= next).perform d = (next a).perform d' := by
  rw [perform_bind, done]

theorem perform_bind_of_error {r : Run α} {d d' : Desk} {e : Ending}
    (ended : r.perform d = (.error e, d')) (next : α → Run β) :
    (r >>= next).perform d = (.error e, d') := by
  rw [perform_bind, ended]

/-- A piece of work is done at the desk, and its fault ends the command. -/
theorem perform_ofWork (w : Work α) (d : Desk) :
    (ofWork w).perform d = ((w.perform d).1.mapError .failed, (w.perform d).2) := by
  show (do let r ← w.run; pure (r.mapError Ending.failed) : StateM Desk _).run d = _
  rfl

theorem perform_ofWork_of_ok {w : Work α} {d d' : Desk} {a : α}
    (done : w.perform d = (.ok a, d')) : (ofWork w).perform d = (.ok a, d') := by
  rw [perform_ofWork, done]
  rfl

/-- What a screen shows is put on the console. -/
theorem perform_put_of_ok {shown : Except MarkupFault String} {text : String}
    (shows : shown = .ok text) (d : Desk) :
    (put shown).perform d = (.ok (), d.print (text ++ "\n")) := by
  rw [shows]
  rfl

theorem perform_put_of_error {shown : Except MarkupFault String} {f : MarkupFault}
    (failed : shown = .error f) (d : Desk) : (put shown).perform d = (.error (.unshown f), d) := by
  rw [failed]
  rfl

end Run

/-! ## Reading the arguments -/

/-- A word on the command line names a file with a text. -/
structure SampleFile (d : Files.Directory) (word text : String) : Prop where
  operand : word.toList.head? ≠ some '-'
  unbroken : Files.Path.hasNull word = false
  names : Command.names d word = true
  holds : d.readText (.ofText word) = .ok text

/-- The words of a command line that asks for a log level, or leaves it to the default. -/
def leveled (level : Option String) (words : List String) : List String :=
  match level with
  | none => words
  | some word => "--log-level" :: word :: words

/-- The name of the log level that is asked for. -/
def levelName (level : Option String) : Option String :=
  match level with
  | none => some "WARNING"
  | some word => Invocation.levelOf? word

/-- A command line asks for a command at a log level. -/
def Leads (args : List String) (d : Files.Directory) (level : Level) (c : Command) : Prop :=
  ∃ i, (∀ screen, Run.commandLine screen args = Run.invoke screen i) ∧
    Level.ofSetting i.level = .ok level ∧ Command.parse d i = .ok (.run c)

/-- The name of a command ends the options of the program. -/
theorem parse_of_command {command : String} (known : command ∈ Invocation.commands)
    (rest : List String) :
    Arguments.parse Invocation.rules false (command :: rest) =
      .ok { operands := command :: rest } := by
  simp only [Invocation.commands, List.mem_cons, List.not_mem_nil, or_false] at known
  rcases known with rfl | rfl | rfl <;> rfl

/-- The option of the log level takes the next word. -/
theorem parse_logLevel (word : String) (rest : List String) :
    Arguments.parse Invocation.rules false ("--log-level" :: word :: rest) =
      (Arguments.parse Invocation.rules false rest).map
        (Arguments.withOptions [⟨"--log-level", some word⟩]) := by
  have use : Arguments.optionUse Invocation.rules "--log-level".toList =
      .ok ([], some ("--log-level", { long := "--log-level", takesValue := true })) := by
    rfl
  have isOption : ("--log-level".toList.head? = some '-' && "--log-level" ≠ "-") = true := by
    decide
  rw [Arguments.parse, if_neg (by decide), if_pos isOption, use]
  rfl

/-- The log level and the command are taken from the words. -/
theorem parse_leveled {level : Option String} {name : String}
    (asked : levelName level = some name) {command : String}
    (known : command ∈ Invocation.commands) (rest : List String) :
    Invocation.parse (leveled level (command :: rest)) = .ok (.run (name, command :: rest)) := by
  have operands := parse_of_command known rest
  cases level with
  | none =>
    obtain rfl := Option.some.inj asked
    rw [Invocation.parse, leveled, operands]
    rfl
  | some word =>
    have named : Invocation.levelOf? word = some name := asked
    rw [Invocation.parse, leveled, parse_logLevel, operands]
    simp [Except.map, Arguments.withOptions, Arguments.firstOf?, Invocation.levelFrom,
      Arguments.value?, named]

theorem resolve_of_command (name : String) {command : String}
    (known : command ∈ Invocation.commands) (rest : List String) :
    Invocation.resolve name (command :: rest) = .ok (.run ⟨name, command, rest⟩) := by
  rw [Invocation.resolve, if_pos (List.contains_iff_mem.mpr known)]

/-- A command line with the name of a command leads to that command. -/
theorem commandLine_leveled {level : Option String} {name : String}
    (asked : levelName level = some name) {command : String}
    (known : command ∈ Invocation.commands) (rest : List String) (screen : Screen) :
    Run.commandLine screen (leveled level (command :: rest)) =
      Run.invoke screen ⟨name, command, rest⟩ := by
  unfold Run.commandLine
  rw [parse_leveled asked known, Run.ofReading, pure_bind, Run.answerOr]
  dsimp only
  rw [resolve_of_command name known, Run.ofReading, pure_bind, Run.answerOr]

/-! ### The arguments of commands -/

/-- A word that is no option is an operand. -/
theorem parse_operand {word : String} (operand : word.toList.head? ≠ some '-')
    (rules : List OptionRule) (rest : List String) :
    Arguments.parse rules true (word :: rest) =
      (Arguments.parse rules true rest).map (Arguments.withOperand word) := by
  have notEnd : word ≠ "--" := by
    rintro rfl
    exact operand rfl
  rw [Arguments.parse, if_neg notEnd]
  simp [operand]

/-- A flag of `detect`. -/
theorem parse_json (rest : List String) :
    Arguments.parse (Command.rules "detect") true ("--json" :: rest) =
      (Arguments.parse (Command.rules "detect") true rest).map
        (Arguments.withOptions [⟨"--json", none⟩]) := by
  have use : Arguments.optionUse (Command.rules "detect") "--json".toList =
      .ok ([⟨"--json", none⟩], none) := by
    rfl
  have isOption : ("--json".toList.head? = some '-' && "--json" ≠ "-") = true := by decide
  rw [Arguments.parse, if_neg (by decide), if_pos isOption, use]

/-- The option of `schema` takes the next word. -/
theorem parse_output (name : String) (rest : List String) :
    Arguments.parse (Command.rules "schema") true ("-o" :: name :: rest) =
      (Arguments.parse (Command.rules "schema") true rest).map
        (Arguments.withOptions [⟨"--output", some name⟩]) := by
  have use : Arguments.optionUse (Command.rules "schema") "-o".toList =
      .ok ([], some ("-o", { long := "--output", short := some 'o', takesValue := true })) := by
    rfl
  have isOption : ("-o".toList.head? = some '-' && "-o" ≠ "-") = true := by decide
  rw [Arguments.parse, if_neg (by decide), if_pos isOption, use]
  rfl

/-- A command is made of its arguments, unless they ask for help. -/
theorem parse_of_arguments {i : Invocation} {a : Arguments} {c : Command} {d : Files.Directory}
    (parsed : Arguments.parse (Command.rules i.command) true i.arguments = .ok a)
    (noHelp : a.has "--help" = false) (made : Command.ofArguments d i.command a = .ok c) :
    Command.parse d i = .ok (.run c) := by
  rw [Command.parse, parsed]
  simp only [noHelp, made]
  rfl

/-- The only operand of a command is the path of a file. -/
theorem operand_of_sampleFile {d : Files.Directory} {word text : String}
    (file : SampleFile d word text) (name : String) :
    Command.operand d name [word] = .ok (.ofText word) := by
  rw [Command.operand, if_neg (by simp [file.unbroken]), file.names]
  rfl

section
variable {d : Files.Directory} {word text : String} {name : String} {lv : Level}
  {level : Option String} (file : SampleFile d word text) (asked : levelName level = some name)
  (stands : Level.ofSetting name = .ok lv)

include file asked stands

theorem leads_canonicalize :
    Leads (leveled level ["canonicalize", word]) d lv
      (.canonicalize (.ofText word) false none) := by
  have parsed : Arguments.parse (Command.rules "canonicalize") true [word] =
      .ok { operands := [word] } := by
    rw [parse_operand file.operand]
    rfl
  refine ⟨_, commandLine_leveled asked (by decide) _, stands, parse_of_arguments parsed rfl ?_⟩
  rw [Command.ofArguments, if_pos rfl, operand_of_sampleFile file]
  rfl

theorem leads_detect :
    Leads (leveled level ["detect", word]) d lv (.detect (.ofText word) false) := by
  have parsed : Arguments.parse (Command.rules "detect") true [word] =
      .ok { operands := [word] } := by
    rw [parse_operand file.operand]
    rfl
  refine ⟨_, commandLine_leveled asked (by decide) _, stands, parse_of_arguments parsed rfl ?_⟩
  rw [Command.ofArguments, if_neg (by decide : ¬"detect" = "canonicalize"), if_pos rfl,
    operand_of_sampleFile file]
  rfl

theorem leads_detect_json :
    Leads (leveled level ["detect", "--json", word]) d lv (.detect (.ofText word) true) := by
  have parsed : Arguments.parse (Command.rules "detect") true ["--json", word] =
      .ok { options := [⟨"--json", none⟩], operands := [word] } := by
    rw [parse_json, parse_operand file.operand]
    rfl
  refine ⟨_, commandLine_leveled asked (by decide) _, stands, parse_of_arguments parsed rfl ?_⟩
  rw [Command.ofArguments, if_neg (by decide : ¬"detect" = "canonicalize"), if_pos rfl,
    operand_of_sampleFile file]
  rfl

theorem leads_schema :
    Leads (leveled level ["schema", word]) d lv (.schema (.ofText word) none) := by
  have parsed : Arguments.parse (Command.rules "schema") true [word] =
      .ok { operands := [word] } := by
    rw [parse_operand file.operand]
    rfl
  refine ⟨_, commandLine_leveled asked (by decide) _, stands, parse_of_arguments parsed rfl ?_⟩
  rw [Command.ofArguments, if_neg (by decide : ¬"schema" = "canonicalize"),
    if_neg (by decide : ¬"schema" = "detect"), operand_of_sampleFile file]
  rfl

theorem leads_schema_output (output : String) :
    Leads (leveled level ["schema", word, "-o", output]) d lv
      (.schema (.ofText word) (some output)) := by
  have parsed : Arguments.parse (Command.rules "schema") true [word, "-o", output] =
      .ok { options := [⟨"--output", some output⟩], operands := [word] } := by
    rw [parse_operand file.operand, parse_output]
    rfl
  refine ⟨_, commandLine_leveled asked (by decide) _, stands, parse_of_arguments parsed rfl ?_⟩
  rw [Command.ofArguments, if_neg (by decide : ¬"schema" = "canonicalize"),
    if_neg (by decide : ¬"schema" = "detect"), operand_of_sampleFile file]
  rfl

end

/-! ## The outcome of a command line -/

/-- What is left when a command has been done at a desk that has taken the place of another. -/
def Outcome.of (d : Desk) (done : Except Ending Unit × Desk) : Outcome where
  ending := match done.1 with
    | .ok () => .exit 0
    | .error e => e
  output := done.2.console
  written := d.directory.changedSince done.2.directory

theorem perform_setUpLogging {o : Logging.Options} {d : Desk} {h : Logging.Hierarchy}
    {directory : Files.Directory}
    (setUp : Logging.setUp o d.loggers d.directory = (none, h, directory)) :
    (Work.setUpLogging o).perform d =
      (.ok (), { d with loggers := h, directory := directory }) := by
  have got : (get : Work Desk).perform d = (.ok d, d) := rfl
  rw [Work.setUpLogging, Work.perform_bind_of_ok got, setUp]
  rfl

/-- A command line comes to what its command comes to at a desk whose console is clear and whose
loggers report at the level. -/
theorem execute_of_leads {args : List String} {d : Desk} {level : Level} {c : Command}
    (fresh : d.loggers = {}) (leads : Leads args d.directory level c) (screen : Screen) :
    ∃ ready, Desk.Filed level [] d.takeConsole.2 ready ∧
      (execute screen args d).1 = .of d ((Run.command screen c).perform ready) ∧
      (execute screen args d).2 = ((Run.command screen c).perform ready).2.takeConsole.2 := by
  obtain ⟨i, led, stands, parsed⟩ := leads
  obtain ⟨h, setUp, reports⟩ := Logging.Hierarchy.reports_setUp stands d.directory
  let ready : Desk := { d with console := "", loggers := h }
  have first : (Work.setUpLogging (Run.logging i.level)).perform d.takeConsole.2 =
      (.ok (), ready) := by
    refine perform_setUpLogging ?_
    show Logging.setUp (Run.logging i.level) d.loggers d.directory = _
    rw [fresh]
    exact setUp
  have invoked : (Run.invoke screen i).perform d.takeConsole.2 =
      (Run.command screen c).perform ready := by
    have got : (get : Run Desk).perform ready = (.ok ready, ready) := rfl
    have asked : (Run.ofCommand (Command.parse ready.directory i)).perform ready =
        (.ok (.run c), ready) := by
      rw [show ready.directory = d.directory from rfl, parsed]
      rfl
    rw [Run.invoke, Run.perform_bind_of_ok (Run.perform_ofWork_of_ok first),
      Run.perform_bind_of_ok got, Run.perform_bind_of_ok asked, Run.answerOr]
  have ran : run screen args d.takeConsole.2 =
      match (Run.command screen c).perform ready with
      | (.ok (), d) => (.exit 0, d)
      | (.error e, d) => (e, d) := by
    rw [run, led, ← invoked]
    rfl
  refine ⟨ready, ⟨rfl, rfl, rfl, (List.append_nil _).symm, reports⟩, ?_⟩
  unfold execute
  rw [ran]
  rcases (Run.command screen c).perform ready with ⟨_ | _, _⟩ <;> exact ⟨rfl, rfl⟩

end SearchDesk.Cli
