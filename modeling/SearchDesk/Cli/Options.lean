import SearchDesk.Text.Quoted
import SearchDesk.Text.Similar

/-!
# Options on a command line

`Arguments.parse` splits the arguments of a command into options and operands:

* a long option begins with two hyphens and may carry its value after `=`; a short one is a
  hyphen and a letter, and may carry its value right after it;
* an option that needs a value takes the rest of its argument or the next argument, whatever
  that looks like;
* a flag takes no value;
* `--` ends the options, and a lone hyphen is an operand.

Options may stand before, between and after operands, unless the command takes the rest of
the line for itself. An unknown long option is reported with the known ones that are
close to it.
-/

namespace SearchDesk.Cli

/-- A fault of usage. -/
inductive UsageFault where
  | noSuchOption (name : String) (close : List String)
  | noSuchCommand (name : String) (close : List String)
  | needsValue (option : String)
  | takesNoValue (option : String)
  | badValue (parameter : String) (reason : String)
  | missingArgument (name : String)
  | extraArguments (arguments : List String)
  | missingCommand
  | nothingGiven (usage : String)
deriving DecidableEq, Repr

/-- A hint at known names that are close to an unknown one. -/
def hint : List String → String
  | [] => ""
  | [name] => " Did you mean " ++ quoted name ++ "?"
  | names => " (Did you mean one of: " ++ ", ".intercalate (names.map quoted) ++ "?)"

/-- The message of a fault. -/
def UsageFault.message : UsageFault → String
  | .noSuchOption name close => "No such option " ++ quoted name ++ "." ++ hint close
  | .noSuchCommand name close => "No such command " ++ quoted name ++ "." ++ hint close
  | .needsValue option => "Option " ++ quoted option ++ " requires an argument."
  | .takesNoValue option => "Option " ++ quoted option ++ " does not take a value."
  | .badValue parameter reason => "Invalid value for '" ++ parameter ++ "': " ++ reason
  | .missingArgument name => "Missing argument '" ++ name ++ "'."
  | .extraArguments [a] => "Got unexpected extra argument (" ++ a ++ ")"
  | .extraArguments as => "Got unexpected extra arguments (" ++ " ".intercalate as ++ ")"
  | .missingCommand => "Missing command."
  | .nothingGiven usage => usage

/-- An option that a command knows. -/
structure OptionRule where
  /-- The name by which the command looks the option up: its long form. -/
  long : String
  /-- The letter of its short form. -/
  short : Option Char := none
  /-- Whether it needs a value. -/
  takesValue : Bool := false
deriving DecidableEq, Repr, Inhabited

/-- An option that was given; a flag has no value. -/
structure Given where
  long : String
  value : Option String
deriving DecidableEq, Repr, Inhabited

/-- The arguments of a command. -/
structure Arguments where
  /-- The options, in the order in which they were given. -/
  options : List Given := []
  operands : List String := []
deriving DecidableEq, Repr, Inhabited

namespace Arguments

/-- What one argument gives: options, and possibly one that still needs a value, with the
name under which it was given. -/
abbrev Use := List Given × Option (String × OptionRule)

/-- The options in a cluster of short ones; the characters after the hyphen are given. -/
def shortUse (rules : List OptionRule) : List Char → Except UsageFault Use
  | [] => .ok ([], none)
  | c :: rest =>
    let name := String.ofList ['-', c]
    match rules.find? fun r => r.short = some c with
    | none => .error (.noSuchOption name [])
    | some r =>
      if r.takesValue then
        if rest.isEmpty then .ok ([], some (name, r))
        else .ok ([⟨r.long, some (String.ofList rest)⟩], none)
      else (shortUse rules rest).map fun u => (⟨r.long, none⟩ :: u.1, u.2)

/-- The options in an argument that begins with a hyphen. -/
def optionUse (rules : List OptionRule) (arg : List Char) : Except UsageFault Use :=
  let name := String.ofList (arg.takeWhile (· ≠ '='))
  let value := match arg.dropWhile (· ≠ '=') with
    | [] => none
    | _ :: v => some (String.ofList v)
  match rules.find? fun r => r.long = name with
  | some r =>
    match r.takesValue, value with
    | true, none => .ok ([], some (name, r))
    | true, some v => .ok ([⟨r.long, some v⟩], none)
    | false, none => .ok ([⟨r.long, none⟩], none)
    | false, some _ => .error (.takesNoValue name)
  | none =>
    if arg.take 2 = ['-', '-'] then
      .error (.noSuchOption name (Similar.closeMatches name (rules.map (·.long))))
    else shortUse rules (arg.drop 1)

/-- Put options before those of other arguments. -/
def withOptions (options : List Given) (a : Arguments) : Arguments :=
  { a with options := options ++ a.options }

/-- Put an operand before those of other arguments. -/
def withOperand (operand : String) (a : Arguments) : Arguments :=
  { a with operands := operand :: a.operands }

/-- The options and operands of a command. `mixed` tells whether options may follow
operands. -/
def parse (rules : List OptionRule) (mixed : Bool) : List String → Except UsageFault Arguments
  | [] => .ok {}
  | arg :: rest =>
    if arg = "--" then .ok { operands := rest }
    else if arg.toList.head? = some '-' && arg ≠ "-" then
      match optionUse rules arg.toList with
      | .error f => .error f
      | .ok (given, none) => (parse rules mixed rest).map (withOptions given)
      | .ok (given, some (name, rule)) =>
        match rest with
        | [] => .error (.needsValue name)
        | v :: rest =>
          (parse rules mixed rest).map (withOptions (given ++ [⟨rule.long, some v⟩]))
    else if mixed then (parse rules mixed rest).map (withOperand arg)
    else .ok { operands := arg :: rest }

/-- Whether an option was given. -/
def has (a : Arguments) (long : String) : Bool := a.options.any fun g => g.long = long

/-- The last value that was given for an option. -/
def value? (a : Arguments) (long : String) : Option String :=
  ((a.options.filter fun g => g.long = long).getLast?).bind (·.value)

/-- The first of the given options that was given. -/
def firstOf? (a : Arguments) (longs : List String) : Option String :=
  (a.options.find? fun g => longs.contains g.long).map (·.long)

end Arguments

end SearchDesk.Cli
