import SearchDesk.Text.Quoted

/-!
# Levels of log records

A record has one of six levels, each with a number. A logger with a level lets records
through that are at least as high; a logger of level `notSet` leaves that to the loggers
above it.

`Level.ofSetting` reads the name of a level in any case. A few names belong to something
else, and they are refused; any other name stands for `info`.
-/

namespace SearchDesk.Logging

/-- The level of a record, a logger or a handler. -/
inductive Level where
  | notSet | debug | info | warning | error | critical
deriving DecidableEq, Repr, Inhabited

namespace Level

/-- The number of a level. -/
def number : Level → Nat
  | notSet => 0
  | debug => 10
  | info => 20
  | warning => 30
  | error => 40
  | critical => 50

/-- The name of a level in log lines. -/
def name : Level → String
  | notSet => "NOTSET"
  | debug => "DEBUG"
  | info => "INFO"
  | warning => "WARNING"
  | error => "ERROR"
  | critical => "CRITICAL"

/-- Whether a record of a level passes one that asks for at least the given level. -/
def passes (record least : Level) : Bool := least.number ≤ record.number

/-- The level with a name in upper case; two levels have a second name. -/
def ofName? (name : String) : Option Level :=
  [("NOTSET", notSet), ("DEBUG", debug), ("INFO", info), ("WARNING", warning), ("WARN", warning),
    ("ERROR", error), ("CRITICAL", critical), ("FATAL", critical)].lookup name

/-- A character in upper case, as far as the names of levels are concerned: an ASCII letter,
the dotless i, the long s and its ligatures with t. -/
def upper (c : Char) : List Char :=
  if c.toNat = 0x131 then ['I']
  else if c.toNat = 0x17F then ['S']
  else if c.toNat = 0xFB05 ∨ c.toNat = 0xFB06 then ['S', 'T']
  else [c.toUpper]

end Level

/-- What a name stands for that is refused as a level. -/
inductive LevelFault where
  /-- The format of a log line. -/
  | format
  /-- The styles of formats. -/
  | styles
deriving DecidableEq, Repr

namespace LevelFault

/-- The format of a log line that has no other one. -/
def basicFormat : String := "%(levelname)s:%(name)s:%(message)s"

/-- The message of a fault. -/
def message : LevelFault → String
  | format => "Unknown level: " ++ quoted basicFormat
  | styles =>
    "Level not an integer or a valid string: \x7b'%': (<class 'logging.PercentStyle'>, "
      ++ quoted basicFormat
      ++ "), '\x7b': (<class 'logging.StrFormatStyle'>, '\x7blevelname\x7d:\x7bname\x7d:"
      ++ "\x7bmessage\x7d'), '$': (<class 'logging.StringTemplateStyle'>, "
      ++ "'$\x7blevelname\x7d:$\x7bname\x7d:$\x7bmessage\x7d')\x7d"

/-- The fault of a name in upper case that is refused. -/
def ofName? (name : String) : Option LevelFault :=
  [("BASIC_FORMAT", format), ("_STYLES", styles)].lookup name

end LevelFault

/-- The level that a setting names in any case; an unknown name stands for `info`. -/
def Level.ofSetting (text : String) : Except LevelFault Level :=
  let name := String.ofList (text.toList.flatMap upper)
  match LevelFault.ofName? name with
  | some f => .error f
  | none => .ok ((ofName? name).getD info)

end SearchDesk.Logging
