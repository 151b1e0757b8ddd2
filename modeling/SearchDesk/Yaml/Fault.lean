import SearchDesk.Text.Quoted

/-!
# What can be wrong with a configuration text

A `Yaml.Fault` says why no value can be made of a text. Most faults are faults of form: the
text is malformed, a tag is unknown or does not fit its node. The others arise when a scalar
is given its value, and each has a message of its own.
-/

namespace SearchDesk.Yaml

/-- What is wrong with a date or a time of day. -/
inductive ClockFault where
  | year (value : Nat)
  | month
  | day
  | hour
  | minute
  | second
  | zone (days : Int) (seconds : Nat)
deriving DecidableEq, Repr

/-- The message of a fault of a date or a time of day. -/
def ClockFault.message : ClockFault → String
  | .year value => "year " ++ Nat.repr value ++ " is out of range"
  | .month => "month must be in 1..12"
  | .day => "day is out of range for month"
  | .hour => "hour must be in 0..23"
  | .minute => "minute must be in 0..59"
  | .second => "second must be in 0..59"
  | .zone days seconds =>
    "offset must be a timedelta strictly between -timedelta(hours=24) and timedelta(hours=24), "
      ++ "not datetime.timedelta(days=" ++ Int.repr days
      ++ (if seconds = 0 then "" else ", seconds=" ++ Nat.repr seconds) ++ ")."

/-- Why no value can be made of a text. -/
inductive Fault where
  /-- A fault of form. -/
  | malformed
  /-- An escape names a code point that no character has. -/
  | noCharacter
  /-- An escape names a number that is no code point by far. -/
  | codeTooLarge
  /-- A scalar spells no integer of a base. -/
  | integer (base : Nat) (text : String)
  /-- An integer has too many digits. -/
  | tooManyDigits (count : Nat)
  /-- A scalar spells no number. -/
  | number (text : String)
  /-- A scalar that has to spell a number is empty. -/
  | emptyNumber
  /-- A place of a number in base sixty counts too much. -/
  | numberTooLarge
  /-- A word is no truth value. -/
  | truth (word : String)
  /-- A scalar spells no date. -/
  | noDate
  /-- A date is given by a mapping. -/
  | dateOfMapping
  /-- A date or a time of day does not exist. -/
  | clock (fault : ClockFault)
  /-- A collection contains itself where it has to be written out. -/
  | circular
  /-- A mapping that has to be a scalar leads back to itself. -/
  | endless
deriving DecidableEq, Repr

/-- The longest quotation of a text that spells no integer. -/
def quotationLimit : Nat := 200

/-- The message of a fault; a fault of form has none of its own. -/
def Fault.message : Fault → String
  | .malformed => "Invalid YAML"
  | .noCharacter => "chr() arg not in range(0x110000)"
  | .codeTooLarge => "Python int too large to convert to C int"
  | .integer base text =>
    "invalid literal for int() with base " ++ Nat.repr base ++ ": "
      ++ String.ofList ((quoted text).toList.take quotationLimit)
  | .tooManyDigits count =>
    "Exceeds the limit (4300 digits) for integer string conversion: value has "
      ++ Nat.repr count ++ " digits; use sys.set_int_max_str_digits() to increase the limit"
  | .number text => "could not convert string to float: " ++ quoted text
  | .emptyNumber => "string index out of range"
  | .numberTooLarge => "int too large to convert to float"
  | .truth word => quoted word
  | .noDate => "'NoneType' object has no attribute 'groupdict'"
  | .dateOfMapping => "expected string or bytes-like object, got 'list'"
  | .clock f => f.message
  | .circular => "Circular reference detected"
  | .endless => "maximum recursion depth exceeded"

end SearchDesk.Yaml
