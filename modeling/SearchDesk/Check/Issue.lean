import SearchDesk.Schema.Kind
import SearchDesk.Schema.Storage

/-!
# What can be wrong with a record

A record is read from an object by checking each of its fields. An `Issue` says which
place of the object is wrong, as a path of keys and indices, and what the problem is.
`Checked` is a value or all issues that were found: checking does not stop at the first
one, and the issues come in the order in which the fields are declared.
-/

namespace SearchDesk.Check

/-- What is wrong with a value. -/
inductive Problem where
  | missing
  | notText
  | undecodable
  | notInteger
  | unreadableInteger
  | integerTooLarge
  | fractional
  | notFinite
  | notNumber
  | unreadableNumber
  | notList
  | notRecord (record : String)
  | notAbove (bound : Nat)
  | below (bound : Nat)
  | above (bound : Nat)
  | notOneOf (names : List String)
deriving DecidableEq, Repr

/-- Names in single quotes with commas between them and `or` before the last one. -/
def alternatives : List String → String
  | [] => ""
  | [a] => "'" ++ a ++ "'"
  | [a, b] => "'" ++ a ++ "' or '" ++ b ++ "'"
  | a :: rest => "'" ++ a ++ "', " ++ alternatives rest

namespace Problem

/-- The code of a problem. -/
def code : Problem → String
  | missing => "missing"
  | notText => "string_type"
  | undecodable => "string_unicode"
  | notInteger => "int_type"
  | unreadableInteger => "int_parsing"
  | integerTooLarge => "int_parsing_size"
  | fractional => "int_from_float"
  | notFinite => "finite_number"
  | notNumber => "float_type"
  | unreadableNumber => "float_parsing"
  | notList => "list_type"
  | notRecord _ => "model_type"
  | notAbove _ => "greater_than"
  | below _ => "greater_than_equal"
  | above _ => "less_than_equal"
  | notOneOf _ => "enum"

/-- The message of a problem. -/
def message : Problem → String
  | missing => "Field required"
  | notText => "Input should be a valid string"
  | undecodable => "Input should be a valid string, unable to parse raw data as a unicode string"
  | notInteger => "Input should be a valid integer"
  | unreadableInteger => "Input should be a valid integer, unable to parse string as an integer"
  | integerTooLarge => "Unable to parse input string as an integer, exceeded maximum size"
  | fractional => "Input should be a valid integer, got a number with a fractional part"
  | notFinite => "Input should be a finite number"
  | notNumber => "Input should be a valid number"
  | unreadableNumber => "Input should be a valid number, unable to parse string as a number"
  | notList => "Input should be a valid list"
  | notRecord record => "Input should be a valid dictionary or instance of " ++ record
  | notAbove bound => "Input should be greater than " ++ Nat.repr bound
  | below bound => "Input should be greater than or equal to " ++ Nat.repr bound
  | above bound => "Input should be less than or equal to " ++ Nat.repr bound
  | notOneOf names => "Input should be " ++ alternatives names

end Problem

/-- A problem and the path to its place. -/
structure Issue where
  path : List String
  problem : Problem
deriving DecidableEq, Repr

/-- The path as text, with points between its steps. -/
def Issue.place (i : Issue) : String := ".".intercalate i.path

/-- A value that passed its checks, or the issues that were found. -/
inductive Checked (α : Type) where
  | valid (value : α)
  | invalid (issues : List Issue)
deriving Inhabited

namespace Checked

/-- Change a valid value. -/
def map {α β : Type} (f : α → β) : Checked α → Checked β
  | valid a => valid (f a)
  | invalid is => invalid is

/-- Apply a valid function to a valid value, or collect the issues of both. -/
def seq {α β : Type} (f : Checked (α → β)) (x : Checked α) : Checked β :=
  match f, x with
  | valid f, valid a => valid (f a)
  | valid _, invalid is => invalid is
  | invalid is, valid _ => invalid is
  | invalid is, invalid js => invalid (is ++ js)

instance : Functor Checked where
  map f x := x.map f

instance : Applicative Checked where
  pure := valid
  seq f x := f.seq (x ())

/-- A single problem at the place itself. -/
def fail {α : Type} (p : Problem) : Checked α := invalid [⟨[], p⟩]

/-- Move the issues below a step of the path. -/
def under {α : Type} (step : String) : Checked α → Checked α
  | valid a => valid a
  | invalid is => invalid (is.map fun i => { i with path := step :: i.path })

/-- Check a valid value further. -/
def andThen {α β : Type} (x : Checked α) (f : α → Checked β) : Checked β :=
  match x with
  | valid a => f a
  | invalid is => invalid is

/-- The value if it is valid. -/
def toOption {α : Type} : Checked α → Option α
  | valid a => some a
  | invalid _ => none

/-- Check every element, counted from `start`; all issues are collected. -/
def elements {α β : Type} (check : α → Checked β) (start : Nat) :
    List α → Checked (List β)
  | [] => valid []
  | a :: rest => seq ((check a).under (Nat.repr start) |>.map List.cons)
      (elements check (start + 1) rest)

end Checked

end SearchDesk.Check
