import SearchDesk.Schema.Kind
import SearchDesk.Schema.Storage
import SearchDesk.Text.Blank
import SearchDesk.Text.Digit

/-!
# Suggested storage types

The storage types that suit a field, from its kind and, for strings, from an example:

* numbers are `numeric`, arrays are `keyword`, truth values and objects have none;
* a string that begins with a date and a time of day is a `datetime`: four digits, two and
  two, with hyphens between them, then a `T` or a blank or nothing, then two digits, a
  colon and two digits;
* a string with a `<`, a letter right after it and a `>` somewhere behind is `html`;
* any other string is `text`, and so is a field of unknown kind.

Digits and blanks are those of all scripts.
-/

namespace SearchDesk.Schema

/-- What is left after `n` digits, if the text begins with so many. -/
def afterDigits? : Nat → List Char → Option (List Char)
  | 0, s => some s
  | _ + 1, [] => none
  | n + 1, c :: s => if isDecimalDigit c then afterDigits? n s else none

/-- What is left after the given character, if the text begins with it. -/
def afterChar? (c : Char) : List Char → Option (List Char)
  | [] => none
  | d :: s => if d = c then some s else none

/-- What is left after a separator of date and time, which may be missing. -/
def skipSeparator : List Char → List Char
  | [] => []
  | c :: s => if c = 'T' ∨ isBlank c then s else c :: s

/-- What is left after a date and a time of day, if the text begins with them. -/
def afterDatetime? (s : List Char) : Option (List Char) :=
  afterDigits? 4 s >>= afterChar? '-' >>= afterDigits? 2 >>= afterChar? '-' >>= afterDigits? 2
    >>= fun s => afterDigits? 2 (skipSeparator s) >>= afterChar? ':' >>= afterDigits? 2

/-- Whether the text begins with a date and a time of day. -/
def startsWithDatetime (s : List Char) : Bool := (afterDatetime? s).isSome

/-- A letter that may open a tag: an ASCII letter, or one of the four characters that are
the same as an ASCII letter when case is ignored. -/
def isTagLetter (c : Char) : Bool :=
  c.isAlpha || c.toNat = 0x130 || c.toNat = 0x131 || c.toNat = 0x17F || c.toNat = 0x212A

/-- Whether the text holds a tag: `<`, a letter right after it and a `>` behind. -/
def hasTag : List Char → Bool
  | [] => false
  | [_] => false
  | a :: b :: s => (a = '<' && isTagLetter b && s.contains '>') || hasTag (b :: s)

/-- The storage type of a text. -/
def ofText (s : String) : StorageType :=
  if startsWithDatetime s.toList then .datetime
  else if hasTag s.toList then .html
  else .text

/-- The storage types for a field of a kind with an example value, the best one first. -/
def suggest (kind : Kind) (value : Json) : List StorageType :=
  match kind with
  | .number => [.numeric]
  | .array => [.keyword]
  | .boolean => []
  | .object => []
  | .string =>
    match value with
    | .str s => [ofText s]
    | _ => [.text]

/-- The storage types for a field whose kind is given by name; an unknown one is a string. -/
def suggestFor (kind : Json) (value : Json) : List StorageType :=
  suggest ((Kind.ofJson? kind).getD .string) value

end SearchDesk.Schema
