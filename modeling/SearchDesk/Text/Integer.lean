import SearchDesk.Text.Blank
import SearchDesk.Text.Digit

/-!
# Integers spelled out

How an integer may be spelled in a setting, an option or a configuration file: white space
around it, a sign, digits of its base, and single underscores between digits. The decimal
digits may be of any script. In the bases two, eight and sixteen the digits may follow the
mark of the base, a zero and a letter.

At most 4300 digits of base ten are read; how many there are is told before what follows
them is looked at.
-/

namespace SearchDesk

/-- The greatest number of digits of an integer that is read from text. -/
def digitLimit : Nat := 4300

/-- Why a text spells no integer. -/
inductive IntegerFault where
  | unreadable
  | tooManyDigits (count : Nat)
deriving DecidableEq, Repr

/-- The value of a digit of a base: a decimal digit of any script or an ASCII letter. -/
def digitIn? (base : Nat) (c : Char) : Option Nat :=
  match digitValue? c with
  | some d => if d < base then some d else none
  | none =>
    match hexValue? c with
    | some d => if d < base then some d else none
    | none => none

/-- The values of a row of digits with single underscores between them. -/
def spelledDigits? (base : Nat) : List Char → Option (List Nat)
  | [] => none
  | [c] => (digitIn? base c).map ([·])
  | c :: '_' :: rest => do return (← digitIn? base c) :: (← spelledDigits? base rest)
  | c :: rest => do return (← digitIn? base c) :: (← spelledDigits? base rest)

/-- The number with the given digits of a base. -/
def ofDigits (base : Nat) (ds : List Nat) : Nat := ds.foldl (fun n d => base * n + d) 0

/-- The number with the given decimal digits. -/
def ofDecimalDigits (ds : List Nat) : Nat := ofDigits 10 ds

/-- The number spelled by digits and underscores. -/
def spelledNatural (base : Nat) (s : List Char) : Except IntegerFault Nat :=
  let row := s.takeWhile fun c => c = '_' || (digitIn? base c).isSome
  match spelledDigits? base row with
  | none => .error .unreadable
  | some ds =>
    if base = 10 ∧ digitLimit < ds.length then .error (.tooManyDigits ds.length)
    else if row.length = s.length then .ok (ofDigits base ds)
    else .error .unreadable

/-- The letter in the mark of a base. -/
def baseLetter? : Nat → Option Char
  | 2 => some 'b'
  | 8 => some 'o'
  | 16 => some 'x'
  | _ => none

/-- The digits after the mark of the base, if it stands there; an underscore may follow it. -/
def withoutMark (base : Nat) (s : List Char) : List Char :=
  match s with
  | zero :: letter :: rest =>
    if digitValue? zero = some 0 ∧ baseLetter? base = some letter.toLower then
      match rest with
      | '_' :: rest => rest
      | rest => rest
    else s
  | s => s

/-- The integer that a row of characters spells in a base. -/
def spelledIn (base : Nat) (s : List Char) : Except IntegerFault Int :=
  match trimBoth isWhiteSpace s with
  | '-' :: rest => (spelledNatural base (withoutMark base rest)).map fun n => -(n : Int)
  | '+' :: rest => (spelledNatural base (withoutMark base rest)).map Int.ofNat
  | rest => (spelledNatural base (withoutMark base rest)).map Int.ofNat

/-- The integer that a text spells. -/
def spelledInteger? (s : String) : Option Int := (spelledIn 10 s.toList).toOption

end SearchDesk
