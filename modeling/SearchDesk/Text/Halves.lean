/-!
# Characters given in halves

A character above U+FFFF may be written as two code points, a leading and a trailing half.
`joinHalves` reads a row of code points in which such pairs stand for one character. A half that
stands alone is no character (`wholeCharacter?`), and in such a row it is read as the replacement
character.
-/

namespace SearchDesk

/-- Whether a code point is a leading half. -/
def isLeadingHalf (code : Nat) : Bool := 0xD800 ≤ code && code < 0xDC00

/-- Whether a code point is a trailing half. -/
def isTrailingHalf (code : Nat) : Bool := 0xDC00 ≤ code && code < 0xE000

/-- The character of a code point, unless it is a half. -/
def wholeCharacter? (code : Nat) : Option Char :=
  if isLeadingHalf code || isTrailingHalf code then none else some (Char.ofNat code)

/-- The character of a code point; a half gives the replacement character. -/
def wholeCharacter (code : Nat) : Char := (wholeCharacter? code).getD (Char.ofNat 0xFFFD)

/-- The character of a leading and a trailing half. -/
def joined (leading trailing : Nat) : Char :=
  Char.ofNat (0x10000 + (leading - 0xD800) * 0x400 + (trailing - 0xDC00))

/-- The characters of a row of code points. -/
def joinHalves : List Nat → List Char
  | [] => []
  | [a] => [wholeCharacter a]
  | a :: b :: rest =>
    if isLeadingHalf a && isTrailingHalf b then joined a b :: joinHalves rest
    else wholeCharacter a :: joinHalves (b :: rest)

end SearchDesk
