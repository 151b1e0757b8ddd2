/-!
# A place in a configuration text

A `Cursor` holds the characters that are left and their number, with the line and the
column of the first of them. Five characters end a line: line feed, carriage return, next line, line
separator and paragraph separator; a carriage return and a line feed in a row are one end.
-/

namespace SearchDesk.Yaml

/-- Whether the character ends a line. -/
def isBreak (c : Char) : Bool :=
  c = '\n' || c = '\r' || c.toNat = 0x85 || c.toNat = 0x2028 || c.toNat = 0x2029

/-- Whether the text or the line ends here. -/
def endsLine : Option Char → Bool
  | none => true
  | some c => isBreak c

/-- Whether the text or the line ends here, or a space stands here. -/
def endsWord : Option Char → Bool
  | some ' ' => true
  | c => endsLine c

/-- Whether the text or the line ends here, or a space or a tab stands here. -/
def isGap : Option Char → Bool
  | some '\t' => true
  | c => endsWord c

/-- A place in a text. -/
structure Cursor where
  rest : List Char
  /-- The number of the characters that are left. -/
  left : Nat
  line : Nat := 0
  column : Nat := 0
  index : Nat := 0
deriving Inhabited

namespace Cursor

/-- The start of a text. -/
def start (cs : List Char) : Cursor := { rest := cs, left := cs.length }

/-- The character that stands `n` places ahead. -/
def peek (c : Cursor) (n : Nat) : Option Char := c.rest[n]?

/-- The place after one character. -/
def next (c : Cursor) : Cursor :=
  match c.rest with
  | [] => c
  | ch :: rest =>
    let ends := isBreak ch && !(ch = '\r' && rest.head? = some '\n')
    { rest := rest
      left := c.left - 1
      line := if ends then c.line + 1 else c.line
      column := if ends then 0 else if ch.toNat = 0xFEFF then c.column else c.column + 1
      index := c.index + 1 }

/-- The place after `n` characters. -/
def skip : Nat → Cursor → Cursor
  | 0, c => c
  | n + 1, c => skip n c.next

/-- The characters of a class that stand here, and the place after them. -/
def span (p : Char → Bool) (c : Cursor) : List Char × Cursor :=
  let found := c.rest.takeWhile p
  (found, c.skip found.length)

/-- The place after the characters of a class. -/
def skipWhile (p : Char → Bool) (c : Cursor) : Cursor := (c.span p).2

/-- The place after the spaces that stand here. -/
def skipSpaces (c : Cursor) : Cursor := c.skipWhile (· = ' ')

/-- The place after the rest of the line. -/
def skipLine (c : Cursor) : Cursor := c.skipWhile fun ch => !isBreak ch

/-- The end of a line that stands here, as the character that it is read as, and the place
after it. -/
def lineBreak? (c : Cursor) : Option (Char × Cursor) :=
  match c.rest with
  | '\r' :: '\n' :: _ => some ('\n', c.skip 2)
  | ch :: _ =>
    if isBreak ch then
      some (if ch.toNat = 0x2028 || ch.toNat = 0x2029 then ch else '\n', c.next)
    else none
  | [] => none

/-- The place after the spaces that stand here, as long as the column is below a bound. -/
def skipIndentation : Nat → Cursor → Cursor
  | 0, c => c
  | n + 1, c => if c.peek 0 = some ' ' then skipIndentation n c.next else c

/-- Whether a line of three given characters stands here as a separator of documents. -/
def isSeparator (c : Cursor) : Bool :=
  (c.rest.take 3 = ['-', '-', '-'] || c.rest.take 3 = ['.', '.', '.']) && isGap (c.peek 3)

end Cursor

end SearchDesk.Yaml
