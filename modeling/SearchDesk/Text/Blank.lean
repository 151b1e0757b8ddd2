import SearchDesk.Text.CodePoints

/-!
# Blank characters

Two sets of blanks, and trimming by either of them:

* `isWhiteSpace`: the characters with the Unicode property White_Space;
* `isBlank`: those and the four information separators.
-/

namespace SearchDesk

/-- White space and the information separators U+001C to U+001F. -/
def blanks : CodePoints :=
  [(0x9, 0xD), (0x1C, 0x20), (0x85, 0x85), (0xA0, 0xA0), (0x1680, 0x1680), (0x2000, 0x200A),
   (0x2028, 0x2029), (0x202F, 0x202F), (0x205F, 0x205F), (0x3000, 0x3000)]

/-- Whether the character is white space or an information separator. -/
def isBlank (c : Char) : Bool := blanks.has c

/-- Whether the character has the Unicode property White_Space. -/
def isWhiteSpace (c : Char) : Bool := isBlank c && !(28 ≤ c.toNat && c.toNat ≤ 31)

/-- The text without the characters of a class at both ends. -/
def trimBoth (p : Char → Bool) (s : List Char) : List Char :=
  ((s.dropWhile p).reverse.dropWhile p).reverse

end SearchDesk
