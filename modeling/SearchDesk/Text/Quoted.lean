import SearchDesk.Text.Digit
import SearchDesk.Text.Printable

/-!
# Quoted text

Messages show a text between single quotes, or between double quotes if it has a single
quote and no double one. A backslash and the enclosing quote get a backslash, line feed,
carriage return and tab are written `\n`, `\r`, `\t`, and every other character that is
not printable as `\x`, `\u` or `\U` with two, four or eight hexadecimal digits.
-/

namespace SearchDesk

/-- The quote that encloses a text. -/
def enclosingQuote (s : List Char) : Char :=
  if s.contains '\'' && !s.contains '"' then '"' else '\''

/-- The written form of one character inside the given quotes. -/
def quoteChar (quote c : Char) : List Char :=
  if c = quote ∨ c = '\\' then ['\\', c]
  else if c = '\n' then ['\\', 'n']
  else if c = '\r' then ['\\', 'r']
  else if c = '\t' then ['\\', 't']
  else if isPrintable c then [c]
  else if c.toNat < 0x100 then '\\' :: 'x' :: hexDigits 2 c.toNat
  else if c.toNat < 0x10000 then '\\' :: 'u' :: hexDigits 4 c.toNat
  else '\\' :: 'U' :: hexDigits 8 c.toNat

/-- The text between quotes. -/
def quoted (s : String) : String :=
  let quote := enclosingQuote s.toList
  String.ofList (quote :: s.toList.flatMap (quoteChar quote) ++ [quote])

end SearchDesk
