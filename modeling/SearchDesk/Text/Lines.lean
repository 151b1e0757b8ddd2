/-!
# Line ends

A text file may end its lines with a line feed, a carriage return or both in a row;
read as text, all three are one line feed.
-/

namespace SearchDesk

/-- The characters with every line end as one line feed. -/
def joinLineEnds : List Char → List Char
  | [] => []
  | '\r' :: '\n' :: rest => '\n' :: joinLineEnds rest
  | '\r' :: rest => '\n' :: joinLineEnds rest
  | c :: rest => c :: joinLineEnds rest

/-- The text with every line end as one line feed. -/
def normalizeLineEnds (s : String) : String := String.ofList (joinLineEnds s.toList)

end SearchDesk
