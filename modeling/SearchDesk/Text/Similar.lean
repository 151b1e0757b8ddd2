/-!
# Close matches

Which known words are close to a mistyped one. Two words are compared by their matching
blocks: the longest common block, then the longest ones to its left and right, and so
on. They are close if the blocks make up at least three fifths of both words together.
-/

namespace SearchDesk.Similar

/-- The length of the common beginning of two words. -/
def commonStart : List Char → List Char → Nat
  | a :: s, b :: t => if a = b then commonStart s t + 1 else 0
  | _, _ => 0

/-- A common block: where it begins in both words, and its length. -/
structure Block where
  left : Nat
  right : Nat
  length : Nat
deriving DecidableEq, Repr

/-- The longest common block of two words; of several the leftmost. -/
def longestBlock (s t : List Char) : Block :=
  (List.range s.length).foldl (fun best i =>
    (List.range t.length).foldl (fun best j =>
      let n := commonStart (s.drop i) (t.drop j)
      if best.length < n then ⟨i, j, n⟩ else best) best) ⟨0, 0, 0⟩

/-- The number of characters in matching blocks, found within `n` splits in depth. -/
def matchedWithin : Nat → List Char → List Char → Nat
  | 0, _, _ => 0
  | n + 1, s, t =>
    let b := longestBlock s t
    if b.length = 0 then 0
    else matchedWithin n (s.take b.left) (t.take b.right) + b.length
      + matchedWithin n (s.drop (b.left + b.length)) (t.drop (b.right + b.length))

/-- The number of characters in the matching blocks of two words. -/
def matched (s t : List Char) : Nat := matchedWithin (s.length + 1) s t

/-- Whether the matching blocks make up three fifths of both words. -/
def isClose (s t : List Char) : Bool :=
  3 * (s.length + t.length) ≤ 10 * matched s t

/-- The known words that are close to a word, in the order of their text. -/
def closeMatches (word : String) (known : List String) : List String :=
  (known.filter fun k => isClose k.toList word.toList).mergeSort fun a b => a ≤ b

end SearchDesk.Similar
