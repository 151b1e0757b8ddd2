import SearchDesk.Schema.Listing

/-!
# What is shown to a reader

Notes and listings are shown on a screen, which lays them out and may read markup in their texts.
Text with bad markup cannot be shown. How a screen does this is left open: a `Screen` is anything
that makes a text of each line and of each listing, or finds a fault.

Markup that closes a part starts with an opening bracket and a slash; only a text in which these
two stand next to each other can have bad markup (`Unmarked`, `Screen.ShowsUnmarked`).
-/

namespace SearchDesk.Cli

/-- What is wrong with the markup of a text. -/
structure MarkupFault where
  message : String
deriving DecidableEq, Repr

/-- A way to show lines of text and listings. -/
structure Screen where
  line : String → Except MarkupFault String
  listing : Schema.Listing → Except MarkupFault String

/-- No markup in the text closes a part. -/
def Unmarked (s : String) : Prop := ¬['[', '/'] <:+: s.toList

instance (s : String) : Decidable (Unmarked s) := inferInstanceAs (Decidable (¬_))

/-- The texts of a listing. -/
def cells (l : Schema.Listing) : List String := l.title :: (l.columns ++ l.rows.flatten)

namespace Screen

/-- The screen that shows every text as it is, and a listing as data on one line. -/
def plain : Screen where
  line text := .ok text
  listing l := .ok l.line

/-- The screen shows what closes no markup. -/
structure ShowsUnmarked (screen : Screen) : Prop where
  line : ∀ text, Unmarked text → ∃ shown, screen.line text = .ok shown
  listing : ∀ l, (∀ text ∈ cells l, Unmarked text) → ∃ shown, screen.listing l = .ok shown

end Screen

end SearchDesk.Cli
