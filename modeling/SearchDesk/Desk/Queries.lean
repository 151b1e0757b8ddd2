import SearchDesk.Desk.Configuration
import SearchDesk.Query.Dialect

/-!
# Canonical queries at the desk

The ceiling is the one of the settings, unless another one is given, and every loss is
reported. A query that need not be made canonical is left alone, and the settings are not
looked at.
-/

namespace SearchDesk.Work

open Query

/-- The ceiling in force. -/
def ceilingOr : Option Int → Work Int
  | some n => pure n
  | none => do return (← settings).maxDepth

/-- The value, with its notices reported. -/
def reportNoted (r : Noted Json) : Work Json := do
  r.notices.forM fun n => report .queries .debug n.message
  return r.value

/-- The canonical form of a tree whose root stands at the given depth. -/
def canonicalize (depth : Int) (ceiling : Option Int) (node : Json) : Work Json := do
  reportNoted (canonicalizeNoted depth (← ceilingOr ceiling) node)

/-- The query in the canonical dialect, changed only if it has to be. -/
def normalize (ceiling : Option Int) (node : Json) : Work Json :=
  if needsCanonicalizing node then canonicalize 0 ceiling node else pure node

end SearchDesk.Work
