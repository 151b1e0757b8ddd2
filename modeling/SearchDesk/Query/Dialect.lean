import SearchDesk.Query.Canonical

/-!
# Which dialect a query uses

`usesSimplified` looks for a simplified key in an object and in everything below it that
is an object, or an object in a list. Agents mostly answer in the simplified dialect, but
not always: `normalizeNoted` makes a query canonical only if it has to.
-/

namespace SearchDesk.Query

/-- Whether an object carries a simplified key itself. -/
def hasSimplifiedKey (ms : Members) : Bool := Key.simplified.any fun k => ms.has k

mutual

/-- Whether an object, or an object below it, carries a simplified key. -/
def usesSimplified : Json → Bool
  | .obj ms => hasSimplifiedKey ms || someMemberUses ms
  | _ => false

/-- Whether the value of a member uses the simplified dialect: an object that does, or a
list with an object that does. -/
def someMemberUses : List (String × Json) → Bool
  | [] => false
  | (_, .arr items) :: rest => someItemUses items || someMemberUses rest
  | (_, v) :: rest => usesSimplified v || someMemberUses rest

/-- Whether an item of a list uses the simplified dialect. -/
def someItemUses : List Json → Bool
  | [] => false
  | v :: rest => usesSimplified v || someItemUses rest

end

/-- Whether a query is made canonical when it is normalized: all but objects without a
simplified key are. -/
def needsCanonicalizing : Json → Bool
  | .obj ms => usesSimplified (.obj ms)
  | _ => true

/-- The query in the canonical dialect, changed only if it has to be, with the notices. -/
def normalizeNoted (ceiling : Int) (node : Json) : Noted Json :=
  if needsCanonicalizing node then canonicalizeNoted 0 ceiling node else ⟨node, []⟩

/-- The query in the canonical dialect, changed only if it has to be. -/
def normalize (ceiling : Int) (node : Json) : Json := (normalizeNoted ceiling node).value

end SearchDesk.Query
