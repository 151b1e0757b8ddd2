/-!
# Paths

A path is a list of steps. Empty steps and steps `.` are dropped when a path is read, and
a step `..` is kept: where it leads depends on the directory. A root step stands at the
start of an absolute path. It is written `/`, or `//` if the text begins with exactly two
slashes, and leads to the same root.

`Path.back` is where a step `..` leads from a place that is not left by links: above the
working directory there are further places, above the root there are none.
-/

namespace SearchDesk.Files

/-- A path. -/
structure Path where
  steps : List String
deriving DecidableEq, Repr, Inhabited

namespace Path

/-- The step to the root. -/
def rootStep : String := "/"

/-- The step to the root as it is written after exactly two slashes. -/
def doubleRootStep : String := "//"

/-- Whether a step leads to the root. -/
def isRoot (step : String) : Bool := step = rootStep || step = doubleRootStep

/-- The steps of a text between slashes. -/
def stepsOf (text : String) : List String :=
  ((text.toList.splitOn '/').map String.ofList).filter fun s => s ≠ "" && s ≠ "."

/-- The root step of a text. -/
def rootOf (text : String) : List String :=
  match (text.toList.takeWhile (· = '/')).length with
  | 0 => []
  | 2 => [doubleRootStep]
  | _ => [rootStep]

/-- The path that a text names. -/
def ofText (text : String) : Path := ⟨rootOf text ++ stepsOf text⟩

/-- The text of a path; the empty path is a point. -/
def text (p : Path) : String :=
  match p.steps with
  | [] => "."
  | s :: rest => if isRoot s then s ++ "/".intercalate rest else "/".intercalate (s :: rest)

/-- The path without its last step; the empty path and the root stay as they are. -/
def parent (p : Path) : Path :=
  match p.steps with
  | [] => p
  | [s] => if isRoot s then p else ⟨[]⟩
  | steps => ⟨steps.dropLast⟩

/-- A path after another one; an absolute path stands alone. -/
def append (p q : Path) : Path :=
  if (q.steps.head?.map isRoot).getD false then q else ⟨p.steps ++ q.steps⟩

/-- The step to the place above. -/
def upStep : String := ".."

/-- The steps with the last one taken back. -/
def back (steps : List String) : List String :=
  if steps.length = 1 && steps.all isRoot then steps
  else if steps.all (· = upStep) then steps ++ [upStep]
  else steps.dropLast

/-- Whether a step leads to a place that is always there: the root or a place above. -/
def isJump (step : String) : Bool := step = upStep || isRoot step

/-- The steps with one more, where `..` takes a step back and a root step begins anew. -/
def onward (steps : List String) (step : String) : List String :=
  if step = upStep then back steps
  else if isRoot step then [step]
  else steps ++ [step]

/-- The path with each `..` taking the step before it back. -/
def collapse (p : Path) : Path := ⟨p.steps.foldl onward []⟩

/-- Whether steps come no later than others in a listing: step by step, and what is shorter
first. -/
def inOrder : List String → List String → Bool
  | [], _ => true
  | _ :: _, [] => false
  | a :: as, b :: bs => if a = b then inOrder as bs else a ≤ b

/-- The text of a path has to have fewer bytes than this. -/
def textLimit : Nat := 4096

/-- The greatest number of bytes of a step. -/
def stepLimit : Nat := 255

/-- Whether a step is too long to be the name of anything. -/
def isLongStep (step : String) : Bool := stepLimit < step.utf8ByteSize

/-- Whether a text has a null character in it, which no path has. -/
def hasNull (text : String) : Bool := text.toList.any fun c => c.toNat = 0

end Path

end SearchDesk.Files
