import SearchDesk.Files.Path
import SearchDesk.Text.Lines
import SearchDesk.Text.Quoted
import SearchDesk.Text.Utf8

/-!
# A directory of files

`Directory` holds the files and folders below a working directory, and answers what a
command asks of it: whether a path exists, what a file contains, and whether a folder can
be made or a file be written. What cannot be done is a `FileFault` with the path that it
is about.

A file holds a text, or bytes that are no text. Permissions, links and times are not
covered.

A path is followed step by step. What lies below the place that has been reached is a
`Directory` of its own, `Directory.within`, in which the next step is looked up.
-/

namespace SearchDesk.Files

/-- The contents of a file. -/
inductive Content where
  | text (value : String)
  | bytes (value : List UInt8)
deriving DecidableEq, Repr, Inhabited

/-- The contents with the given bytes. -/
def Content.ofBytes (bs : List UInt8) : Content :=
  match decodeUtf8 bs with
  | .ok s => .text s
  | .error _ => .bytes bs

/-- Why something cannot be done with a path. -/
inductive FileCause where
  | missing
  | exists
  | notDirectory
  | isDirectory
  | tooLong
  | nullCharacter
deriving DecidableEq, Repr

/-- The number of a cause; a text that is no path at all has none. -/
def FileCause.number? : FileCause → Option Nat
  | .missing => some 2
  | .exists => some 17
  | .notDirectory => some 20
  | .isDirectory => some 21
  | .tooLong => some 36
  | .nullCharacter => none

/-- The words for a cause. -/
def FileCause.words : FileCause → String
  | .missing => "No such file or directory"
  | .exists => "File exists"
  | .notDirectory => "Not a directory"
  | .isDirectory => "Is a directory"
  | .tooLong => "File name too long"
  | .nullCharacter => "embedded null byte"

/-- What cannot be done, and with which path. -/
structure FileFault where
  cause : FileCause
  path : String
deriving DecidableEq, Repr

/-- The message of a fault. A cause without a number is told without the path. -/
def FileFault.message (f : FileFault) : String :=
  match f.cause.number? with
  | some n => "[Errno " ++ Nat.repr n ++ "] " ++ f.cause.words ++ ": " ++ quoted f.path
  | none => f.cause.words

/-- The place of a file or a folder: the names that lead to it. -/
abbrev Place := List String

/-- The files and folders below a working directory. -/
structure Directory where
  files : List (Place × Content) := []
  folders : List Place := []
deriving DecidableEq, Repr, Inhabited

namespace Directory

/-- The contents of the file at a place. -/
def file? (d : Directory) (place : Place) : Option Content :=
  (d.files.find? fun f => f.1 = place).map (·.2)

/-- Whether a folder is at a place. The working directory, those above it and the root are
folders. -/
def isFolder (d : Directory) (place : Place) : Bool :=
  place.all (· = Path.upStep) || place = [Path.rootStep] || d.folders.contains place

/-- Whether anything is at a place. -/
def holds (d : Directory) (place : Place) : Bool := d.isFolder place || (d.file? place).isSome

/-- The part of a place below a folder with a name. -/
def below? (name : String) : Place → Option Place
  | step :: rest => if step = name && !rest.isEmpty then some rest else none
  | [] => none

/-- The files and folders as they are seen from the folder with a name. -/
def within (d : Directory) (name : String) : Directory where
  files := d.files.filterMap fun f => (below? name f.1).map fun place => (place, f.2)
  folders := d.folders.filterMap (below? name)

/-- The files and folders as they are seen from a place. -/
def seenFrom (d : Directory) (place : Place) : Directory := place.foldl within d

/-- The place to which a step to the root or to a place above leads. -/
def jump (place : Place) (step : String) : Place :=
  if Path.isRoot step then [Path.rootStep] else Path.onward place step

/-- The place that steps lead to from a place; all but the last one have to lead to
folders. `here` is what is seen from the place. -/
def walk (d : Directory) (place : Place) (here : Directory) : List String → Except FileCause Place
  | [] => .ok place
  | step :: rest =>
    if Path.isJump step then
      let next := jump place step
      walk d next (d.seenFrom next) rest
    else if Path.isLongStep step then .error .tooLong
    else if rest.isEmpty then .ok (place ++ [step])
    else if here.folders.contains [step] then
      walk d (place ++ [step]) (here.within step) rest
    else if (here.file? [step]).isSome then .error .notDirectory
    else .error .missing

/-- The place that a path leads to. -/
def locate (d : Directory) (p : Path) : Except FileCause Place :=
  if Path.hasNull p.text then .error .nullCharacter
  else if Path.textLimit ≤ p.text.utf8ByteSize then .error .tooLong
  else d.walk [] d p.steps

/-- Whether a path leads to a file or a folder. -/
def reaches (d : Directory) (p : Path) : Bool :=
  match d.locate p with
  | .ok place => d.holds place
  | .error _ => false

/-- Whether anything is there under a path. A text that is no path leads to nothing, but a
path that is too long cannot be looked up. -/
def probe (d : Directory) (p : Path) : Except FileFault Bool :=
  match d.locate p with
  | .ok place => .ok (d.holds place)
  | .error .tooLong => .error ⟨.tooLong, p.text⟩
  | .error _ => .ok false

/-- Whether a path leads to a folder. -/
def reachesFolder (d : Directory) (p : Path) : Bool :=
  match d.locate p with
  | .ok place => d.isFolder place
  | .error _ => false

/-- The contents of the file that a path leads to. -/
def read (d : Directory) (p : Path) : Except FileFault Content :=
  match d.locate p with
  | .error cause => .error ⟨cause, p.text⟩
  | .ok place =>
    if d.isFolder place then .error ⟨.isDirectory, p.text⟩
    else
      match d.file? place with
      | some c => .ok c
      | none => .error ⟨.missing, p.text⟩

/-- Put a file at a place, instead of the one that is there. -/
def put (place : Place) (c : Content) : List (Place × Content) → List (Place × Content)
  | [] => [(place, c)]
  | f :: rest => if f.1 = place then (place, c) :: rest else f :: put place c rest

/-- The place that a path leads to, if a file may be written there. -/
def writable (d : Directory) (p : Path) : Except FileFault Place :=
  match d.locate p with
  | .error cause => .error ⟨cause, p.text⟩
  | .ok place => if d.isFolder place then .error ⟨.isDirectory, p.text⟩ else .ok place

/-- Write a text to the file that a path leads to. -/
def write (d : Directory) (p : Path) (text : String) : Except FileFault Directory := do
  let place ← d.writable p
  return { d with files := put place (.text text) d.files }

/-- A text after the contents of a file. -/
def Content.append (c : Content) (text : String) : Content :=
  match c with
  | .text s => .text (s ++ text)
  | .bytes bs => .bytes (bs ++ text.toUTF8.toList)

/-- Append a text to the file at a place, which is made if it is not there. -/
def appendAt (d : Directory) (place : Place) (text : String) : Directory :=
  { d with files := put place (Content.append ((d.file? place).getD (.text "")) text) d.files }

/-- Make the folder that a path leads to. -/
def makeFolder (d : Directory) (p : Path) : Except FileCause Directory :=
  match d.locate p with
  | .error cause => .error cause
  | .ok place =>
    if d.holds place then .error .exists else .ok { d with folders := d.folders ++ [place] }

/-- Make the folders that steps lead to from a place, one after the other, up to the first
that cannot be made; those that are there already are passed through. `here` is what is
seen from the place, and `done` are the steps that led to it. -/
def makeAlong (d : Directory) (place : Place) (here : Directory) (done : List String) :
    List String → Option FileFault × Directory
  | [] => (none, d)
  | step :: rest =>
    let done := done ++ [step]
    let next := place ++ [step]
    if Path.isJump step then
      let above := jump place step
      makeAlong d above (d.seenFrom above) done rest
    else if Path.isLongStep step then (some ⟨.tooLong, (Path.mk done).text⟩, d)
    else if here.folders.contains [step] then makeAlong d next (here.within step) done rest
    else if (here.file? [step]).isSome then (some ⟨.exists, (Path.mk done).text⟩, d)
    else makeAlong { d with folders := d.folders ++ [next] } next {} done rest

/-- Make the folder that a path leads to, and the folders on the way if one of them is
missing; a folder that is there already is no fault. What was made before a fault stays. -/
def makeFolders (d : Directory) (p : Path) : Option FileFault × Directory :=
  match d.makeFolder p with
  | .ok d => (none, d)
  | .error .missing => d.makeAlong [] d [] p.steps
  | .error cause => if d.reachesFolder p then (none, d) else (some ⟨cause, p.text⟩, d)

/-- Make the folders on the way to a path. -/
def makeParents (d : Directory) (p : Path) : Option FileFault × Directory :=
  d.makeFolders p.parent

/-- The name of a place below the working directory. -/
def placeName (place : Place) : String := (Path.mk place).text

/-- Files by name, in the order of the steps that lead to them. -/
def named (files : List (Place × Content)) : List (String × Content) :=
  (files.mergeSort fun a b => Path.inOrder a.1 b.1).map fun f => (placeName f.1, f.2)

/-- The files of the directory by name. -/
def listing (d : Directory) : List (String × Content) := named d.files

/-- The files that are new or changed since an earlier state of the directory, by name. -/
def changedSince (before after : Directory) : List (String × Content) :=
  named (after.files.filter fun f => before.file? f.1 ≠ some f.2)

/-- Put a file into the directory, with the folders on the way. -/
def add (d : Directory) (name : String) (c : Content) : Directory :=
  let place := (Path.ofText name).collapse.steps
  let way := (List.range place.length).map fun n => place.take n
  let new := way.filter fun f => !d.isFolder f
  { files := put place c d.files, folders := d.folders ++ new }

end Directory

/-- Why a file cannot be read as text. -/
inductive TextFault where
  | file (fault : FileFault)
  | undecodable (fault : Utf8Fault)
deriving DecidableEq, Repr

/-- The message of a fault. -/
def TextFault.message : TextFault → String
  | .file f => f.message
  | .undecodable f => f.message

/-- The text of the file that a path leads to, with every line end as one line feed. -/
def Directory.readText (d : Directory) (p : Path) : Except TextFault String :=
  match d.read p with
  | .error f => .error (.file f)
  | .ok (.text s) => .ok (normalizeLineEnds s)
  | .ok (.bytes bs) =>
    match decodeUtf8 bs with
    | .error f => .error (.undecodable f)
    | .ok s => .ok (normalizeLineEnds s)

end SearchDesk.Files
