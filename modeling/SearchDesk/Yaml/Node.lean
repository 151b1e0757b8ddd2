import SearchDesk.Yaml.Tag
import SearchDesk.Yaml.Token

/-!
# The nodes of a configuration text

`Graph.ofText` reads the single document of a YAML text as nodes that are scalars,
sequences and mappings. A collection names its parts by their numbers, so that a node can
have several places: an alias stands for the node that its anchor marks, and that may be a
collection around it. An anchor may be set only once, and an alias needs an anchor before
it.

Every node has a tag, by its name or by its spelling. Where a value is left out, an empty
plain scalar stands in its place.
-/

namespace SearchDesk.Yaml

/-- What a node consists of. -/
inductive Body where
  | scalar (text : String)
  | seq (items : List Nat)
  | map (pairs : List (Nat × Nat))
deriving DecidableEq, Repr, Inhabited

/-- A node of a document. -/
structure Node where
  tag : Tag
  body : Body
deriving DecidableEq, Repr, Inhabited

/-- The place of a value that is left out. -/
def Node.absent : Node := ⟨.null, .scalar ""⟩

/-- The nodes of a document by number. -/
abbrev Nodes := Array Node

namespace Nodes

/-- The node with a number. -/
def node (ns : Nodes) (id : Nat) : Node := ns[id]?.getD .absent

/-- Change what a node consists of. -/
def setBody (ns : Nodes) (id : Nat) (body : Body) : Nodes :=
  ns.modify id fun n => { n with body := body }

/-- Change the tag of a node. -/
def setTag (ns : Nodes) (id : Nat) (tag : Tag) : Nodes :=
  ns.modify id fun n => { n with tag := tag }

end Nodes

/-- A document: its nodes, and the number of the outermost one. -/
structure Graph where
  nodes : Nodes
  root : Nat
deriving DecidableEq, Repr, Inhabited

/-- The state of reading nodes. -/
structure Parse where
  tokens : List Token
  /-- The fault that comes after the last token. -/
  fault : Option Fault := none
  anchors : List (String × Nat) := []
  /-- The shorthands for the beginnings of tags. -/
  handles : List (String × String) := [("!", "!"), ("!!", commonStart)]
  nodes : Nodes := #[]

/-- A step of reading nodes, which may find a fault. -/
abbrev ParseM := StateT Parse (Except Fault)

namespace Parse

/-- The text is malformed. -/
def refuse {α : Type} : ParseM α := throw .malformed

/-- The next token, nothing at the end of the text. -/
def peek : ParseM (Option Token) := do
  let s ← get
  match s.tokens, s.fault with
  | t :: _, _ => return some t
  | [], some f => throw f
  | [], none => return none

/-- Drop the next token. -/
def drop : ParseM Unit := modify fun s => { s with tokens := s.tokens.drop 1 }

/-- Drop the next token if it is the given one; tells whether it was. -/
def take (t : Token) : ParseM Bool := do
  if (← peek) = some t then
    drop
    return true
  return false

/-- Whether the next token is one of the given ones, or there is none. -/
def standsBefore (ts : List Token) : ParseM Bool := do
  match ← peek with
  | some t => return ts.contains t
  | none => return true

/-! ## Tags and anchors -/

/-- The properties of a node: its anchor and its tag, in any order. -/
def properties : ParseM (Option String × Option (Option String × String)) := do
  match ← peek with
  | some (.anchor a) =>
    drop
    match ← peek with
    | some (.tag h s) =>
      drop
      return (some a, some (h, s))
    | _ => return (some a, none)
  | some (.tag h s) =>
    drop
    match ← peek with
    | some (.anchor a) =>
      drop
      return (some a, some (h, s))
    | _ => return (none, some (h, s))
  | _ => return (none, none)

/-- The name of a tag with its shorthand written out. -/
def fullName : Option (Option String × String) → ParseM (Option String)
  | none => pure none
  | some (none, s) => pure (some s)
  | some (some h, s) => do
    match (← get).handles.lookup h with
    | some start => return some (start ++ s)
    | none => refuse

/-- The tag of a scalar. The name `!` asks for the tag by the spelling, as no name does for
a plain scalar. -/
def scalarTag (name : Option String) (isPlain : Bool) (text : String) : Tag :=
  match name with
  | none => if isPlain then .ofSpelling text else .str
  | some "!" => .ofSpelling text
  | some n => .ofName n

/-- The tag of a collection, if it does not name its own. -/
def collectionTag (name : Option String) (usual : Tag) : Tag :=
  match name with
  | none => usual
  | some "!" => usual
  | some n => .ofName n

/-- Fail if the anchor is set already. -/
def checkAnchor : Option String → ParseM Unit
  | none => pure ()
  | some a => do if ((← get).anchors.lookup a).isSome then refuse

/-- Add a node; gives its number. -/
def add (n : Node) : ParseM Nat := do
  let id := (← get).nodes.size
  modify fun s => { s with nodes := s.nodes.push n }
  return id

/-- Let the anchor mark the node. -/
def mark (anchor : Option String) (id : Nat) : ParseM Unit :=
  match anchor with
  | none => pure ()
  | some a => modify fun s => { s with anchors := (a, id) :: s.anchors }

/-- Add a scalar. -/
def scalar (anchor name : Option String) (isPlain : Bool) (text : String) : ParseM Nat := do
  checkAnchor anchor
  let id ← add ⟨scalarTag name isPlain text, .scalar text⟩
  mark anchor id
  return id

/-- Add a collection. Its anchor marks it before its parts are read. -/
def collection (anchor name : Option String) (usual : Tag) : ParseM Nat := do
  checkAnchor anchor
  let id ← add ⟨collectionTag name usual, .seq []⟩
  mark anchor id
  return id

/-- Give a collection its parts. -/
def fill (id : Nat) (body : Body) : ParseM Nat := do
  modify fun s => { s with nodes := s.nodes.setBody id body }
  return id

/-- Add the place of a value that is left out. -/
def absent : ParseM Nat := add Node.absent

/-! ## Nodes -/

/-- Where a node stands, which decides what may begin there. -/
inductive Place where
  | flow
  | block
  | blockOrBare
deriving DecidableEq

mutual

/-- A node. -/
def node : Nat → Place → ParseM Nat
  | 0, _ => refuse
  | n + 1, place => do
    match ← peek with
    | some (.alias a) =>
      drop
      match (← get).anchors.lookup a with
      | some found => return found
      | none => refuse
    | _ =>
      let (anchor, given) ← properties
      let name ← fullName given
      match ← peek with
      | some (.scalar text isPlain) =>
        drop
        scalar anchor name isPlain text
      | some .flowSequenceStart =>
        let id ← collection anchor name .seq
        drop
        fill id (.seq (← flowItems n true))
      | some .flowMappingStart =>
        let id ← collection anchor name .map
        drop
        fill id (.map (← flowPairs n true))
      | next =>
        if place = .blockOrBare && next = some .blockEntry then
          let id ← collection anchor name .seq
          fill id (.seq (← bareItems n))
        else if place ≠ .flow && next = some .blockSequenceStart then
          let id ← collection anchor name .seq
          drop
          fill id (.seq (← blockItems n))
        else if place ≠ .flow && next = some .blockMappingStart then
          let id ← collection anchor name .map
          drop
          fill id (.map (← blockPairs n))
        else if anchor.isSome || name.isSome then scalar anchor name true ""
        else refuse

/-- A node, or the place of one that is left out before the given tokens. -/
def nodeOrAbsent : Nat → Place → List Token → ParseM Nat
  | 0, _, _ => refuse
  | n + 1, place, follows => do
    if ← standsBefore follows then absent else node n place

/-- The value of a pair, if there is one: a value token and a node. -/
def pairValue : Nat → Place → List Token → ParseM Nat
  | 0, _, _ => refuse
  | n + 1, place, follows => do
    if ← take .value then nodeOrAbsent n place follows else absent

/-- The entries of a block sequence up to its end. -/
def blockItems : Nat → ParseM (List Nat)
  | 0 => refuse
  | n + 1 => do
    if ← take .blockEntry then
      let item ← nodeOrAbsent n .block [.blockEntry, .blockEnd]
      return item :: (← blockItems n)
    else if ← take .blockEnd then return []
    else refuse

/-- The entries of a sequence that stands at the column of its key. -/
def bareItems : Nat → ParseM (List Nat)
  | 0 => refuse
  | n + 1 => do
    if ← take .blockEntry then
      let item ← nodeOrAbsent n .block [.blockEntry, .key, .value, .blockEnd]
      return item :: (← bareItems n)
    else return []

/-- The pairs of a block mapping up to its end. -/
def blockPairs : Nat → ParseM (List (Nat × Nat))
  | 0 => refuse
  | n + 1 => do
    let follows := [Token.key, .value, .blockEnd]
    if ← take .blockEnd then return []
    else
      if !(← take .key) then refuse
      let key ← nodeOrAbsent n .blockOrBare follows
      let value ← pairValue n .blockOrBare follows
      return (key, value) :: (← blockPairs n)

/-- The entries of a flow sequence up to its end. A key among them makes a mapping with one
pair. -/
def flowItems : Nat → Bool → ParseM (List Nat)
  | 0, _ => refuse
  | n + 1, isFirst => do
    if ← take .flowSequenceEnd then return []
    else
      if !isFirst then
        if !(← take .flowEntry) then refuse
      if ← take .flowSequenceEnd then return []
      else if ← take .key then
        let id ← collection none none .map
        let key ← nodeOrAbsent n .flow [.value, .flowEntry, .flowSequenceEnd]
        let value ← pairValue n .flow [.flowEntry, .flowSequenceEnd]
        let item ← fill id (.map [(key, value)])
        return item :: (← flowItems n false)
      else
        let item ← node n .flow
        return item :: (← flowItems n false)

/-- The pairs of a flow mapping up to its end. -/
def flowPairs : Nat → Bool → ParseM (List (Nat × Nat))
  | 0, _ => refuse
  | n + 1, isFirst => do
    if ← take .flowMappingEnd then return []
    else
      if !isFirst then
        if !(← take .flowEntry) then refuse
      if ← take .flowMappingEnd then return []
      else if ← take .key then
        let key ← nodeOrAbsent n .flow [.value, .flowEntry, .flowMappingEnd]
        let value ← pairValue n .flow [.flowEntry, .flowMappingEnd]
        return (key, value) :: (← flowPairs n false)
      else
        let key ← node n .flow
        let value ← absent
        return (key, value) :: (← flowPairs n false)

end

/-! ## Documents -/

/-- Whether a token is a directive. -/
def isDirective : Token → Bool
  | .version _ | .tagShorthand .. | .otherDirective => true
  | _ => false

/-- The directives before a document; a version other than 1 and a repeated shorthand are
faults. The first argument bounds their number. -/
def directives : Nat → List String → Bool → ParseM Unit
  | 0, _, _ => pure ()
  | n + 1, seen, versioned => do
    match ← peek with
    | some (.version major) =>
      if versioned || major ≠ 1 then refuse
      drop
      directives n seen true
    | some (.tagShorthand handle start) =>
      if seen.contains handle then refuse
      drop
      modify fun s => { s with handles := (handle, start) :: s.handles }
      directives n (handle :: seen) versioned
    | some .otherDirective =>
      drop
      directives n seen versioned
    | _ => pure ()

/-- The directives and the start of a document. The argument bounds the number of
directives. -/
def documentStart (bound : Nat) : ParseM Unit := do
  directives bound [] false
  if !(← take .documentStart) then refuse

/-- Drop the ends of documents that stand here. -/
def dropEnds : ParseM Unit :=
  modify fun s => { s with tokens := s.tokens.dropWhile (· = .documentEnd) }

/-- Whether a document without content ends before a token. -/
def endsContent (t : Token) : Bool := isDirective t || t = .documentStart || t = .documentEnd

/-- The only document of a text; a text without any is empty. The argument bounds the
number of steps. -/
def document (bound : Nat) : ParseM (Option Nat) := do
  let found ← match ← peek with
    | none => pure none
    | some t =>
      if isDirective t || t = .documentStart then
        documentStart bound
        match ← peek with
        | none => some <$> absent
        | some t => if endsContent t then some <$> absent else some <$> node bound .block
      else some <$> node bound .block
  dropEnds
  if (← peek).isSome then
    documentStart bound
    refuse
  return found

end Parse

/-- The nodes of the only document among tokens; nothing if there is no document. -/
def Graph.ofTokens (ts : Tokens) : Except Fault (Option Graph) := do
  let bound := 6 * ts.list.length + 6
  let (root, s) ← (Parse.document bound).run { tokens := ts.list, fault := ts.fault }
  return root.map fun r => ⟨s.nodes, r⟩

/-- The nodes of the only document of a text; nothing if there is no document. A character
that may not stand in a text is a fault of form, unless another fault comes before it. -/
def Graph.ofText (text : String) : Except Fault (Option Graph) :=
  let cs := text.toList
  let readable := readableBlocks cs
  let found := Graph.ofTokens (Tokens.ofText readable)
  if readable.length = cs.length then found
  else
    match found with
    | .error f => .error f
    | .ok _ => .error .malformed

end SearchDesk.Yaml
