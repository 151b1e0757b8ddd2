import SearchDesk.Text.Halves
import SearchDesk.Text.Integer
import SearchDesk.Text.Utf8
import SearchDesk.Yaml.Cursor
import SearchDesk.Yaml.Fault

/-!
# The tokens of a configuration text

`Tokens.ofText` splits a YAML text into tokens up to its end or to the first fault. The
indentation of block collections becomes start and end tokens, so that what follows need
not look at columns.

A mapping key is recognised only when its colon is met. Until then the place where it may
have begun is remembered as a `CandidateKey`, one for each level of flow collections, and
the token for the key is put in there afterwards. A candidate is dropped when its line
ends or after 1024 characters; if it stands where a key has to stand, that is a fault. A
token that may turn out to be a key is not handed on before that is decided, and so it is
missing if a fault comes first.
-/

namespace SearchDesk.Yaml

/-- A token of a configuration text. -/
inductive Token where
  | version (major : Nat)
  | tagShorthand (handle start : String)
  | otherDirective
  | documentStart
  | documentEnd
  | blockSequenceStart
  | blockMappingStart
  | blockEnd
  | flowSequenceStart
  | flowSequenceEnd
  | flowMappingStart
  | flowMappingEnd
  | blockEntry
  | flowEntry
  | key
  | value
  | alias (name : String)
  | anchor (name : String)
  | tag (handle : Option String) (suffix : String)
  | scalar (text : String) (isPlain : Bool)
deriving DecidableEq, Repr, Inhabited

/-- A place where a mapping key may have begun. -/
structure CandidateKey where
  /-- The number of tokens before the key. -/
  position : Nat
  /-- Whether a key has to stand there. -/
  required : Bool
  line : Nat
  column : Nat
  index : Nat
deriving Inhabited

/-- The state of splitting a text. -/
structure Scan where
  cursor : Cursor
  /-- The tokens so far, the last one first. -/
  tokens : List Token := []
  /-- The number of the tokens so far. -/
  count : Nat := 0
  /-- How many flow collections are open. -/
  flow : Nat := 0
  /-- The column of the innermost block collection. -/
  indent : Int := -1
  /-- The columns of the block collections around it. -/
  indents : List Int := []
  /-- Whether a key may begin here. -/
  keyAllowed : Bool := true
  /-- The candidates, by level of flow collections. -/
  candidates : List (Nat × CandidateKey) := []
deriving Inhabited

/-- A step of splitting a text, which may find a fault. -/
abbrev ScanM := StateT Scan (Except Fault)

namespace Scan

/-- The text is malformed. -/
def refuse {α : Type} : ScanM α := throw .malformed

/-! ## Tokens, candidates and indentation -/

/-- Append a token. -/
def push (t : Token) (s : Scan) : Scan := { s with tokens := t :: s.tokens, count := s.count + 1 }

/-- Append a token. -/
def emit (t : Token) : ScanM Unit := modify (push t)

/-- Put tokens in at the place with a number of tokens before it. -/
def putIn (position : Nat) (ts : List Token) (s : Scan) : Scan :=
  let later := s.count - position
  { s with
    tokens := s.tokens.take later ++ ts.reverse ++ s.tokens.drop later
    count := s.count + ts.length }

/-- Move on by `n` characters. -/
def advance (n : Nat) : ScanM Unit := modify fun s => { s with cursor := s.cursor.skip n }

/-- Allow or forbid a key here. -/
def allowKey (b : Bool) : ScanM Unit := modify fun s => { s with keyAllowed := b }

/-- The candidate of the current level. -/
def candidate? (s : Scan) : Option CandidateKey :=
  (s.candidates.find? fun c => c.1 = s.flow).map (·.2)

/-- Forget the candidate of the current level; a required one is a fault. -/
def dropCandidate : ScanM Unit := do
  let s ← get
  match s.candidate? with
  | some k => if k.required then refuse
  | none => pure ()
  set { s with candidates := s.candidates.filter fun c => c.1 ≠ s.flow }

/-- Remember that a key may begin here. -/
def saveCandidate : ScanM Unit := do
  let s ← get
  if s.keyAllowed then
    dropCandidate
    let c := s.cursor
    let key : CandidateKey :=
      { position := s.count
        required := s.flow = 0 && s.indent = c.column
        line := c.line, column := c.column, index := c.index }
    modify fun s => { s with candidates := (s.flow, key) :: s.candidates }

/-- Whether a candidate is too far back. -/
def isStale (s : Scan) (k : CandidateKey) : Bool :=
  k.line ≠ s.cursor.line || 1024 < s.cursor.index - k.index

/-- Forget the candidates that are too far back. -/
def dropStale : ScanM Unit := do
  let s ← get
  if s.candidates.any fun c => s.isStale c.2 && c.2.required then refuse
  set { s with candidates := s.candidates.filter fun c => !s.isStale c.2 }

/-- The tokens that are handed on: those before the first candidate. -/
def settled (s : Scan) : List Token :=
  let pending := s.candidates.filter fun c => !s.isStale c.2
  let handedOn := (pending.map fun c => c.2.position).foldl min s.count
  (s.tokens.drop (s.count - handedOn)).reverse

/-- Close the block collections that are deeper than a column. -/
def closeBlocks (column : Int) : ScanM Unit := do
  let s ← get
  if s.flow = 0 then
    let closed := (s.indent :: s.indents).takeWhile (column < ·)
    let left := (s.indent :: s.indents).dropWhile (column < ·)
    let s := closed.foldl (fun s _ => s.push .blockEnd) s
    set { s with indent := left.headD (-1), indents := left.drop 1 }

/-- Open a block collection at a column, if it is deeper than the ones before; tells
whether it was. -/
def openBlock (column : Nat) : ScanM Bool := do
  let s ← get
  if s.indent < column then
    set { s with indent := (column : Int), indents := s.indent :: s.indents }
    return true
  return false

/-! ## Directives, anchors and tags -/

/-- Whether the character may stand in a name. -/
def isNameChar (c : Char) : Bool := c.isAlphanum || c = '-' || c = '_'

/-- A name that is not empty. -/
def name : ScanM String := do
  let s ← get
  let (found, c) := s.cursor.span isNameChar
  if found.isEmpty then refuse
  set { s with cursor := c }
  return String.ofList found

/-- Nothing but space and a comment up to the end of the line. -/
def restOfLine : ScanM Unit := do
  let s ← get
  let c := s.cursor.skipSpaces
  let c := if c.peek 0 = some '#' then c.skipLine else c
  match c.rest with
  | [] => set { s with cursor := c }
  | _ =>
    match c.lineBreak? with
    | some (_, c) => set { s with cursor := c }
    | none => refuse

/-- A row of digits that is neither empty nor too long. -/
def digits : ScanM Nat := do
  let s ← get
  let (found, c) := s.cursor.span Char.isDigit
  if found.isEmpty then refuse
  if digitLimit < found.length then throw (.tooManyDigits found.length)
  set { s with cursor := c }
  return ofDecimalDigits (found.map fun ch => ch.toNat - 48)

/-- A tag handle: `!`, `!!` or a name between two of them. -/
def tagHandle : ScanM String := do
  let s ← get
  if s.cursor.peek 0 ≠ some '!' then refuse
  if s.cursor.peek 1 = some ' ' then
    advance 1
    return "!"
  let (found, c) := s.cursor.next.span isNameChar
  if c.peek 0 ≠ some '!' then refuse
  set { s with cursor := c.next }
  return String.ofList ('!' :: found ++ ['!'])

/-- Whether the character may stand in a tag as it is. -/
def isTagChar (c : Char) : Bool := c.isAlphanum || "-;/?:@&=+$,_.!~*'()[]".toList.contains c

/-- The bytes that are escaped here, each by a percent sign and two hexadecimal digits, and
the place after them. -/
def escapedBytes : Nat → Cursor → Option (List UInt8 × Cursor)
  | 0, c => some ([], c)
  | n + 1, c =>
    match c.rest with
    | '%' :: a :: b :: _ => do
      let byte ← hexNumber? [a, b]
      let (bytes, c) ← escapedBytes n (c.skip 3)
      return (UInt8.ofNat byte :: bytes, c)
    | '%' :: _ => none
    | _ => some ([], c)

/-- The characters of a tag that stand here, and the place after them. Escaped bytes are
read as UTF-8. The first argument bounds the number of parts. -/
def tagText : Nat → Cursor → Option (List Char × Cursor)
  | 0, c => some ([], c)
  | n + 1, c =>
    let (found, c) := c.span isTagChar
    if c.peek 0 = some '%' then do
      let (bytes, c) ← escapedBytes c.left c
      let escaped ← (decodeUtf8 bytes).toOption
      let (rest, c) ← tagText n c
      return (found ++ escaped.toList ++ rest, c)
    else some (found, c)

/-- The part of a tag after its handle. -/
def tagSuffix : ScanM String := do
  let s ← get
  match tagText (s.cursor.left + 1) s.cursor with
  | none => refuse
  | some ([], _) => refuse
  | some (found, c) =>
    set { s with cursor := c }
    return String.ofList found

/-- Fail unless the word ends here. -/
def wordEnd : ScanM Unit := do
  if endsWord ((← get).cursor.peek 0) then pure () else refuse

/-- Skip the spaces that stand here. -/
def spaces : ScanM Unit := modify fun s => { s with cursor := s.cursor.skipSpaces }

/-- A directive. -/
def directive : ScanM Unit := do
  closeBlocks (-1)
  dropCandidate
  allowKey false
  advance 1
  let n ← name
  wordEnd
  if n = "YAML" then
    spaces
    let major ← digits
    if (← get).cursor.peek 0 ≠ some '.' then refuse
    advance 1
    let _ ← digits
    wordEnd
    restOfLine
    emit (.version major)
  else if n = "TAG" then
    spaces
    let handle ← tagHandle
    if (← get).cursor.peek 0 ≠ some ' ' then refuse
    spaces
    let start ← tagSuffix
    wordEnd
    restOfLine
    emit (.tagShorthand handle start)
  else
    modify fun s => { s with cursor := s.cursor.skipLine }
    restOfLine
    emit .otherDirective

/-- An anchor or an alias, after its sign. -/
def reference (make : String → Token) : ScanM Unit := do
  saveCandidate
  allowKey false
  advance 1
  let n ← name
  match (← get).cursor.peek 0 with
  | some c =>
    if isGap (some c) || "?:,]\x7d%@\x60".toList.contains c then pure () else refuse
  | none => pure ()
  emit (make n)

/-- Whether a second `!` stands in the word that begins here. -/
def hasSecondMark (c : Cursor) : Bool :=
  ((c.rest.drop 1).takeWhile fun ch => !endsWord (some ch)).contains '!'

/-- A tag. -/
def tag : ScanM Unit := do
  saveCandidate
  allowKey false
  let c := (← get).cursor
  match c.peek 1 with
  | some '<' =>
    advance 2
    let suffix ← tagSuffix
    if (← get).cursor.peek 0 ≠ some '>' then refuse
    advance 1
    wordEnd
    emit (.tag none suffix)
  | next =>
    if isGap next then
      advance 1
      wordEnd
      emit (.tag none "!")
    else if hasSecondMark c then
      let handle ← tagHandle
      let suffix ← tagSuffix
      wordEnd
      emit (.tag (some handle) suffix)
    else
      advance 1
      let suffix ← tagSuffix
      wordEnd
      emit (.tag (some "!") suffix)

/-! ## Scalars -/

/-- The line ends that stand here, with the indentation after each of them skipped up to
`indent` columns. The first argument bounds their number. -/
def breaks (indent : Nat) : Nat → Cursor → List Char × Cursor
  | 0, c => ([], c)
  | n + 1, c =>
    let c := c.skipIndentation (indent - c.column)
    match c.lineBreak? with
    | some (ch, c) =>
      let (rest, c) := breaks indent n c
      (ch :: rest, c)
    | none => ([], c)

/-- The line ends and spaces that stand here, with the greatest column that a space
reaches. -/
def leadingBreaks : Nat → Nat → Cursor → List Char × Nat × Cursor
  | 0, widest, c => ([], widest, c)
  | n + 1, widest, c =>
    if c.peek 0 = some ' ' then
      let c := c.next
      leadingBreaks n (max widest c.column) c
    else
      match c.lineBreak? with
      | some (ch, c) =>
        let (rest, widest, c) := leadingBreaks n widest c
        (ch :: rest, widest, c)
      | none => ([], widest, c)

/-- How the line ends after the text of a block scalar are kept. -/
inductive Chomping where
  | strip | clip | keep
deriving DecidableEq

/-- The header of a block scalar: chomping and the number of columns of indentation, in
any order. -/
def blockHeader : ScanM (Chomping × Option Nat) := do
  let sign : Option Char → Option Chomping
    | some '+' => some .keep
    | some '-' => some .strip
    | _ => none
  let width (ch : Option Char) : ScanM (Option Nat) :=
    match ch with
    | some ch =>
      if ch = '0' then refuse
      else if ch.isDigit then pure (some (ch.toNat - 48))
      else pure none
    | none => pure none
  let here := (← get).cursor.peek 0
  match sign here with
  | some chomping =>
    advance 1
    let w ← width ((← get).cursor.peek 0)
    if w.isSome then advance 1
    wordEnd
    return (chomping, w)
  | none =>
    let w ← width here
    if w.isSome then advance 1
    match sign ((← get).cursor.peek 0) with
    | some chomping =>
      if w.isSome then
        advance 1
        wordEnd
        return (chomping, w)
      else
        wordEnd
        return (.clip, w)
    | none =>
      wordEnd
      return (.clip, w)

/-- The lines of a block scalar, each of them with the line ends before it. `broken` is the
line end before the current line, and `before` are the empty lines after it. -/
def blockLines (isFolded : Bool) (indent : Nat) : Nat → List Char → Cursor →
    List Char × Option Char × List Char × Cursor
  | 0, before, c => ([], none, before, c)
  | n + 1, before, c =>
    if c.column = indent && !c.rest.isEmpty then
      let isText (ch : Option Char) : Bool := ch ≠ some ' ' && ch ≠ some '\t'
      let startsWithText := isText (c.peek 0)
      let (line, c) := c.span fun ch => !isBreak ch
      match c.lineBreak? with
      | none => (before ++ line, none, [], c)
      | some (broken, c) =>
        let (after, c) := breaks indent c.left c
        if c.column = indent && !c.rest.isEmpty then
          let joint :=
            if isFolded && broken = '\n' && startsWithText && isText (c.peek 0) then
              if after.isEmpty then [' '] else []
            else [broken]
          let (rest, last, tail, c) := blockLines isFolded indent n after c
          (before ++ line ++ joint ++ rest, last, tail, c)
        else (before ++ line, some broken, after, c)
    else ([], none, before, c)

/-- A block scalar. -/
def blockScalar (isFolded : Bool) : ScanM Unit := do
  allowKey true
  dropCandidate
  advance 1
  let (chomping, width) ← blockHeader
  restOfLine
  let s ← get
  let least := (max 1 (s.indent + 1)).toNat
  let bound := s.cursor.left
  let (before, indent, c) := match width with
    | some w =>
      let indent := least + w - 1
      let (before, c) := breaks indent (bound + 1) s.cursor
      (before, indent, c)
    | none =>
      let (before, widest, c) := leadingBreaks (bound + 1) 0 s.cursor
      (before, max least widest, c)
  let (text, last, tail, c) := blockLines isFolded indent (bound + 1) before c
  let ending := match chomping with
    | .strip => []
    | .clip => last.toList
    | .keep => last.toList ++ tail
  set { s with cursor := c }
  emit (.scalar (String.ofList (text ++ ending)) false)

/-- The line ends in a quoted scalar, with the blanks after each of them skipped. A
separator of documents at the start of a line is a fault. -/
def quotedBreaks : Nat → Cursor → Option (List Char × Cursor)
  | 0, c => some ([], c)
  | n + 1, c =>
    if c.isSeparator then none
    else
      let c := c.skipWhile fun ch => ch = ' ' || ch = '\t'
      match c.lineBreak? with
      | some (ch, c) => (quotedBreaks n c).map fun (rest, c) => (ch :: rest, c)
      | none => some ([], c)

/-- The character that a letter stands for after a backslash. -/
def simpleEscape? (c : Char) : Option Char :=
  ([('0', 0), ('a', 7), ('b', 8), ('t', 9), ('\t', 9), ('n', 10), ('v', 11), ('f', 12), ('r', 13),
    ('e', 0x1B), (' ', 0x20), ('"', 0x22), ('\\', 0x5C), ('/', 0x2F), ('N', 0x85), ('_', 0xA0),
    ('L', 0x2028), ('P', 0x2029)] : List (Char × Nat)).lookup c |>.map Char.ofNat

/-- The number of hexadecimal digits after a letter that follows a backslash. -/
def escapeWidth? (c : Char) : Option Nat :=
  [('x', 2), ('u', 4), ('U', 8)].lookup c

/-- The blanks and line ends that stand here in a quoted scalar, as they are read. -/
def quotedSpace (c : Cursor) : Option (List Char × Cursor) :=
  let (blanks, c) := c.span fun ch => ch = ' ' || ch = '\t'
  match c.lineBreak? with
  | some (broken, c) =>
    (quotedBreaks (c.left + 1) c).map fun (after, c) =>
      let joint := if broken ≠ '\n' then [broken] else if after.isEmpty then [' '] else []
      (joint ++ after, c)
  | none => if c.rest.isEmpty then none else some (blanks, c)

/-- The code point of an escape with hexadecimal digits. -/
def escapedCode (ds : List Char) : Except Fault Nat :=
  match hexNumber? ds with
  | none => .error .malformed
  | some code =>
    if 0x7FFFFFFF < code then .error .codeTooLarge
    else if 0x10FFFF < code then .error .noCharacter
    else .ok code

/-- What is found, or else the text is malformed. -/
def orMalformed {α : Type} : Option α → Except Fault α
  | some a => .ok a
  | none => .error .malformed

/-- The code points of a quoted scalar after its opening quote, and the place after the
closing one. The first argument bounds the number of parts. -/
def quotedText (isDouble : Bool) : Nat → Cursor → Except Fault (List Nat × Cursor)
  | 0, _ => .error .malformed
  | n + 1, c =>
    let continueWith (found : List Nat) (c : Cursor) : Except Fault (List Nat × Cursor) :=
      (quotedText isDouble n c).map fun (rest, c) => (found ++ rest, c)
    match c.peek 0 with
    | none => .error .malformed
    | some ch =>
      if ch = '\'' && !isDouble then
        if c.peek 1 = some '\'' then continueWith [ch.toNat] (c.skip 2) else .ok ([], c.next)
      else if ch = '"' && isDouble then .ok ([], c.next)
      else if ch = '\\' && isDouble then do
        let e ← orMalformed (c.peek 1)
        match simpleEscape? e, escapeWidth? e with
        | some d, _ => continueWith [d.toNat] (c.skip 2)
        | none, some w =>
          let ds := (c.rest.drop 2).take w
          if ds.length = w then continueWith [← escapedCode ds] (c.skip (2 + w))
          else .error .malformed
        | none, none =>
          let (_, c) ← orMalformed c.next.lineBreak?
          let (after, c) ← orMalformed (quotedBreaks (c.left + 1) c)
          continueWith (after.map Char.toNat) c
      else if isGap (some ch) then do
        let (found, c) ← orMalformed (quotedSpace c)
        continueWith (found.map Char.toNat) c
      else continueWith [ch.toNat] c.next

/-- A quoted scalar. -/
def quotedScalar (isDouble : Bool) : ScanM Unit := do
  saveCandidate
  allowKey false
  let s ← get
  let (codes, c) ← quotedText isDouble (s.cursor.left + 1) s.cursor.next
  set { s with cursor := c }
  emit (.scalar (String.ofList (joinHalves codes)) false)

/-- Whether a plain scalar stops before the character `n` places ahead. -/
def stopsPlain (flow : Nat) (c : Cursor) (n : Nat) : Bool :=
  let inFlow (ch : Char) (stops : String) : Bool := flow ≠ 0 && stops.toList.contains ch
  match c.peek n with
  | none => true
  | some ch =>
    isGap (some ch) || inFlow ch ",?[]\x7b\x7d"
      || (ch = ':' && match c.peek (n + 1) with
        | none => true
        | some after => isGap (some after) || inFlow after ",[]\x7b\x7d")

/-- The number of characters of a plain scalar up to a blank or its end. -/
def plainLength (flow : Nat) : Nat → Cursor → Nat
  | 0, _ => 0
  | n + 1, c => if stopsPlain flow c 0 then 0 else plainLength flow n c.next + 1

/-- The empty lines after a line of a plain scalar. `none` stands for a separator of
documents. -/
def plainBreaks : Nat → Cursor → Option (List Char) × Cursor
  | 0, c => (some [], c)
  | n + 1, c =>
    if c.peek 0 = some ' ' then plainBreaks n c.next
    else
      match c.lineBreak? with
      | some (ch, c) =>
        if c.isSeparator then (none, c)
        else
          let (rest, c) := plainBreaks n c
          (rest.map (ch :: ·), c)
      | none => (some [], c)

/-- The space after a part of a plain scalar, as it is read if the scalar goes on, and
whether a line ended. -/
def plainSpace (c : Cursor) : List Char × Bool × Cursor :=
  let (blanks, c) := c.span (· = ' ')
  match c.lineBreak? with
  | none => (blanks, false, c)
  | some (broken, c) =>
    if c.isSeparator then ([], true, c)
    else
      match plainBreaks (c.left + 1) c with
      | (none, c) => ([], true, c)
      | (some after, c) =>
        let joint := if broken ≠ '\n' then [broken] else if after.isEmpty then [' '] else []
        (joint ++ after, true, c)

/-- The text of a plain scalar, whether a line ended after its last part, and the place
after it. `pending` is the space before the current part. -/
def plainText (flow : Nat) (indent : Int) : Nat → List Char → Bool → Cursor →
    List Char × Bool × Cursor
  | 0, _, lineEnded, c => ([], lineEnded, c)
  | n + 1, pending, lineEnded, c =>
    let length := if c.peek 0 = some '#' then 0 else plainLength flow c.left c
    if length = 0 then ([], lineEnded, c)
    else
      let part := c.rest.take length
      let (space, ended, c) := plainSpace (c.skip length)
      if space.isEmpty || c.peek 0 = some '#' || (flow = 0 && (c.column : Int) < indent) then
        (pending ++ part, ended, c)
      else
        let (rest, ended, c) := plainText flow indent n space ended c
        (pending ++ part ++ rest, ended, c)

/-- A plain scalar. -/
def plainScalar : ScanM Unit := do
  saveCandidate
  let s ← get
  let (text, lineEnded, c) :=
    plainText s.flow (s.indent + 1) (s.cursor.left + 1) [] false s.cursor
  set { s with cursor := c, keyAllowed := lineEnded }
  emit (.scalar (String.ofList text) true)

/-! ## Structure -/

/-- Skip spaces, comments and line ends up to the next token. The first argument bounds the
number of lines. -/
def toNextToken : Nat → ScanM Unit
  | 0 => pure ()
  | n + 1 => do
    let s ← get
    let c := s.cursor.skipSpaces
    let c := if c.peek 0 = some '#' then c.skipLine else c
    match c.lineBreak? with
    | some (_, c) =>
      set { s with cursor := c, keyAllowed := s.keyAllowed || s.flow = 0 }
      toNextToken n
    | none => set { s with cursor := c }

/-- The start or the end of a document. -/
def separator (t : Token) : ScanM Unit := do
  closeBlocks (-1)
  dropCandidate
  allowKey false
  advance 3
  emit t

/-- The start of a flow collection. -/
def openFlow (t : Token) : ScanM Unit := do
  saveCandidate
  modify fun s => { s with flow := s.flow + 1 }
  allowKey true
  advance 1
  emit t

/-- The end of a flow collection. -/
def closeFlow (t : Token) : ScanM Unit := do
  dropCandidate
  if (← get).flow = 0 then refuse
  modify fun s => { s with flow := s.flow - 1 }
  allowKey false
  advance 1
  emit t

/-- The comma between the entries of a flow collection. -/
def flowEntry : ScanM Unit := do
  allowKey true
  dropCandidate
  advance 1
  emit .flowEntry

/-- The hyphen before an entry of a block sequence. -/
def blockEntry : ScanM Unit := do
  let s ← get
  if s.flow = 0 then
    if !s.keyAllowed then refuse
    if ← openBlock s.cursor.column then emit .blockSequenceStart
  allowKey true
  dropCandidate
  advance 1
  emit .blockEntry

/-- The question mark before a key. -/
def explicitKey : ScanM Unit := do
  let s ← get
  if s.flow = 0 then
    if !s.keyAllowed then refuse
    if ← openBlock s.cursor.column then emit .blockMappingStart
  allowKey (s.flow = 0)
  dropCandidate
  advance 1
  emit .key

/-- The colon before a value. If a key may have begun before it, that key is a key. -/
def mappingValue : ScanM Unit := do
  let s ← get
  match s.candidate? with
  | some k =>
    modify fun s => { s with candidates := s.candidates.filter fun c => c.1 ≠ s.flow }
    let opened ← if s.flow = 0 then openBlock k.column else pure false
    let start := if opened then [Token.blockMappingStart, .key] else [.key]
    modify (putIn k.position start)
    allowKey false
  | none =>
    if s.flow = 0 then
      if !s.keyAllowed then refuse
      if ← openBlock s.cursor.column then emit .blockMappingStart
    allowKey (s.flow = 0)
    dropCandidate
  advance 1
  emit .value

/-- Whether a plain scalar may begin here. -/
def startsPlain (flow : Nat) (c : Cursor) : Bool :=
  match c.peek 0 with
  | none => false
  | some ch =>
    !(isGap (some ch) || "-?:,[]\x7b\x7d#&*!|>'\"%@`".toList.contains ch)
      || (!isGap (c.peek 1) && (ch = '-' || (flow = 0 && (ch = '?' || ch = ':'))))

/-- The next token, which begins with the given character. -/
def token (ch : Char) : ScanM Unit := do
  let s ← get
  let c := s.cursor
  let isFlow := s.flow ≠ 0
  let gapAhead := isGap (c.peek 1)
  if ch = '%' && c.column = 0 then directive
  else if c.column = 0 && c.isSeparator then
    separator (if ch = '-' then .documentStart else .documentEnd)
  else if ch = '[' then openFlow .flowSequenceStart
  else if ch = '\x7b' then openFlow .flowMappingStart
  else if ch = ']' then closeFlow .flowSequenceEnd
  else if ch = '\x7d' then closeFlow .flowMappingEnd
  else if ch = ',' then flowEntry
  else if ch = '-' && gapAhead then blockEntry
  else if ch = '?' && (isFlow || gapAhead) then explicitKey
  else if ch = ':' && (isFlow || gapAhead) then mappingValue
  else if ch = '*' then reference .alias
  else if ch = '&' then reference .anchor
  else if ch = '!' then tag
  else if ch = '|' && !isFlow then blockScalar false
  else if ch = '>' && !isFlow then blockScalar true
  else if ch = '\'' then quotedScalar false
  else if ch = '"' then quotedScalar true
  else if startsPlain s.flow c then plainScalar
  else refuse

/-- The next tokens; tells whether the text goes on. -/
def step : ScanM Bool := do
  toNextToken ((← get).cursor.left + 1)
  dropStale
  closeBlocks (← get).cursor.column
  match (← get).cursor.peek 0 with
  | none =>
    closeBlocks (-1)
    dropCandidate
    return false
  | some ch =>
    token ch
    return true

end Scan

/-- The tokens of a text, in order. -/
structure Tokens where
  list : List Token
  /-- The fault that comes after the last token, if the text does not end there. -/
  fault : Option Fault := none
deriving DecidableEq, Repr, Inhabited

/-- The tokens from a state of splitting on. The first argument bounds their number. -/
def Tokens.ofScan : Nat → Scan → Tokens
  | 0, s => { list := s.settled, fault := some .malformed }
  | n + 1, s =>
    match Scan.step.run s with
    | .error f => { list := s.settled, fault := some f }
    | .ok (true, s) => Tokens.ofScan n s
    | .ok (false, s) => { list := s.tokens.reverse }

/-- Whether the character may stand in a configuration text. -/
def isReadable (c : Char) : Bool :=
  let n := c.toNat
  n = 9 || n = 10 || n = 13 || (0x20 ≤ n && n ≤ 0x7E) || n = 0x85
    || (0xA0 ≤ n && n ≤ 0xFFFD)
    || 0x10000 ≤ n

/-- The number of characters that are looked at first, before a text is split. -/
def firstBlock : Nat := 8192

/-- The number of characters that are looked at together later on. -/
def laterBlock : Nat := 4096

/-- The blocks of a text before the first one with a character that may not stand there. -/
def readableBlocks (cs : List Char) : List Char :=
  match cs.findIdx? fun c => !isReadable c with
  | none => cs
  | some i =>
    if i < firstBlock then []
    else cs.take (firstBlock + (i - firstBlock) / laterBlock * laterBlock)

/-- The tokens of a configuration text. A byte order mark at its start is passed over. -/
def Tokens.ofText (cs : List Char) : Tokens :=
  let cs := if cs.head?.map Char.toNat = some 0xFEFF then cs.drop 1 else cs
  Tokens.ofScan (cs.length + 1) { cursor := .start cs }

end SearchDesk.Yaml
