import SearchDesk.Text.Digit

/-!
# Reading bytes as UTF-8

`decodeUtf8` reads a list of bytes and, if they are not UTF-8, tells which bytes are
wrong and why. The well-formed sequences are those of the encoding's definition: no
overlong forms, no surrogates, nothing above U+10FFFF. Of an ill-formed sequence the
longest start that could still be completed is reported.
-/

namespace SearchDesk

/-- Why bytes are not UTF-8. -/
inductive Utf8Cause where
  | start
  | continuation
  | ending
deriving DecidableEq, Repr

/-- The wrong bytes: where they begin, the first of them, how many they are, and why. -/
structure Utf8Fault where
  position : Nat
  byte : Nat
  count : Nat
  cause : Utf8Cause
deriving DecidableEq, Repr

/-- The words for the cause. -/
def Utf8Cause.message : Utf8Cause → String
  | .start => "invalid start byte"
  | .continuation => "invalid continuation byte"
  | .ending => "unexpected end of data"

/-- The message for wrong bytes. -/
def Utf8Fault.message (f : Utf8Fault) : String :=
  let place :=
    if f.count = 1 then
      "byte 0x" ++ String.ofList (hexDigits 2 f.byte) ++ " in position " ++ Nat.repr f.position
    else "bytes in position " ++ Nat.repr f.position ++ "-" ++ Nat.repr (f.position + f.count - 1)
  "'utf-8' codec can't decode " ++ place ++ ": " ++ f.cause.message

namespace Utf8

/-- What a sequence of bytes starts with: a character and its length, or the cause and
the number of wrong bytes. -/
abbrev Step := Except (Utf8Cause × Nat) (Nat × Nat)

/-- Whether the byte continues a sequence. -/
def isContinuation (b : Nat) : Bool := 0x80 ≤ b && b < 0xC0

/-- Whether a second byte may follow a first byte. -/
def mayFollow (first second : Nat) : Bool :=
  isContinuation second &&
    (if first = 0xE0 then 0xA0 ≤ second
    else if first = 0xED then second < 0xA0
    else if first = 0xF0 then 0x90 ≤ second
    else if first = 0xF4 then second < 0x90
    else true)

/-- The continuation bytes after the second one: `need` of them are still to come,
`length` bytes have been read. -/
def continued : Nat → Nat → Nat → List Nat → Step
  | code, length, 0, _ => .ok (code, length)
  | _, length, _ + 1, [] => .error (.ending, length)
  | code, length, need + 1, b :: rest =>
    if isContinuation b then continued (code * 64 + b % 64) (length + 1) need rest
    else .error (.continuation, length)

/-- A sequence whose first byte announces `need` more. -/
def sequence (code first need : Nat) : List Nat → Step
  | [] => .error (.ending, 1)
  | b :: rest =>
    if mayFollow first b then continued (code * 64 + b % 64) 2 (need - 1) rest
    else .error (.continuation, 1)

/-- The first character of a non-empty row of bytes. -/
def first (b : Nat) (rest : List Nat) : Step :=
  if b < 0x80 then .ok (b, 1)
  else if b < 0xC2 then .error (.start, 1)
  else if b < 0xE0 then sequence (b % 32) b 1 rest
  else if b < 0xF0 then sequence (b % 16) b 2 rest
  else if b < 0xF5 then sequence (b % 8) b 3 rest
  else .error (.start, 1)

/-- The characters of a row of bytes that begins at a position. The first argument
counts the bytes that belong to a character already read. -/
def decodeFrom : Nat → Nat → List Nat → Except Utf8Fault (List Char)
  | _, _, [] => .ok []
  | skip + 1, position, _ :: rest => decodeFrom skip (position + 1) rest
  | 0, position, b :: rest =>
    match first b rest with
    | .error (cause, count) => .error ⟨position, b, count, cause⟩
    | .ok (code, length) =>
      match decodeFrom (length - 1) (position + 1) rest with
      | .error f => .error f
      | .ok cs => .ok (Char.ofNat code :: cs)

end Utf8

/-- The text that bytes stand for. -/
def decodeUtf8 (bytes : List UInt8) : Except Utf8Fault String :=
  match Utf8.decodeFrom 0 0 (bytes.map UInt8.toNat) with
  | .ok cs => .ok (String.ofList cs)
  | .error f => .error f

end SearchDesk
