/-!
# Bytes written in base 64

`decodeBase64?` reads bytes that are written as characters of six bits each. Characters that
do not belong to the alphabet are passed over. Four characters make three bytes; two or
three characters of a group make one or two bytes if the group is filled up with `=`, and
what follows such a group is not read. A padding character that does not complete a group is
passed over as well.
-/

namespace SearchDesk

/-- The six bits of a character of the alphabet. -/
def sixBits? (c : Char) : Option Nat :=
  let n := c.toNat
  if 'A' ≤ c ∧ c ≤ 'Z' then some (n - 65)
  else if 'a' ≤ c ∧ c ≤ 'z' then some (n - 71)
  else if '0' ≤ c ∧ c ≤ '9' then some (n + 4)
  else if c = '+' then some 62
  else if c = '/' then some 63
  else none

namespace Base64

/-- The bytes of a group of characters. -/
def bytesOf : List Nat → List UInt8
  | [a, b] => [UInt8.ofNat (4 * a + b / 16)]
  | [a, b, c] => [UInt8.ofNat (4 * a + b / 16), UInt8.ofNat (16 * (b % 16) + c / 4)]
  | [a, b, c, d] =>
    [UInt8.ofNat (4 * a + b / 16), UInt8.ofNat (16 * (b % 16) + c / 4),
      UInt8.ofNat (64 * (c % 4) + d)]
  | _ => []

/-- The bytes of the characters that are left. `group` are the characters of the group that
is begun, and `pads` counts the padding characters right before. -/
def decodeFrom (group : List Nat) (pads : Nat) : List Char → Option (List UInt8)
  | [] => if group.isEmpty then some [] else none
  | c :: rest =>
    if c = '=' then
      if 2 ≤ group.length then
        if 4 ≤ group.length + pads + 1 then some (bytesOf group)
        else decodeFrom group (pads + 1) rest
      else decodeFrom group pads rest
    else
      match sixBits? c with
      | none => decodeFrom group pads rest
      | some n =>
        let group := group ++ [n]
        if group.length = 4 then (decodeFrom [] 0 rest).map (bytesOf group ++ ·)
        else decodeFrom group 0 rest

end Base64

/-- The bytes that a row of characters stands for. -/
def decodeBase64? (s : List Char) : Option (List UInt8) := Base64.decodeFrom [] 0 s

end SearchDesk
