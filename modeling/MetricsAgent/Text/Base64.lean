import MetricsAgent.Text.CharClass

/-!
# Base 64

Bytes written in the 64 characters of the usual alphabet.  The reader is lenient: it passes over
characters outside the alphabet and stops at the padding that completes a group of four.
-/

namespace MetricsAgent.Base64

open CharClass

/-- The value of a character of the alphabet. -/
def value? (c : Char) : Option Nat :=
  if 'A' ≤ c && c ≤ 'Z' then some (c.toNat - 65)
  else if 'a' ≤ c && c ≤ 'z' then some (c.toNat - 71)
  else if isAsciiDigit c then some (c.toNat + 4)
  else if c == '+' then some 62
  else if c == '/' then some 63
  else none

/-- Why a text encodes no bytes. -/
inductive Fault
  | loneCharacter (characters : Nat)
  | padding
  deriving DecidableEq, Repr

/-- The characters of the alphabet up to the padding that completes a group, and whether there is
such padding.  `place` is the place in the group and `pads` the padding seen since the last
character. -/
def groups (place pads : Nat) : List Char → List Nat × Bool
  | [] => ([], false)
  | c :: rest =>
    if c == '=' then
      if 2 ≤ place then
        if 4 ≤ place + (pads + 1) then ([], true) else groups place (pads + 1) rest
      else groups place pads rest
    else
      match value? c with
      | none => groups place pads rest
      | some v =>
        let (vs, complete) := groups ((place + 1) % 4) 0 rest
        (v :: vs, complete)

/-- The bytes of the values of a run of characters; the bits left over are dropped. -/
def bytesOfGroups : List Nat → List UInt8
  | a :: b :: c :: d :: rest =>
    UInt8.ofNat (4 * a + b / 16) :: UInt8.ofNat (16 * (b % 16) + c / 4)
      :: UInt8.ofNat (64 * (c % 4) + d) :: bytesOfGroups rest
  | [a, b, c] => [UInt8.ofNat (4 * a + b / 16), UInt8.ofNat (16 * (b % 16) + c / 4)]
  | [a, b] => [UInt8.ofNat (4 * a + b / 16)]
  | _ => []

/-- The bytes that a text encodes. -/
def decode (cs : List Char) : Except Fault (List UInt8) :=
  let (values, complete) := groups 0 0 cs
  if complete || values.length % 4 = 0 then .ok (bytesOfGroups values)
  else if values.length % 4 = 1 then .error (.loneCharacter values.length)
  else .error .padding

/-- The wording of a fault. -/
def Fault.message : Fault → String
  | .loneCharacter n =>
    "Invalid base64-encoded string: number of data characters (" ++ toString n
      ++ ") cannot be 1 more than a multiple of 4"
  | .padding => "Incorrect padding"

end MetricsAgent.Base64
