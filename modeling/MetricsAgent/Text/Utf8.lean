import MetricsAgent.Number.Decimal
import MetricsAgent.Text.CharClass

/-!
# UTF-8

Decoding of bytes to characters.  A failure tells the first bytes that cannot be decoded and why;
a lenient decoder writes the replacement character in their place and goes on after them.
-/

namespace MetricsAgent.Utf8

/-- Why a sequence of bytes is not a character. -/
inductive Flaw
  | startByte
  | continuationByte
  | endOfData
  deriving DecidableEq, Repr

/-- The wording of a flaw. -/
def Flaw.message : Flaw → String
  | .startByte => "invalid start byte"
  | .continuationByte => "invalid continuation byte"
  | .endOfData => "unexpected end of data"

/-- Bytes that cannot be decoded: `length` of them from `position`. -/
structure Malformed where
  position : Nat
  length : Nat
  flaw : Flaw
  deriving DecidableEq, Repr

/-- How many bytes follow a leading byte, and the range of the first of them. -/
def lead? (b : UInt8) : Option (Nat × UInt8 × UInt8) :=
  if 0xC2 ≤ b && b < 0xE0 then some (1, 0x80, 0xBF)
  else if b == 0xE0 then some (2, 0xA0, 0xBF)
  else if b == 0xED then some (2, 0x80, 0x9F)
  else if 0xE1 ≤ b && b < 0xF0 then some (2, 0x80, 0xBF)
  else if b == 0xF0 then some (3, 0x90, 0xBF)
  else if 0xF1 ≤ b && b < 0xF4 then some (3, 0x80, 0xBF)
  else if b == 0xF4 then some (3, 0x80, 0x8F)
  else none

/-- Reads up to `count` continuation bytes: the value so far and how many were accepted. -/
def continuation (low high : UInt8) (value : Nat) : Nat → List UInt8 → Nat × Nat
  | 0, _ => (value, 0)
  | _, [] => (value, 0)
  | count + 1, b :: rest =>
    if low ≤ b && b ≤ high then
      let (v, n) := continuation 0x80 0xBF (64 * value + (b.toNat - 0x80)) count rest
      (v, n + 1)
    else (value, 0)

/-- The first character of a non-empty byte sequence and its length, or the flaw and how many bytes
it spoils. -/
def first (b : UInt8) (rest : List UInt8) : Except (Nat × Flaw) (Char × Nat) :=
  if b < 0x80 then .ok (Char.ofNat b.toNat, 1)
  else
    match lead? b with
    | none => .error (1, .startByte)
    | some (count, low, high) =>
      let bits := if count = 1 then b.toNat - 0xC0 else if count = 2 then b.toNat - 0xE0
        else b.toNat - 0xF0
      let (value, accepted) := continuation low high bits count rest
      if accepted = count then .ok (Char.ofNat value, count + 1)
      else if rest.length = accepted then .error (accepted + 1, .endOfData)
      else .error (accepted + 1, .continuationByte)

/-- Decoding with an explicit bound on the number of steps; a step consumes at least one byte. -/
def decodeSteps : Nat → Nat → List UInt8 → Except Malformed (List Char)
  | _, _, [] => .ok []
  | 0, _, _ => .ok []
  | fuel + 1, position, b :: rest =>
    match first b rest with
    | .error (length, flaw) => .error ⟨position, length, flaw⟩
    | .ok (c, n) => (decodeSteps fuel (position + n) (rest.drop (n - 1))).map (c :: ·)

/-- The text that bytes encode, or the first bytes that are malformed. -/
def decode (bytes : List UInt8) : Except Malformed String :=
  (decodeSteps bytes.length 0 bytes).map String.ofList

/-- What is wrong with malformed bytes, in words. -/
def Malformed.message (m : Malformed) (bytes : List UInt8) : String :=
  if m.length = 1 then
    "'utf-8' codec can't decode byte 0x" ++ CharClass.hexText 2 ((bytes[m.position]?.getD 0).toNat)
      ++ " in position " ++ decimalText m.position ++ ": " ++ m.flaw.message
  else
    "'utf-8' codec can't decode bytes in position " ++ decimalText m.position ++ "-"
      ++ decimalText (m.position + m.length - 1) ++ ": " ++ m.flaw.message

end MetricsAgent.Utf8
