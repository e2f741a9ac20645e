import MetricsAgent.Text.CharClass
import MetricsAgent.Text.Printable

/-!
# Quoted texts

A text in quotation marks: single marks unless it holds a single mark and no double one, escapes
for the mark, the backslash and what is not printable.
-/

namespace MetricsAgent.Quoted

/-- The quotation mark for a text. -/
def mark (cs : List Char) : Char :=
  if cs.contains '\'' && !cs.contains '"' then '"' else '\''

/-- One character inside quotation marks `q`. -/
def escape (q c : Char) : String :=
  if c == q || c == '\\' then String.ofList ['\\', c]
  else if c == '\t' then "\\t"
  else if c == '\n' then "\\n"
  else if c == '\r' then "\\r"
  else if CharClass.isPrintable c then String.singleton c
  else if c.toNat < 0x100 then "\\x" ++ CharClass.hexText 2 c.toNat
  else if c.toNat < 0x10000 then "\\u" ++ CharClass.hexText 4 c.toNat
  else "\\U" ++ CharClass.hexText 8 c.toNat

/-- A text in quotation marks. -/
def text (s : String) : String :=
  let q := mark s.toList
  String.singleton q ++ String.join (s.toList.map (escape q)) ++ String.singleton q

/-- One byte inside quotation marks `q`: ASCII as in a text, all else by number. -/
def escapeByte (q : Char) (b : UInt8) : String :=
  if b.toNat < 0x80 then escape q (Char.ofNat b.toNat) else "\\x" ++ CharClass.hexText 2 b.toNat

/-- Bytes in quotation marks, marked by a leading `b`. -/
def bytes (bs : List UInt8) : String :=
  let q := mark (bs.map fun b => Char.ofNat b.toNat)
  "b" ++ String.singleton q ++ String.join (bs.map (escapeByte q)) ++ String.singleton q

end MetricsAgent.Quoted
