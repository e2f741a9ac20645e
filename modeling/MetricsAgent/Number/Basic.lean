import MetricsAgent.Number.Decimal

/-!
# Numbers as settings hold them

A number is whole or floating point, and keeps the kind in which it was given.
-/

namespace MetricsAgent

/-- A whole number or a floating point number. -/
inductive Number
  | int (n : Int)
  | float (x : Binary64)
  deriving DecidableEq

namespace Number

instance : Inhabited Number := ⟨.int 0⟩

/-- The nearest floating point number. -/
def toBinary64 : Number → Binary64
  | .int n => Binary64.ofInt n
  | .float x => x

/-- The exact number, if it is finite. -/
def toRat? : Number → Option Rat
  | .int n => some n
  | .float x => x.toRat?

/-- A number in running text. -/
def text : Number → String
  | .int n => signedText n
  | .float x => x.text

/-- A number without a point that is not needed. -/
def bare : Number → String
  | .int n => signedText n
  | .float x => ({ Decimal.plain with wholeSuffix := "" }).render x

/-- Less than, as exact numbers: false as soon as one side is a NaN. -/
def lt (a b : Number) : Bool :=
  match a.toRat?, b.toRat? with
  | some p, some q => decide (p < q)
  | _, _ => a.toBinary64.lt b.toBinary64

/-- Equality as exact numbers: a NaN differs from itself. -/
def numEq (a b : Number) : Bool :=
  match a.toRat?, b.toRat? with
  | some p, some q => p == q
  | _, _ => a.toBinary64.numEq b.toBinary64

/-- At most, as exact numbers. -/
def le (a b : Number) : Bool :=
  a.lt b || a.numEq b

end Number

end MetricsAgent
