import MetricsAgent.Number.Basic

/-!
# Time

The agent reckons time in seconds.  What it does is written for any numbers that can be added and
compared: numbers as machines have them when it runs, and exact ones when its schedule is reasoned
about.
-/

namespace MetricsAgent

namespace Number

/-- The sum; whole numbers stay whole. -/
def add : Number → Number → Number
  | .int a, .int b => .int (a + b)
  | a, b => .float (a.toBinary64 + b.toBinary64)

/-- The difference; whole numbers stay whole. -/
def sub : Number → Number → Number
  | .int a, .int b => .int (a - b)
  | a, b => .float (a.toBinary64 - b.toBinary64)

/-- The product; whole numbers stay whole. -/
def mul : Number → Number → Number
  | .int a, .int b => .int (a * b)
  | a, b => .float (a.toBinary64 * b.toBinary64)

/-- The quotient by a count. -/
def divNat (a : Number) (n : Nat) : Number :=
  .float (a.toBinary64 / Binary64.ofInt n)

end Number

/-- Numbers of seconds. -/
class Seconds (T : Type) where
  zero : T
  add : T → T → T
  sub : T → T → T
  mul : T → T → T
  divNat : T → Nat → T
  lt : T → T → Bool
  le : T → T → Bool
  ofNumber : Number → T
  toNumber : T → Number

namespace Seconds

variable {T : Type} [Seconds T]

/-- Whether a number of seconds is more than none. -/
def isPositive (t : T) : Bool :=
  lt zero t

/-- The later of two times, the first if neither is. -/
def later (a b : T) : T :=
  if lt a b then b else a

/-- Milliseconds of a number of seconds. -/
def milliseconds (t : T) : T :=
  mul t (ofNumber (.int 1000))

/-- The floating point number next to a number of seconds, for display. -/
def shown (t : T) : Binary64 :=
  (toNumber t).toBinary64

end Seconds

/-- Machine numbers: a clock that starts at a floating point zero keeps floating point time. -/
instance : Seconds Number where
  zero := .float 0
  add := Number.add
  sub := Number.sub
  mul := Number.mul
  divNat := Number.divNat
  lt := Number.lt
  le := Number.le
  ofNumber := id
  toNumber := id

/-- Exact numbers. -/
instance : Seconds Rat where
  zero := 0
  add := (· + ·)
  sub := (· - ·)
  mul := (· * ·)
  divNat := fun q n => q / n
  lt := fun a b => decide (a < b)
  le := fun a b => decide (a ≤ b)
  ofNumber := fun n => (n.toRat?).getD 0
  toNumber := fun q => .float (Binary64.ofRat q)

end MetricsAgent
