import MetricsAgent.Number.Power

/-!
# Binary floating point of 64 bits

A value is a NaN, an infinity or a finite number `± m · 2^e` in canonical form, so equal values are
equal terms (the two zeros excepted, which differ in sign).  Each operation is exact arithmetic on
`Rat` followed by one rounding to the nearest value, a half going to the even mantissa.
-/

namespace MetricsAgent

/-- Nearest integer to `num / den`, a half going to the even neighbour. -/
def roundHalfEven (num den : Nat) : Nat :=
  let q := num / den
  let r := num % den
  if 2 * r < den then q else if den < 2 * r then q + 1 else if q % 2 = 0 then q else q + 1

/-- The mantissa has at most 53 bits, and exactly 53 unless the exponent is the least one. -/
structure Binary64.Canonical (m : Nat) (e : Int) : Prop where
  mantissa_lt : m < twoTo 53
  exponent_ge : -1074 ≤ e
  exponent_le : e ≤ 971
  normal : e = -1074 ∨ twoTo 52 ≤ m

instance (m : Nat) (e : Int) : Decidable (Binary64.Canonical m e) :=
  decidable_of_iff (m < twoTo 53 ∧ -1074 ≤ e ∧ e ≤ 971 ∧ (e = -1074 ∨ twoTo 52 ≤ m))
    ⟨fun ⟨a, b, c, d⟩ => ⟨a, b, c, d⟩, fun ⟨a, b, c, d⟩ => ⟨a, b, c, d⟩⟩

/-- A floating point number of 64 bits. -/
inductive Binary64
  | nan
  | infinite (negative : Bool)
  | finite (negative : Bool) (mantissa : Nat) (exponent : Int)
      (canonical : Binary64.Canonical mantissa exponent)
  deriving DecidableEq

namespace Binary64

/-- Zero of the given sign. -/
def zeroOf (negative : Bool) : Binary64 :=
  .finite negative 0 (-1074) ⟨by decide, by decide, by decide, .inl rfl⟩

instance : Inhabited Binary64 := ⟨zeroOf false⟩

/-- Powers of two as exact numbers, for exponents of either sign. -/
def twoPow (e : Int) : Rat :=
  if 0 ≤ e then (twoTo e.toNat : Rat) else 1 / (twoTo (-e).toNat : Rat)

/-! ## Rounding -/

/-- The exponent `k` with `2^k ≤ num / den < 2^(k+1)`, for positive arguments. -/
def binaryExponent (num den : Nat) : Int :=
  let d : Int := (num.log2 : Int) - (den.log2 : Int)
  if den * twoTo d.toNat ≤ num * twoTo (-d).toNat then d else d - 1

/-- The value nearest to `± num / den`; what exceeds the largest finite value becomes infinite. -/
def ofRatio (negative : Bool) (num den : Nat) : Binary64 :=
  if num = 0 then zeroOf negative
  else
    let e := max (binaryExponent num den - 52) (-1074)
    let m := roundHalfEven (num * twoTo (-e).toNat) (den * twoTo e.toNat)
    let (m, e) := if m = twoTo 53 then (twoTo 52, e + 1) else (m, e)
    if h : Canonical m e then .finite negative m e h else .infinite negative

/-- The value nearest to an exact number; zero is positive. -/
def ofRat (q : Rat) : Binary64 :=
  ofRatio (decide (q < 0)) q.num.natAbs q.den

/-- The value nearest to an integer. -/
def ofInt (n : Int) : Binary64 :=
  ofRatio (decide (n < 0)) n.natAbs 1

instance (n : Nat) : OfNat Binary64 n := ⟨ofInt n⟩

/-! ## Reading a value -/

/-- The exact number that a finite value stands for. -/
def toRat? : Binary64 → Option Rat
  | .finite s m e _ => some ((if s then -(m : Rat) else (m : Rat)) * twoPow e)
  | _ => none

def isFinite : Binary64 → Bool
  | .finite .. => true
  | _ => false

def isNaN : Binary64 → Bool
  | .nan => true
  | _ => false

/-- The sign bit; a NaN has none. -/
def isNegative : Binary64 → Bool
  | .nan => false
  | .infinite s => s
  | .finite s _ _ _ => s

/-- The integer that a finite value equals, if it equals one. -/
def toInt? (x : Binary64) : Option Int :=
  match x.toRat? with
  | some q => if q.den = 1 then some q.num else none
  | none => none

/-! ## Order -/

/-- Less than, as numbers: false as soon as one side is a NaN. -/
def lt : Binary64 → Binary64 → Bool
  | .nan, _ => false
  | _, .nan => false
  | .infinite s, .infinite t => s && !t
  | .infinite s, .finite .. => s
  | .finite .., .infinite t => !t
  | x@(.finite ..), y@(.finite ..) =>
    match x.toRat?, y.toRat? with
    | some p, some q => decide (p < q)
    | _, _ => false

/-- Equality as numbers: the zeros are equal and a NaN differs from itself. -/
def numEq : Binary64 → Binary64 → Bool
  | .nan, _ => false
  | _, .nan => false
  | .infinite s, .infinite t => s == t
  | x@(.finite ..), y@(.finite ..) => x.toRat? == y.toRat?
  | _, _ => false

/-- At most, as numbers. -/
def le (x y : Binary64) : Bool :=
  x.lt y || x.numEq y

/-! ## Arithmetic -/

def neg : Binary64 → Binary64
  | .nan => .nan
  | .infinite s => .infinite !s
  | .finite s m e h => .finite (!s) m e h

/-- Sum; an exact zero is negative only if both terms are. -/
def add : Binary64 → Binary64 → Binary64
  | .nan, _ => .nan
  | _, .nan => .nan
  | .infinite s, .infinite t => if s == t then .infinite s else .nan
  | .infinite s, .finite .. => .infinite s
  | .finite .., .infinite t => .infinite t
  | x@(.finite s ..), y@(.finite t ..) =>
    match x.toRat?, y.toRat? with
    | some p, some q => if p + q = 0 then zeroOf (s && t) else ofRat (p + q)
    | _, _ => .nan

def sub (x y : Binary64) : Binary64 :=
  x.add y.neg

/-- Product; its sign is that of the factors also where it is zero or infinite. -/
def mul : Binary64 → Binary64 → Binary64
  | .nan, _ => .nan
  | _, .nan => .nan
  | .infinite s, .infinite t => .infinite (s ^^ t)
  | .infinite s, .finite t m _ _ => if m = 0 then .nan else .infinite (s ^^ t)
  | .finite s m _ _, .infinite t => if m = 0 then .nan else .infinite (s ^^ t)
  | x@(.finite s ..), y@(.finite t ..) =>
    match x.toRat?, y.toRat? with
    | some p, some q => ofRatio (s ^^ t) (p * q).num.natAbs (p * q).den
    | _, _ => .nan

/-- Quotient by a value other than zero; a division by zero gives a NaN here. -/
def div : Binary64 → Binary64 → Binary64
  | .nan, _ => .nan
  | _, .nan => .nan
  | .infinite _, .infinite _ => .nan
  | .infinite s, .finite t _ _ _ => .infinite (s ^^ t)
  | .finite s _ _ _, .infinite t => zeroOf (s ^^ t)
  | x@(.finite s ..), y@(.finite t ..) =>
    match x.toRat?, y.toRat? with
    | some p, some q =>
      if q = 0 then .nan else ofRatio (s ^^ t) (p / q).num.natAbs (p / q).den
    | _, _ => .nan

instance : Add Binary64 := ⟨add⟩
instance : Sub Binary64 := ⟨sub⟩
instance : Mul Binary64 := ⟨mul⟩
instance : Div Binary64 := ⟨div⟩
instance : Neg Binary64 := ⟨neg⟩

end Binary64

end MetricsAgent
