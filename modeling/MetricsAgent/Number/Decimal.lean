import MetricsAgent.Number.Binary64

/-!
# Decimal texts of numbers

Writing: the shortest digits that read back as the same value, a fixed number of places, and a
fixed number of significant digits.  Reading: a decimal is taken to the nearest value.  All four
work in exact arithmetic.
-/

namespace MetricsAgent

/-- Digits of a natural number in base ten. -/
def decimalText (n : Nat) : String :=
  String.ofList (Nat.toDigits 10 n)

/-- An integer in base ten. -/
def signedText (n : Int) : String :=
  if n < 0 then "-" ++ decimalText n.natAbs else decimalText n.natAbs

/-- `zeros ++ digits`, padded on the left to a width. -/
def padZeros (width n : Nat) : String :=
  let s := decimalText n
  String.ofList (List.replicate (width - s.length) '0') ++ s

namespace Decimal

/-- Powers of ten as exact numbers, for exponents of either sign. -/
def tenPow (e : Int) : Rat :=
  if 0 ≤ e then (tenTo e.toNat : Rat) else 1 / (tenTo (-e).toNat : Rat)

/-- The exponent `k` with `10^k ≤ q < 10^(k+1)`, for positive `q`. -/
def decimalExponent (q : Rat) : Int :=
  let d : Int := ((decimalText q.num.natAbs).length : Int) - ((decimalText q.den).length : Int)
  if tenPow (d + 1) ≤ q then d + 1 else if tenPow d ≤ q then d else d - 1

/-! ## Shortest digits -/

/-- The reals that round to `m · 2^e`: both ends, and whether the ends belong to it. -/
def roundingInterval (m : Nat) (e : Int) : Rat × Rat × Bool :=
  let u := Binary64.twoPow (e - 2)
  let below : Nat := if m = twoTo 52 ∧ -1074 < e then 1 else 2
  (((4 * m - below : Nat) : Rat) * u, ((4 * m + 2 : Nat) : Rat) * u, m % 2 == 0)

/-- A decimal `digits · 10^exponent`. -/
structure Digits where
  digits : Nat
  exponent : Int

/-- The neighbour of `q` on the grid of multiples of `10^p` that lies in the interval; of two the
nearer, and of two equally near the even one. -/
def gridHit (q : Rat) (interval : Rat × Rat × Bool) (p : Int) : Option Digits :=
  let (low, high, closed) := interval
  let step := tenPow p
  let g := (q / step).floor.toNat
  let inside := fun (k : Nat) =>
    let x := (k : Rat) * step
    if closed then decide (low ≤ x ∧ x ≤ high) else decide (low < x ∧ x < high)
  let down := (g : Rat) * step
  let up := ((g + 1 : Nat) : Rat) * step
  match inside g, inside (g + 1) with
  | true, true =>
    if q - down < up - q then some ⟨g, p⟩
    else if up - q < q - down then some ⟨g + 1, p⟩
    else some ⟨if g % 2 = 0 then g else g + 1, p⟩
  | true, false => some ⟨g, p⟩
  | false, true => some ⟨g + 1, p⟩
  | false, false => none

/-- The fewest digits that read back as `m · 2^e`, for positive `m`; seventeen always suffice. -/
def shortest (m : Nat) (e : Int) : Digits :=
  let q := (m : Rat) * Binary64.twoPow e
  let k := decimalExponent q
  let interval := roundingInterval m e
  ((List.range 17).findSome? fun (n : Nat) => gridHit q interval (k - n)).getD
    ⟨(q / tenPow (k - 16)).floor.toNat, k - 16⟩

/-- Removes zeros at the end of a digit text. -/
def dropTrailingZeros (s : String) : String :=
  String.ofList (s.toList.reverse.dropWhile (· == '0')).reverse

/-- An exponent as a sign and at least two digits. -/
def exponentText (k : Int) : String :=
  (if k < 0 then "-" else "+") ++ padZeros 2 k.natAbs

/-- `digits` with a point after the first `whole` of them, zeros supplied on either side. -/
def positional (digits : String) (whole : Int) : String × String :=
  let ds := digits.toList
  if whole ≤ 0 then
    ("0", String.ofList (List.replicate (-whole).toNat '0' ++ ds))
  else
    let w := whole.toNat
    (String.ofList (ds.take w ++ List.replicate (w - ds.length) '0'), String.ofList (ds.drop w))

/-- Which exponents are written positionally, whether a whole number keeps a point, and the words
for what is not finite. -/
structure Style where
  leastPositional : Int
  positionalBelow : Int
  wholeSuffix : String
  nanText : String
  infinityText : String

/-- Sign and digits of a value in a style. -/
def Style.render (style : Style) : Binary64 → String
  | .nan => style.nanText
  | .infinite s => (if s then "-" else "") ++ style.infinityText
  | .finite s m e _ =>
    let sign := if s then "-" else ""
    if m = 0 then sign ++ "0" ++ style.wholeSuffix
    else
      let d := shortest m e
      let text := dropTrailingZeros (decimalText d.digits)
      let k : Int := (decimalText d.digits).length - 1 + d.exponent
      if style.leastPositional ≤ k ∧ k < style.positionalBelow then
        let (whole, part) := positional text (k + 1)
        sign ++ whole ++ (if part.isEmpty then style.wholeSuffix else "." ++ part)
      else
        let (whole, part) := positional text 1
        sign ++ whole ++ (if part.isEmpty then "" else "." ++ part) ++ "e" ++ exponentText k

/-- Numbers in messages and documents: positional from 10⁻⁴ to below 10¹⁶, a whole number keeps
its point. -/
def plain : Style := ⟨-4, 16, ".0", "nan", "inf"⟩

/-! ## Fixed places and significant digits -/

/-- A non-negative exact number with `places` digits after the point, a half going to even. -/
def fixedUnsigned (places : Nat) (q : Rat) : String :=
  let n := roundHalfEven (q.num.natAbs * tenTo places) q.den
  if places = 0 then decimalText n
  else
    let s := (padZeros (places + 1) n).toList
    String.ofList (s.take (s.length - places)) ++ "." ++ String.ofList (s.drop (s.length - places))

/-- A value with a fixed number of places. -/
def fixed (places : Nat) : Binary64 → String
  | .nan => "nan"
  | .infinite s => if s then "-inf" else "inf"
  | .finite s m e _ =>
    (if s then "-" else "") ++ fixedUnsigned places ((m : Rat) * Binary64.twoPow e)

/-- Exactly `n` significant digits of a positive number, and the decimal exponent of the first. -/
def significant (n : Nat) (q : Rat) : String × Int :=
  let k := decimalExponent q
  let scaled := q / tenPow (k - (n - 1 : Nat))
  let d := roundHalfEven scaled.num.natAbs scaled.den
  if d = tenTo n then (decimalText (tenTo (n - 1)), k + 1) else (decimalText d, k)

/-- A value with `n` significant digits in scientific form. -/
def scientific (places : Nat) : Binary64 → String
  | .nan => "nan"
  | .infinite s => if s then "-inf" else "inf"
  | .finite s m e _ =>
    let sign := if s then "-" else ""
    let (ds, k) :=
      if m = 0 then (String.ofList (List.replicate (places + 1) '0'), (0 : Int))
      else significant (places + 1) ((m : Rat) * Binary64.twoPow e)
    let (whole, part) := positional ds 1
    sign ++ whole ++ (if part.isEmpty then "" else "." ++ part) ++ "e" ++ exponentText k

/-- A value with at most `n` significant digits, zeros at the end dropped unless they are kept:
positional from 10⁻⁴ to below 10ⁿ. -/
def general (n : Nat) (keepZeros : Bool) : Binary64 → String
  | .nan => "nan"
  | .infinite s => if s then "-inf" else "inf"
  | .finite s m e _ =>
    let n := max n 1
    let sign := if s then "-" else ""
    let (ds, k) :=
      if m = 0 then (String.ofList (List.replicate n '0'), (0 : Int))
      else significant n ((m : Rat) * Binary64.twoPow e)
    let trim := fun (part : String) => if keepZeros then part else dropTrailingZeros part
    let point := fun (part : String) => if part.isEmpty && !keepZeros then "" else "." ++ part
    if -4 ≤ k ∧ k < n then
      let (whole, part) := positional ds (k + 1)
      sign ++ whole ++ point (trim part)
    else
      let (whole, part) := positional ds 1
      sign ++ whole ++ point (trim part) ++ "e" ++ exponentText k

/-! ## Reading -/

/-- The value nearest to `± digits · 10^exponent`.  Exponents far outside the range of values are
answered without computing the power. -/
def toBinary64 (negative : Bool) (digits : Nat) (exponent : Int) : Binary64 :=
  let size : Int := (decimalText digits).length + exponent
  if digits = 0 ∨ size < -400 then Binary64.zeroOf negative
  else if 400 < size then .infinite negative
  else if 0 ≤ exponent then Binary64.ofRatio negative (digits * tenTo exponent.toNat) 1
  else Binary64.ofRatio negative digits (tenTo (-exponent).toNat)

end Decimal

/-- A number in the notation of messages and documents. -/
def Binary64.text (x : Binary64) : String :=
  Decimal.plain.render x

end MetricsAgent
