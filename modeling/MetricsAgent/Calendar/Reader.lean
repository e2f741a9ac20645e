import MetricsAgent.Calendar.Basic

/-!
# Reading dates and times

A text is a date with a time of day, or a number of seconds since 1970-01-01 UTC, or a date alone,
tried in that order.  Numbers beyond `20 000 000 000` count milliseconds.  The reason given for a
text that is none of these is what is wrong with it as a date.
-/

namespace MetricsAgent.DateTime

/-- Why a text or number is no date. -/
inductive ReadError
  | tooShort
  | extraCharacters
  | dateSeparator
  | yearCharacter
  | monthCharacter
  | dayCharacter
  | monthRange
  | dayRange
  | tooSmall
  | tooLarge
  | notExact
  | notANumber
  | yearZero
  deriving DecidableEq, Repr

/-- The wording of a reason. -/
def ReadError.message : ReadError → String
  | .tooShort => "input is too short"
  | .extraCharacters => "unexpected extra characters at the end of the input"
  | .dateSeparator => String.ofList ("invalid date separator, expected ".toList ++ ['\x60', '-', '\x60'])
  | .yearCharacter => "invalid character in year"
  | .monthCharacter => "invalid character in month"
  | .dayCharacter => "invalid character in day"
  | .monthRange => "month value is outside expected range of 1-12"
  | .dayRange => "day value is outside expected range"
  | .tooSmall => "dates before 0000 are not supported as unix timestamps"
  | .tooLarge => "dates after 9999 are not supported as unix timestamps"
  | .notExact => "Timestamp is not an exact date"
  | .notANumber => "NaN values not permitted"
  | .yearZero => "year 0 is out of range"

/-! ## Digits -/

/-- The value of an ASCII digit, given as a byte. -/
def byteDigit? (b : UInt8) : Option Nat :=
  if 48 ≤ b && b ≤ 57 then some (b.toNat - 48) else none

/-- Reads exactly the given bytes as digits. -/
def byteDigits? (bs : List UInt8) : Option Nat :=
  bs.foldl (fun n? b => do return 10 * (← n?) + (← byteDigit? b)) (some 0)

/-- Two digits at the start, and what follows them. -/
def twoDigits? : List UInt8 → Option (Nat × List UInt8)
  | a :: b :: rest => do return (10 * (← byteDigit? a) + (← byteDigit? b), rest)
  | _ => none

/-! ## Dates -/

/-- The date that the first ten bytes write. -/
def dateAtStart (bs : List UInt8) : Except ReadError Date := do
  if bs.length < 10 then throw .tooShort
  let some year := byteDigits? (bs.take 4) | throw .yearCharacter
  if bs[4]? ≠ some 45 then throw .dateSeparator
  let some month := byteDigits? ((bs.drop 5).take 2) | throw .monthCharacter
  if bs[7]? ≠ some 45 then throw .dateSeparator
  let some day := byteDigits? ((bs.drop 8).take 2) | throw .dayCharacter
  if month < 1 ∨ 12 < month then throw .monthRange
  if day < 1 ∨ Date.daysInMonth year month < day then throw .dayRange
  return ⟨year, month, day⟩

/-! ## Numbers of seconds -/

/-- Numbers above this count milliseconds. -/
def millisecondWatershed : Int :=
  20000000000

/-- The time, in UTC, that lies `seconds` and `micros` after 1970-01-01. -/
def ofTimestamp (seconds : Int) (micros : Nat) : Except ReadError DateTime := do
  if seconds ≤ -wordLimit 64 then throw .tooSmall
  let (seconds, extra) : Int × Nat :=
    if seconds.natAbs ≤ millisecondWatershed.natAbs then (seconds, 0)
    else (seconds.fdiv 1000, (seconds.fmod 1000).toNat * 1000)
  let total := micros + extra
  let seconds := seconds + (total / 1000000 : Nat)
  if seconds < -62167219200 then throw .tooSmall
  if 253402300799 < seconds then throw .tooLarge
  return ofLocalMicros (seconds * 1000000 + (total % 1000000 : Nat)) (some 0)

/-- The largest integer that is not above a finite value, kept to 64 bits. -/
def floorWord (x : Binary64) : Int :=
  match x with
  | .nan => 0
  | .infinite s => if s then -wordLimit 64 else wordLimit 64 - 1
  | .finite .. =>
    match x.toRat? with
    | some q => max (-wordLimit 64) (min (wordLimit 64 - 1) q.floor)
    | none => 0

/-- A part of a second in microseconds, a half going up. -/
def partMicros (x : Binary64) : Nat :=
  (((x * 1000000).toRat?.getD 0) + 1 / 2).floor.toNat

/-- The fraction of a value, taken without its sign, in microseconds. -/
def fractionMicros (x : Binary64) : Nat :=
  match x.toRat? with
  | some q =>
    let a := if q < 0 then -q else q
    partMicros (Binary64.ofRat (a - a.floor))
  | none => 0

/-- A number of seconds given as a floating point number. -/
def ofSeconds (x : Binary64) : Except ReadError DateTime :=
  if x.isNaN then .error .notANumber else ofTimestamp (floorWord x) (fractionMicros x)

/-- A written number with a fraction: seconds, or milliseconds beyond the watershed.  What is left of
it above the last full second is counted in microseconds, a half going up. -/
def ofFraction (x : Binary64) : Except ReadError DateTime :=
  let beyond := Binary64.lt (Binary64.ofInt millisecondWatershed) (if x.isNegative then -x else x)
  let x := if beyond then x / 1000 else x
  let seconds := floorWord x
  ofTimestamp seconds (partMicros (x - Binary64.ofInt seconds))

/-- A number as digits with an optional sign, and a fraction if it has a point. -/
inductive NumberText
  | whole (n : Int)
  | fraction (x : Binary64)

/-- Reads a decimal without exponent; nothing else is a number here. -/
def numberText? (bs : List UInt8) : Option NumberText :=
  let (negative, body) :=
    match bs with
    | 45 :: rest => (true, rest)
    | 43 :: rest => (false, rest)
    | _ => (false, bs)
  let whole := body.takeWhile fun b => (byteDigit? b).isSome
  match whole, body.drop whole.length with
  | [], _ => none
  | _, [] => do
    let n ← byteDigits? whole
    if n < twoTo 63 then some (.whole (if negative then -(n : Int) else n)) else none
  | _, 46 :: part => do
    let n ← byteDigits? whole
    let f ← byteDigits? part
    if n < twoTo 63 then
      some (.fraction (Decimal.toBinary64 negative (n * tenTo part.length + f) (-part.length)))
    else none
  | _, _ => none

/-! ## Date with time of day -/

/-- Hours, minutes and optional seconds with a fraction, of which six digits count. -/
def clock? (bs : List UInt8) : Option ((Nat × Nat × Nat × Nat) × List UInt8) := do
  let (hour, rest) ← twoDigits? bs
  let 58 :: rest := rest | none
  let (minute, rest) ← twoDigits? rest
  if 23 < hour ∨ 59 < minute then none
  else
    match rest with
    | 58 :: rest =>
      let (second, rest) ← twoDigits? rest
      if 59 < second then none
      else
        match rest with
        | p :: part =>
          if p = 46 ∨ p = 44 then
            let digits := part.takeWhile fun b => (byteDigit? b).isSome
            if digits.isEmpty then none
            else
              let six := (digits ++ List.replicate 6 48).take 6
              let micro ← byteDigits? six
              some ((hour, minute, second, micro), part.drop digits.length)
          else some ((hour, minute, second, 0), rest)
        | [] => some ((hour, minute, second, 0), [])
    | _ => some ((hour, minute, 0, 0), rest)

/-- Nothing, the letter Z, or a sign with hours and minutes. -/
def zone? (bs : List UInt8) : Option (Option Int) :=
  let signed := fun (sign : Int) (rest : List UInt8) => do
    let (hours, rest) ← twoDigits? rest
    let rest := match rest with
      | 58 :: r => r
      | r => r
    let (minutes, rest) ← twoDigits? rest
    let seconds := hours * 3600 + minutes * 60
    if 59 < minutes ∨ 86400 ≤ seconds ∨ rest ≠ [] then none
    else some (some (sign * (seconds : Int)))
  match bs with
  | [] => some none
  | [90] => some (some 0)
  | [122] => some (some 0)
  | 43 :: rest => signed 1 rest
  | 45 :: rest => signed (-1) rest
  | 226 :: 136 :: 146 :: rest => signed (-1) rest
  | _ => none

/-- A date, a separator, a clock and a zone. -/
def full? (bs : List UInt8) : Option DateTime := do
  let date ← (dateAtStart bs).toOption
  let sep ← bs[10]?
  if sep = 84 ∨ sep = 116 ∨ sep = 32 ∨ sep = 95 then
    let ((hour, minute, second, micro), rest) ← clock? (bs.drop 11)
    let offset ← zone? rest
    some ⟨date, hour, minute, second, micro, offset⟩
  else none

/-- The time that a text writes. -/
def read (bs : List UInt8) : Except ReadError DateTime :=
  let asNumber : Except ReadError DateTime :=
    match numberText? bs with
    | some (.whole n) => ofTimestamp n 0
    | some (.fraction x) => ofFraction x
    | none => .error .tooShort
  match full? bs, asNumber with
  | some t, _ => .ok t
  | none, .ok t => .ok t
  | none, .error _ =>
    match dateAtStart bs with
    | .ok date =>
      if 10 < bs.length then .error .extraCharacters else .ok ⟨date, 0, 0, 0, 0, none⟩
    | .error e =>
      match numberText? bs, asNumber with
      | some (.whole _), .error reason => .error reason
      | _, _ => .error e

end MetricsAgent.DateTime
