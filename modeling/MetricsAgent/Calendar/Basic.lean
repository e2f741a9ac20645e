import MetricsAgent.Number.Decimal

/-!
# Dates and times

Dates of the proleptic Gregorian calendar, times of day to the microsecond, and offsets from UTC in
seconds.  A date converts to the number of days since 1970-01-01 and back, so an instant is a count
of microseconds.
-/

namespace MetricsAgent

/-! ## Dates -/

/-- A calendar date. -/
structure Date where
  year : Nat
  month : Nat
  day : Nat
  deriving DecidableEq, Repr, Inhabited

namespace Date

def isLeapYear (y : Nat) : Bool :=
  y % 4 == 0 && (y % 100 != 0 || y % 400 == 0)

/-- Number of days of a month; zero for what is no month. -/
def daysInMonth (y m : Nat) : Nat :=
  if m = 2 then (if isLeapYear y then 29 else 28)
  else if m = 4 ∨ m = 6 ∨ m = 9 ∨ m = 11 then 30
  else if 1 ≤ m ∧ m ≤ 12 then 31
  else 0

/-- Days from 1970-01-01 to a date, counting a year from its March. -/
def toDays (d : Date) : Int :=
  let y : Int := if d.month ≤ 2 then (d.year : Int) - 1 else d.year
  let era := y.fdiv 400
  let yoe := y - era * 400
  let mp : Int := ((d.month : Int) + 9) % 12
  let doy := (153 * mp + 2) / 5 + d.day - 1
  let doe := yoe * 365 + yoe / 4 - yoe / 100 + doy
  era * 146097 + doe - 719468

/-- The date that lies a number of days after 1970-01-01. -/
def ofDays (days : Int) : Date :=
  let z := days + 719468
  let era := z.fdiv 146097
  let doe := z - era * 146097
  let yoe := (doe - doe / 1460 + doe / 36524 - doe / 146096) / 365
  let doy := doe - (365 * yoe + yoe / 4 - yoe / 100)
  let mp := (5 * doy + 2) / 153
  let d := doy - (153 * mp + 2) / 5 + 1
  let m := if mp < 10 then mp + 3 else mp - 9
  let y := yoe + era * 400 + (if m ≤ 2 then 1 else 0)
  ⟨y.toNat, m.toNat, d.toNat⟩

/-- Year, month and day, joined by hyphens. -/
def text (d : Date) : String :=
  padZeros 4 d.year ++ "-" ++ padZeros 2 d.month ++ "-" ++ padZeros 2 d.day

end Date

/-! ## Times -/

/-- A time of day on a date, with an offset from UTC in seconds if it has one. -/
structure DateTime where
  date : Date
  hour : Nat
  minute : Nat
  second : Nat
  micro : Nat
  offset : Option Int
  deriving DecidableEq, Repr, Inhabited

namespace DateTime

/-- Microseconds from 1970-01-01 00:00 on the local clock. -/
def localMicros (t : DateTime) : Int :=
  ((t.date.toDays * 86400 + (t.hour * 3600 + t.minute * 60 + t.second : Nat)) * 1000000) + t.micro

/-- Microseconds from 1970-01-01 00:00 UTC, for a time with an offset. -/
def instant? (t : DateTime) : Option Int :=
  t.offset.map fun o => t.localMicros - o * 1000000

/-- The time of a count of microseconds on the local clock of an offset. -/
def ofLocalMicros (micros : Int) (offset : Option Int) : DateTime :=
  let seconds := micros.fdiv 1000000
  let days := seconds.fdiv 86400
  let s := (seconds - days * 86400).toNat
  ⟨Date.ofDays days, s / 3600, s / 60 % 60, s % 60, (micros - seconds * 1000000).toNat, offset⟩

/-- A sign, hours and minutes, and seconds where there are any. -/
def offsetText (o : Int) : String :=
  let a := o.natAbs
  (if o < 0 then "-" else "+") ++ padZeros 2 (a / 3600) ++ ":" ++ padZeros 2 (a / 60 % 60)
    ++ (if a % 60 = 0 then "" else ":" ++ padZeros 2 (a % 60))

/-- Date and clock joined by a letter, the fraction in six digits where there is one. -/
def clockText (joint : String) (t : DateTime) : String :=
  t.date.text ++ joint ++ padZeros 2 t.hour ++ ":" ++ padZeros 2 t.minute ++ ":"
    ++ padZeros 2 t.second ++ (if t.micro = 0 then "" else "." ++ padZeros 6 t.micro)

/-- ISO 8601 with a numeric offset. -/
def isoText (t : DateTime) : String :=
  t.clockText "T" ++ (t.offset.map offsetText).getD ""

/-- ISO 8601 in documents: UTC is written as the letter Z, another offset in hours and minutes. -/
def documentText (t : DateTime) : String :=
  t.clockText "T"
    ++ (t.offset.map fun o =>
      if o = 0 then "Z" else offsetText (if o < 0 then -(-o / 60 * 60) else o / 60 * 60)).getD ""

/-- A number of seconds as the nearest number of microseconds, a half going to even. -/
def microsOfSeconds (q : Rat) : Int :=
  let n : Int := roundHalfEven (q.num.natAbs * 1000000) q.den
  if q < 0 then -n else n

end DateTime

end MetricsAgent
