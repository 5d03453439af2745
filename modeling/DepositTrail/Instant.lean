import DepositTrail.Duration

set_option autoImplicit false

/-! # Instants

A moment in time is kept as the second since the beginning of 1970 in universal time and the
nanoseconds after it; within a leap second these run on past one second. It is written as a
calendar date and a time of day with the offset `+00:00`, and with three, six or nine decimals
if it has any.

What is read may state another offset of whole minutes below one day, and may stand apart from
its date by a blank or either case of the letter T. The calendar is the Gregorian one, counted
back before its introduction; its years begin in March for the computation, so that the leap
day is the last day of a year.
-/

namespace DepositTrail

structure Instant where
  second : Int
  nanos : Nat
deriving Repr, DecidableEq

namespace Instant

/-! ## Calendar -/

/-- The day of a date, counted from the first of January 1970. -/
def dayOfDate (year : Int) (month day : Nat) : Int :=
  let y : Int := if month ≤ 2 then year - 1 else year
  let era := y.fdiv 400
  let yearOfEra := (y - era * 400).toNat
  let dayOfYear := (153 * ((month + 9) % 12) + 2) / 5 + day - 1
  let dayOfEra := yearOfEra * 365 + yearOfEra / 4 - yearOfEra / 100 + dayOfYear
  era * 146097 + dayOfEra - 719468

def dateOfDay (day : Int) : Int × Nat × Nat :=
  let z := day + 719468
  let era := z.fdiv 146097
  let dayOfEra := (z - era * 146097).toNat
  let yearOfEra := (dayOfEra - dayOfEra / 1460 + dayOfEra / 36524 - dayOfEra / 146096) / 365
  let dayOfYear := dayOfEra - (365 * yearOfEra + yearOfEra / 4 - yearOfEra / 100)
  let m := (5 * dayOfYear + 2) / 153
  let month := if m < 10 then m + 3 else m - 9
  let year : Int := yearOfEra + era * 400 + if month ≤ 2 then 1 else 0
  (year, month, dayOfYear - (153 * m + 2) / 5 + 1)

def isLeapYear (year : Nat) : Bool := year % 4 = 0 && (year % 100 ≠ 0 || year % 400 = 0)

def daysInMonth (year month : Nat) : Nat :=
  if month = 2 then if isLeapYear year then 29 else 28
  else if month = 4 ∨ month = 6 ∨ month = 9 ∨ month = 11 then 30
  else 31

/-! ## Reading -/

/-- The value of exactly so many digits, and what follows them. -/
def takeNumber? (digits : Nat) (t : Text) : Option (Nat × Text) :=
  let d := t.take digits
  if d.length = digits ∧ d.all Text.isDigit then
    some (Text.valueOf d, t.drop digits)
  else none

def after? (c : Char) : Text → Option Text
  | [] => none
  | x :: t => if x = c then some t else none

/-- The nanoseconds of a fraction, if a point follows; digits after the ninth do not count. -/
def takeNanos? : Text → Option (Nat × Text)
  | '.' :: t =>
      let digits := t.takeWhile Text.isDigit
      let kept := digits.take 9
      if kept = [] then none
      else
        some (Text.valueOf kept * Nat.pow 10 (9 - kept.length), t.dropWhile Text.isDigit)
  | t => some (0, t)

/-- The offset from universal time in minutes. -/
def takeOffset? : Text → Option (Int × Text)
  | [] => none
  | c :: t =>
      if c = 'Z' ∨ c = 'z' then some (0, t)
      else do
        let sign : Int ← if c = '+' then some 1 else if c = '-' ∨ c = '−' then some (-1) else none
        let (hours, t) ← takeNumber? 2 t
        let t ← after? ':' t
        let (minutes, t) ← takeNumber? 2 t
        if hours < 24 ∧ minutes < 60 then some (sign * (60 * hours + minutes : Nat), t) else none

def read? (t : Text) : Option Instant := do
  let (year, t) ← takeNumber? 4 t
  let t ← after? '-' t
  let (month, t) ← takeNumber? 2 t
  let t ← after? '-' t
  let (day, t) ← takeNumber? 2 t
  let t ← match t with
    | c :: t => if c = 'T' ∨ c = 't' ∨ c = ' ' then some t else none
    | [] => none
  let (hour, t) ← takeNumber? 2 t
  let t ← after? ':' t
  let (minute, t) ← takeNumber? 2 t
  let t ← after? ':' t
  let (second, t) ← takeNumber? 2 t
  let (nanos, t) ← takeNanos? t
  let (offset, t) ← takeOffset? t
  if t = [] ∧ 1 ≤ month ∧ month ≤ 12 ∧ 1 ≤ day ∧ day ≤ daysInMonth year month ∧ hour < 24 ∧
      minute < 60 ∧ second ≤ 60 then
    let clock : Int := (3600 * hour + 60 * minute + min second 59 : Nat)
    some ⟨86400 * dayOfDate year month day + clock - 60 * offset,
      if second = 60 then nanos + nanosPerSecond else nanos⟩
  else none

/-! ## Writing -/

def padded (width n : Nat) : Text :=
  let digits := Text.decimal n
  List.replicate (width - digits.length) '0' ++ digits

/-- A year: four digits, or a sign and at least four digits outside of them. -/
def writeYear (year : Int) : Text :=
  if 0 ≤ year ∧ year ≤ 9999 then padded 4 year.toNat
  else (if year < 0 then '-' else '+') :: padded 4 year.natAbs

def writeNanos (nanos : Nat) : Text :=
  if nanos = 0 then []
  else if nanos % nanosPerMilli = 0 then '.' :: padded 3 (nanos / nanosPerMilli)
  else if nanos % nanosPerMicro = 0 then '.' :: padded 6 (nanos / nanosPerMicro)
  else '.' :: padded 9 nanos

def toText (i : Instant) : Text :=
  let day := i.second.fdiv 86400
  let clock := (i.second - 86400 * day).toNat
  let (year, month, dayOfMonth) := dateOfDay day
  let leap := if nanosPerSecond ≤ i.nanos then 1 else 0
  writeYear year ++ '-' :: padded 2 month ++ '-' :: padded 2 dayOfMonth ++
    'T' :: padded 2 (clock / 3600) ++ ':' :: padded 2 (clock / 60 % 60) ++
    ':' :: padded 2 (clock % 60 + leap) ++ writeNanos (i.nanos - nanosPerSecond * leap) ++
    ['+', '0', '0', ':', '0', '0']

end Instant

end DepositTrail
