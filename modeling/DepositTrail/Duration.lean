import DepositTrail.Text.Numeral

set_option autoImplicit false

/-! # Durations

A duration is a whole number of nanoseconds up to a greatest one of `2 ^ 64` seconds less a
nanosecond. Doubling stops there. In writing, the unit is the greatest of s, ms, µs and ns
that does not exceed the duration, with as many decimal places as needed.
-/

namespace DepositTrail

def nanosPerSecond : Nat := 1000000000

def nanosPerMilli : Nat := 1000000

def nanosPerMicro : Nat := 1000

def maxNanos : Nat := UInt64.size * nanosPerSecond - 1

structure Duration where
  nanos : Nat
  nanos_le : nanos ≤ maxNanos
deriving Repr, DecidableEq

namespace Duration

/-- The duration nearest to a number of nanoseconds. -/
def clamp (n : Nat) : Duration := ⟨min n maxNanos, Nat.min_le_right n maxNanos⟩

def zero : Duration := clamp 0

def ofMillis (n : UInt64) : Duration := clamp (n.toNat * nanosPerMilli)

def ofSeconds (n : UInt64) : Duration := clamp (n.toNat * nanosPerSecond)

/-- Twice the duration, or the greatest one. -/
def double (d : Duration) : Duration := clamp (2 * d.nanos)

def millis (d : Duration) : Nat := d.nanos / nanosPerMilli

def seconds (d : Duration) : Nat := d.nanos / nanosPerSecond

/-- The decimal places of `rest / 10 ^ places`, without zeros at the end. -/
def decimals (rest places : Nat) : Text :=
  let digits := Text.decimal rest
  let padded := List.replicate (places - digits.length) '0' ++ digits
  (padded.reverse.dropWhile (· = '0')).reverse

/-- So many nanoseconds in units of `10 ^ places` of them. -/
def inUnit (nanos places : Nat) (unit : String) : String :=
  let fraction := decimals (nanos % Nat.pow 10 places) places
  let point := if fraction = [] then [] else '.' :: fraction
  String.ofList (Text.decimal (nanos / Nat.pow 10 places) ++ point) ++ unit

def toText (d : Duration) : String :=
  if nanosPerSecond ≤ d.nanos then inUnit d.nanos 9 "s"
  else if nanosPerMilli ≤ d.nanos then inUnit d.nanos 6 "ms"
  else if nanosPerMicro ≤ d.nanos then inUnit d.nanos 3 "µs"
  else inUnit d.nanos 0 "ns"

end Duration

end DepositTrail
