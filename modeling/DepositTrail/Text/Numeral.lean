import DepositTrail.Text

set_option autoImplicit false

/-! # Numerals

Natural numbers in decimal and hexadecimal. A numeral may begin with one plus sign; then
come digits only, as many leading zeros as one likes, and the value stays below a bound.
The reader works from left to right and reports the first thing that is wrong, so a letter
is reported only if the digits before it have not already passed the bound.
-/

namespace DepositTrail

namespace Text

/-- The decimal numeral of a number, without leading zeros. -/
def decimal (n : Nat) : Text := Nat.toDigits 10 n

def isDigit (c : Char) : Bool := '0' ≤ c && c ≤ '9'

/-- The number that decimal digits are, however many there are. -/
def valueOf (digits : Text) : Nat :=
  digits.foldl (fun n c => 10 * n + (c.toNat - '0'.toNat)) 0

def hexValue? (c : Char) : Option Nat :=
  if '0' ≤ c ∧ c ≤ '9' then some (c.toNat - '0'.toNat)
  else if 'a' ≤ c ∧ c ≤ 'f' then some (c.toNat - 'a'.toNat + 10)
  else if 'A' ≤ c ∧ c ≤ 'F' then some (c.toNat - 'A'.toNat + 10)
  else none

def digitValue? (base : Nat) (c : Char) : Option Nat :=
  (hexValue? c).filter (· < base)

end Text

inductive NumeralProblem
  | empty
  | badDigit
  | tooLarge
deriving Repr, DecidableEq

def NumeralProblem.message : NumeralProblem → String
  | .empty => "cannot parse integer from empty string"
  | .badDigit => "invalid digit found in string"
  | .tooLarge => "number too large to fit in target type"

namespace Text

/-- Read digits after a value, which must stay below `bound`. -/
def readDigits (base bound : Nat) : Nat → Text → Except NumeralProblem Nat
  | value, [] => .ok value
  | value, c :: t =>
      match digitValue? base c with
      | none => .error .badDigit
      | some d =>
          if base * value + d < bound then readDigits base bound (base * value + d) t
          else .error .tooLarge

/-- Read a numeral of the given base whose value lies below `bound`. -/
def readNumeral (base bound : Nat) : Text → Except NumeralProblem Nat
  | [] => .error .empty
  | ['+'] => .error .badDigit
  | '+' :: t => readDigits base bound 0 t
  | t => readDigits base bound 0 t

end Text

end DepositTrail
