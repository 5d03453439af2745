import DepositTrail.Text.Numeral

set_option autoImplicit false

/-! # Binary fractions of 53 bits

The numbers that a reader of decimal fractions can hold: `mantissa * 2 ^ exponent` with a
mantissa below `2 ^ 53` and an exponent between -1074 and 971, with a sign. Everything is
done in exact arithmetic on natural numbers. `ofRatio?` rounds a quotient to the nearest of
them, a tie going to the even mantissa, and has no value when the quotient is too large;
`toText` writes the shortest decimal that rounds back to the number.
-/

namespace DepositTrail

/-- A binary fraction with a sign. -/
structure Binary64 where
  negative : Bool
  mantissa : Nat
  exponent : Int
deriving Repr, DecidableEq

namespace Binary64

/-! ## Rounding -/

def minExponent : Int := -1074

def maxExponent : Int := 971

/-- Mantissas lie below this bound, the number `2 ^ 53`. -/
def mantissaBound : Nat := 0x20000000000000

def zero (negative : Bool) : Binary64 := ⟨negative, 0, minExponent⟩

/-- The quotient of two numbers divided by `2 ^ q`, again as a quotient. -/
def scale (num den : Nat) (q : Int) : Nat × Nat :=
  if 0 ≤ q then (num, den * Nat.pow 2 q.toNat) else (num * Nat.pow 2 (-q).toNat, den)

/-- The quotient rounded to a natural number, a tie going to the even one. -/
def roundEven (num den : Nat) : Nat :=
  let d := num / den
  let twice := 2 * (num % den)
  if den < twice ∨ (den = twice ∧ d % 2 = 1) then d + 1 else d

/-- The exponent with which the mantissa of a positive quotient has 53 bits, or the least
exponent. -/
def exponentOf (num den : Nat) : Int :=
  let q : Int := (num.log2 : Int) - den.log2 - 53
  let (n, d) := scale num den q
  max minExponent (if n / d < mantissaBound then q else q + 1)

/-- The nearest number to a quotient, or none when it is too large. -/
def ofRatio? (negative : Bool) (num den : Nat) : Option Binary64 :=
  if num = 0 then some (zero negative)
  else
    let q := exponentOf num den
    let (n, d) := scale num den q
    let m := roundEven n d
    let x : Binary64 := if m < mantissaBound then ⟨negative, m, q⟩ else ⟨negative, m / 2, q + 1⟩
    if x.exponent ≤ maxExponent then some x else none

/-- The size of a number as a quotient. -/
def ratio (x : Binary64) : Nat × Nat :=
  if 0 ≤ x.exponent then (x.mantissa * Nat.pow 2 x.exponent.toNat, 1)
  else (x.mantissa, Nat.pow 2 (-x.exponent).toNat)

def mul? (x y : Binary64) : Option Binary64 :=
  ofRatio? x.negative (x.ratio.1 * y.ratio.1) (x.ratio.2 * y.ratio.2)

def div? (x y : Binary64) : Option Binary64 :=
  ofRatio? x.negative (x.ratio.1 * y.ratio.2) (x.ratio.2 * y.ratio.1)

def ofNat? (negative : Bool) (n : Nat) : Option Binary64 := ofRatio? negative n 1

/-- The whole number that the size of `x` is, if it is one. -/
def whole? (x : Binary64) : Option Nat :=
  if x.ratio.1 % x.ratio.2 = 0 then some (x.ratio.1 / x.ratio.2) else none

/-! ## The shortest decimal -/

/-- The quotient times ten to a power, as a quotient. -/
def scaleTen (num den : Nat) (power : Int) : Nat × Nat :=
  if 0 ≤ power then (num * Nat.pow 10 power.toNat, den) else (num, den * Nat.pow 10 (-power).toNat)

/-- How often a quotient below one must be multiplied by ten to reach one. -/
def shiftsToOne (num den : Nat) : Nat → Nat
  | 0 => 0
  | fuel + 1 => if den ≤ num then 0 else 1 + shiftsToOne (10 * num) den fuel

/-- The place of the first digit of a positive quotient: it is at least ten to this power. -/
def leadingPlace (num den : Nat) : Int :=
  if den ≤ num then (Text.decimal (num / den)).length - 1
  else -(shiftsToOne num den 400 : Int)

/-- Of the two neighbours of `x` with the given last place, the nearer one that rounds to `x`. -/
def neighbour? (x : Binary64) (place : Int) : Option Nat :=
  let (n, d) := scaleTen x.ratio.1 x.ratio.2 (-place)
  let reads (digits : Nat) : Bool :=
    let (a, b) := scaleTen digits 1 place
    ofRatio? x.negative a b = some x
  let low := n / d
  let nearer := roundEven n d
  let farther := if nearer = low then low + 1 else low
  if reads nearer then some nearer else if reads farther then some farther else none

/-- Try one digit more until a decimal rounds to `x`. -/
def shortestFrom (x : Binary64) (first : Int) : Nat → Nat → Nat × Int
  | 0, _ => (0, 0)
  | fuel + 1, digits =>
      let place := first - digits
      match neighbour? x place with
      | some d => (d, place)
      | none => shortestFrom x first fuel (digits + 1)

def dropZeros : Nat → Nat × Int → Nat × Int
  | 0, r => r
  | fuel + 1, (d, place) =>
      if d ≠ 0 ∧ d % 10 = 0 then dropZeros fuel (d / 10, place + 1) else (d, place)

/-- The digits and the last place of the shortest decimal that rounds to a positive number. -/
def shortest (x : Binary64) : Nat × Int :=
  dropZeros 20 (shortestFrom x (leadingPlace x.ratio.1 x.ratio.2) 18 0)

/-- Digits written with a point or an exponent: plainly when the point stands at most sixteen
digits after the first one or at most four zeros before it, and always as a fraction. -/
def layout (digits : Text) (place : Int) : Text :=
  let point : Int := digits.length + place
  if 0 ≤ place ∧ point ≤ 16 then
    digits ++ List.replicate place.toNat '0' ++ ['.', '0']
  else if 0 < point ∧ point ≤ 16 then
    digits.take point.toNat ++ '.' :: digits.drop point.toNat
  else if -5 < point ∧ point ≤ 0 then
    ['0', '.'] ++ List.replicate (-point).toNat '0' ++ digits
  else
    let exponent := point - 1
    let power := (if exponent < 0 then ['-'] else []) ++ Text.decimal exponent.natAbs
    match digits with
    | [d] => d :: 'e' :: power
    | d :: rest => d :: '.' :: rest ++ 'e' :: power
    | [] => []

/-- The shortest decimal text of a number. -/
def toText (x : Binary64) : Text :=
  let sign := if x.negative then ['-'] else []
  if x.mantissa = 0 then sign ++ ['0', '.', '0']
  else
    let (digits, place) := x.shortest
    sign ++ layout (Text.decimal digits) place

end Binary64

end DepositTrail
