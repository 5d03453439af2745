import DepositTrail.Binary64

set_option autoImplicit false

/-! # Cells of an integer column

A column for whole numbers takes what it is given and makes a whole number of it where nothing
is lost by that: text that is written like a number, and a fraction without a fractional part,
as long as the result has 63 bits and a sign. All else stays what it was, and is found out only
when it is read.
-/

namespace DepositTrail.Checkpoint

/-- What a cell of the column holds. A fraction without a value is beyond all bounds. -/
inductive Cell
  | whole (n : Int)
  | fraction (x : Option Binary64)
  | text (t : Text)
deriving Repr, DecidableEq

namespace Cell

/-- Whole numbers in a cell lie below this bound and not below its negative. -/
def bound : Int := 0x8000000000000000

/-- A fraction in the column: a whole number if it is one strictly between the bounds. -/
def ofFraction (x : Binary64) : Cell :=
  match x.whole? with
  | none => .fraction (some x)
  | some n =>
      let i : Int := if x.negative then -(n : Int) else n
      if -bound < i ∧ i < bound then .whole i else .fraction (some x)

def ofInt (i : Int) : Cell :=
  if -bound ≤ i ∧ i < bound then .whole i
  else .fraction (Binary64.ofNat? (decide (i < 0)) i.natAbs)

def isSpace (c : Char) : Bool := c = ' ' || ('\x09' ≤ c && c ≤ '\x0d')

def exponent? : Text → Option Int
  | [] => some 0
  | c :: t =>
      if c = 'e' ∨ c = 'E' then
        let (sign, digits) : Int × Text := match t with
          | '-' :: d => (-1, d)
          | '+' :: d => (1, d)
          | d => (1, d)
        if digits ≠ [] ∧ digits.all Text.isDigit then
          some (sign * (Text.valueOf digits : Nat))
        else none
      else none

/-- A number with a point or an exponent. Beyond a power of 400 the result is too small or too
large to matter. -/
def decimal (negative : Bool) (digits : Text) (power : Int) : Cell :=
  let n := Text.valueOf digits
  let x := if n = 0 then some (Binary64.zero negative)
    else if power < 0 then
      if (400 + digits.length : Int) < -power then some (Binary64.zero negative)
      else Binary64.ofRatio? negative n (Nat.pow 10 power.natAbs)
    else if 400 < power then none
    else Binary64.ofRatio? negative (n * Nat.pow 10 power.natAbs) 1
  match x with
  | some x => ofFraction x
  | none => .fraction none

def ofText (t : Text) : Cell :=
  let trimmed := ((t.dropWhile isSpace).reverse.dropWhile isSpace).reverse
  let (negative, rest) := match trimmed with
    | '-' :: r => (true, r)
    | '+' :: r => (false, r)
    | r => (false, r)
  let whole := rest.takeWhile Text.isDigit
  let rest := rest.dropWhile Text.isDigit
  let (point, decimals, rest) := match rest with
    | '.' :: r => (true, r.takeWhile Text.isDigit, r.dropWhile Text.isDigit)
    | r => (false, [], r)
  if whole = [] ∧ decimals = [] then .text t
  else
    match exponent? rest with
    | none => .text t
    | some e =>
        if ¬ point ∧ rest = [] then
          ofInt (if negative then -(Text.valueOf whole : Int) else Text.valueOf whole)
        else decimal negative (whole ++ decimals) (e - decimals.length)

end Cell

end DepositTrail.Checkpoint
