import DepositTrail.Text.Numeral
import DepositTrail.Text.Quoted
import DepositTrail.Text.Utf8

set_option autoImplicit false

/-! # Hexadecimal bytes

Two digits of either case stand for one byte. The digits are looked for in the UTF-8 bytes
of a text: lengths and positions count bytes, and a byte that is no digit is shown as the
character of its number.

`Octets n` is a string of exactly `n` bytes; a contract address has 20 and a log topic 32.
-/

namespace DepositTrail

/-- Why a text is no string of hexadecimal bytes. -/
inductive HexProblem
  | oddLength
  | wrongLength
  | badDigit (shown : Char) (position : Nat)
deriving Repr, DecidableEq

namespace Hex

def digit (n : Nat) : Char := Nat.digitChar n

def ofByte (b : UInt8) : Text := [digit (b.toNat / 16), digit (b.toNat % 16)]

def encode (bytes : List UInt8) : Text := bytes.flatMap ofByte

def digitAt (c : Char) (position : Nat) : Except HexProblem Nat :=
  match Text.hexValue? c with
  | some v => .ok v
  | none => .error (.badDigit c position)

/-- Pairs of digits from a position on; a last digit without a partner is left out. -/
def decodeFrom : Nat → Text → Except HexProblem (List UInt8)
  | position, a :: b :: t => do
      let high ← digitAt a position
      let low ← digitAt b (position + 1)
      let bytes ← decodeFrom (position + 2) t
      return UInt8.ofNat (16 * high + low) :: bytes
  | _, _ => .ok []

/-- The UTF-8 bytes of a text, each as the character of its number. -/
def bytewise (t : Text) : Text := t.utf8.map fun b => Char.ofNat b.toNat

/-- Read a string of bytes of any length, after at most one opening `0x`. -/
def decode (t : Text) : Except HexProblem (List UInt8) :=
  let digits := bytewise (Text.dropOpening ['0', 'x'] t)
  if digits.length % 2 = 0 then decodeFrom 0 digits else .error .oddLength

end Hex

/-- A string of exactly `n` bytes. -/
structure Octets (n : Nat) where
  toList : List UInt8
  length_eq : toList.length = n
deriving Repr, DecidableEq

namespace Octets

/-- Small hexadecimal digits after `0x`. -/
def toText {n : Nat} (o : Octets n) : Text := ['0', 'x'] ++ Hex.encode o.toList

/-- Read exactly `n` bytes, after at most one opening `0x` or `0X`. -/
def read (n : Nat) (t : Text) : Except HexProblem (Octets n) :=
  let digits := Hex.bytewise t
  if digits.length % 2 = 1 then .error .oddLength
  else
    let digits := match Text.dropOpening? ['0', 'x'] digits with
      | some rest => rest
      | none => Text.dropOpening ['0', 'X'] digits
    if digits.length ≠ 2 * n then .error .wrongLength
    else
      match Hex.decodeFrom 0 digits with
      | .error e => .error e
      | .ok bytes => if h : bytes.length = n then .ok ⟨bytes, h⟩ else .error .wrongLength

def problemMessage : HexProblem → String
  | .oddLength => "odd number of digits"
  | .wrongLength => "invalid string length"
  | .badDigit c position =>
      "invalid character " ++ String.ofList (Text.quotedChar c) ++ " at position " ++
        toString position

end Octets

end DepositTrail
