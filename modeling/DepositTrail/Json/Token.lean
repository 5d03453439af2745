import DepositTrail.Json
import DepositTrail.Text.Utf8

set_option autoImplicit false

/-! # JSON tokens

The first step of reading JSON: the text is cut into brackets, commas, colons, strings and
the other scalars, and the blanks between them are dropped. A defect inside a token does not
stop the cutting by itself, because what it means depends on where the token stands: a value
that is wanted must be sound in every respect, while one that is only passed over may be a
string with unpaired surrogates or a number beyond all bounds. So a token carries its value or
the reason it has none, and a token that does not even have an end carries the reason for
either use and is the last of the list.

`readString` and `scanNumber` look only at the text they are given; both report the first
defect from the left.
-/

namespace DepositTrail.Json

inductive Problem
  | endInList
  | endInObject
  | endInString
  | endInValue
  | expectedColon
  | expectedListCommaOrEnd
  | expectedObjectCommaOrEnd
  | expectedIdent
  | expectedValue
  | invalidEscape
  | invalidNumber
  | numberOutOfRange
  | controlCharacter
  | keyNotString
  | loneSurrogate
  | trailingComma
  | trailingCharacters
  | unfinishedSurrogates
  | tooDeep
deriving Repr, DecidableEq

def Problem.message : Problem → String
  | .endInList => "EOF while parsing a list"
  | .endInObject => "EOF while parsing an object"
  | .endInString => "EOF while parsing a string"
  | .endInValue => "EOF while parsing a value"
  | .expectedColon => "expected `:`"
  | .expectedListCommaOrEnd => "expected `,` or `]`"
  | .expectedObjectCommaOrEnd => "expected `,` or `\x7d`"
  | .expectedIdent => "expected ident"
  | .expectedValue => "expected value"
  | .invalidEscape => "invalid escape"
  | .invalidNumber => "invalid number"
  | .numberOutOfRange => "number out of range"
  | .controlCharacter => "control character (\\u0000-\\u001F) found while parsing a string"
  | .keyNotString => "key must be a string"
  | .loneSurrogate => "lone leading surrogate in hex escape"
  | .trailingComma => "trailing comma"
  | .trailingCharacters => "trailing characters"
  | .unfinishedSurrogates => "unexpected end of hex escape"
  | .tooDeep => "recursion limit exceeded"

/-- A token. The second part of a string is the reason why it has no end; the two parts of a
broken token are the reasons for a value that is wanted and for one that is passed over. -/
inductive Token
  | openList
  | closeList
  | openObject
  | closeObject
  | comma
  | colon
  | scalar (value : Except Problem Json)
  | string (text : Except Problem Text) (endless : Option Problem)
  | broken (wanted passed : Problem)

/-! ## Strings -/

def simpleEscape? : Char → Option Char
  | '"' => some '"'
  | '\\' => some '\\'
  | '/' => some '/'
  | 'b' => some '\x08'
  | 'f' => some '\x0c'
  | 'n' => some '\x0a'
  | 'r' => some '\x0d'
  | 't' => some '\x09'
  | _ => none

def hexQuad? (a b c d : Char) : Option Nat := do
  let a ← Text.hexValue? a
  let b ← Text.hexValue? b
  let c ← Text.hexValue? c
  let d ← Text.hexValue? d
  return 4096 * a + 256 * b + 16 * c + d

/-- What is wrong with an escape by number when fewer than four characters follow: the text
ends in it, unless four bytes do follow and are no digits. -/
def shortQuad (t : Text) : Problem :=
  if 4 ≤ t.utf8.length then .invalidEscape else .endInString

def isLeading (n : Nat) : Bool := 0xd800 ≤ n && n < 0xdc00

def isTrailing (n : Nat) : Bool := 0xdc00 ≤ n && n < 0xe000

/-- The text up to the closing quotation mark. The first argument is the first half of a
surrogate pair just read; only its second half may follow. -/
def readString : Option Nat → Text → Except Problem Text
  | _, [] => .error .endInString
  | _, ['\\'] => .error .endInString
  | some high, '\\' :: 'u' :: a :: b :: c :: d :: t =>
      match hexQuad? a b c d with
      | none => .error .invalidEscape
      | some n =>
          if isTrailing n then
            (readString none t).map
              (Char.ofNat (0x10000 + 1024 * (high - 0xd800) + (n - 0xdc00)) :: ·)
          else .error .loneSurrogate
  | some _, '\\' :: 'u' :: t => .error (shortQuad t)
  | some _, _ :: _ => .error .unfinishedSurrogates
  | none, '"' :: _ => .ok []
  | none, '\\' :: 'u' :: a :: b :: c :: d :: t =>
      match hexQuad? a b c d with
      | none => .error .invalidEscape
      | some n =>
          if isTrailing n then .error .loneSurrogate
          else if isLeading n then readString (some n) t
          else (readString none t).map (Char.ofNat n :: ·)
  | none, '\\' :: 'u' :: t => .error (shortQuad t)
  | none, '\\' :: e :: t =>
      match simpleEscape? e with
      | some c => (readString none t).map (c :: ·)
      | none => .error .invalidEscape
  | none, c :: t =>
      if c < ' ' then .error .controlCharacter else (readString none t).map (c :: ·)

/-- What follows the closing quotation mark, when the string is only passed over. -/
def afterString : Text → Except Problem Text
  | [] => .error .endInString
  | ['\\'] => .error .endInString
  | '"' :: t => .ok t
  | '\\' :: 'u' :: a :: b :: c :: d :: t =>
      match hexQuad? a b c d with
      | some _ => afterString t
      | none => .error .invalidEscape
  | '\\' :: 'u' :: t => .error (shortQuad t)
  | '\\' :: e :: t =>
      match simpleEscape? e with
      | some _ => afterString t
      | none => .error .invalidEscape
  | c :: t => if c < ' ' then .error .controlCharacter else afterString t

/-! ## Numbers -/

/-- A number as it is written: the digits before the point, those after it, and the exponent
with its sign. -/
structure Decimal where
  negative : Bool
  whole : Text
  fraction : Option Text
  exponent : Option (Bool × Text)

/-- Take the digits at the start, of which there must be one. The reasons against it are those
of a wanted number and of one passed over. -/
def takeDigits (t : Text) : Except (Problem × Problem) (Text × Text) :=
  match t.span Text.isDigit with
  | ([], []) => .error (.endInValue, .invalidNumber)
  | ([], _ :: _) => .error (.invalidNumber, .invalidNumber)
  | r => .ok r

def takeFraction : Text → Except (Problem × Problem) (Option Text × Text)
  | '.' :: t => (takeDigits t).map fun r => (some r.1, r.2)
  | t => .ok (none, t)

/-- The exponent, if one follows; its first part tells whether it is negative. -/
def takeExponent : Text → Except (Problem × Problem) (Option (Bool × Text) × Text)
  | c :: t =>
      if c = 'e' ∨ c = 'E' then
        match t with
        | '-' :: t => (takeDigits t).map fun r => (some (true, r.1), r.2)
        | '+' :: t => (takeDigits t).map fun r => (some (false, r.1), r.2)
        | t => (takeDigits t).map fun r => (some (false, r.1), r.2)
      else .ok (none, c :: t)
  | [] => .ok (none, [])

def scanNumber (t : Text) : Except (Problem × Problem) (Decimal × Text) := do
  let (negative, t) := match t with
    | '-' :: t => (true, t)
    | t => (false, t)
  let (whole, t) ← takeDigits t
  if whole.head? = some '0' ∧ whole.length ≠ 1 then .error (.invalidNumber, .invalidNumber)
  let (fraction, t) ← takeFraction t
  let (exponent, t) ← takeExponent t
  return (⟨negative, whole, fraction, exponent⟩, t)

/-- The sizes of negative numbers kept exactly lie up to this bound. -/
def signedBound : Nat := 0x8000000000000000

/-- Append digits to a significand while it stays in one word; the count tells how many fitted. -/
def absorbDigits : Nat → Nat → Text → Nat × Nat
  | significand, count, [] => (significand, count)
  | significand, count, c :: t =>
      let next := 10 * significand + (c.toNat - '0'.toNat)
      if next < UInt64.size then absorbDigits next (count + 1) t else (significand, count)

def powerOfTen? (n : Nat) : Option Binary64 := Binary64.ofNat? false (Nat.pow 10 n)

/-- Divide by powers of ten, the greatest that a number can hold at a time. -/
def shrink : Nat → Binary64 → Nat → Option Binary64
  | 0, x, _ => some (Binary64.zero x.negative)
  | fuel + 1, x, power =>
      if x.mantissa = 0 then some x
      else if power ≤ 308 then do
        let p ← powerOfTen? power
        x.div? p
      else do
        let p ← powerOfTen? 308
        let y ← x.div? p
        shrink fuel y (power - 308)

/-- A significand times a power of ten: the significand is rounded first, then the product or
quotient with the rounded power. -/
def fractionOf (negative : Bool) (significand : Nat) (power : Int) : Except Problem Binary64 :=
  let r := do
    let x ← Binary64.ofNat? negative significand
    if power < 0 then shrink 8 x power.natAbs
    else if x.mantissa = 0 then some x
    else if 308 < power then none
    else do
      let p ← powerOfTen? power.toNat
      x.mul? p
  match r with
  | some x => .ok x
  | none => .error .numberOutOfRange

/-- An exponent beyond this bound leaves nothing or too much. -/
def exponentBound : Nat := 0x80000000

/-- The value of a number: a whole one as long as it fits one word, with its sign one of 63
bits and the sign; any other as a binary fraction. -/
def Decimal.value (d : Decimal) : Except Problem Json := do
  let (significand, fitted) := absorbDigits 0 0 d.whole
  let dropped := d.whole.length - fitted
  match d.fraction, d.exponent with
  | none, none =>
      if dropped ≠ 0 then return .real (← fractionOf d.negative significand dropped)
      else if ¬ d.negative then return .int significand
      else if 0 < significand ∧ significand ≤ signedBound then return .int (-(significand : Int))
      else return .real (← fractionOf true significand 0)
  | fraction, exponent =>
      let (significand, places) := absorbDigits significand 0 (fraction.getD [])
      let power : Int := (dropped : Int) - places
      match exponent with
      | none => return .real (← fractionOf d.negative significand power)
      | some (down, digits) =>
          let e := Text.valueOf digits
          if exponentBound ≤ e then
            if significand ≠ 0 ∧ ¬ down then .error .numberOutOfRange
            else return .real (Binary64.zero d.negative)
          else
            let power := if down then power - e else power + e
            return .real (← fractionOf d.negative significand power)

/-! ## Cutting -/

def isGap (c : Char) : Bool := c = ' ' || c = '\x0a' || c = '\x09' || c = '\x0d'

/-- What follows the given letters; the text must begin with them. -/
def afterLetters : Text → Text → Except Problem Text
  | [], t => .ok t
  | _ :: _, [] => .error .endInValue
  | l :: letters, c :: t => if l = c then afterLetters letters t else .error .expectedIdent

inductive Cut
  | token (t : Token) (rest : Text)
  | last (t : Token)

/-- A word such as `null`, of which the first letter has been read. -/
def cutWord (letters : Text) (value : Json) (t : Text) : Cut :=
  match afterLetters letters t with
  | .ok rest => .token (.scalar (.ok value)) rest
  | .error p => .last (.broken p p)

def cut (c : Char) (t : Text) : Cut :=
  match c with
  | '[' => .token .openList t
  | ']' => .token .closeList t
  | '\x7b' => .token .openObject t
  | '\x7d' => .token .closeObject t
  | ',' => .token .comma t
  | ':' => .token .colon t
  | '"' =>
      match afterString t with
      | .ok rest => .token (.string (readString none t) none) rest
      | .error p => .last (.string (readString none t) (some p))
  | 'n' => cutWord ['u', 'l', 'l'] .null t
  | 't' => cutWord ['r', 'u', 'e'] (.bool true) t
  | 'f' => cutWord ['a', 'l', 's', 'e'] (.bool false) t
  | c =>
      if c = '-' ∨ Text.isDigit c then
        match scanNumber (c :: t) with
        | .ok (d, rest) => .token (.scalar d.value) rest
        | .error (wanted, passed) => .last (.broken wanted passed)
      else .last (.broken .expectedValue .expectedValue)

/-- The tokens of a text, at most as many as the first argument says. -/
def tokensWithin : Nat → Text → List Token
  | 0, _ => []
  | _ + 1, [] => []
  | fuel + 1, c :: t =>
      if isGap c then tokensWithin fuel t
      else
        match cut c t with
        | .token k rest => k :: tokensWithin fuel rest
        | .last k => [k]

/-- The tokens of a text: there are no more of them than characters. -/
def tokens (t : Text) : List Token := tokensWithin t.length t

end DepositTrail.Json
