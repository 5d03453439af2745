import DepositTrail.Abi

set_option autoImplicit false

/-! # Deposits

The data of a deposit event are five byte strings. The amount and the index are numbers of
eight bytes, the lowest first; a string of another length is no number, and the deposit then
has none in that place.
-/

namespace DepositTrail

/-- Why a log about a deposit cannot be read. -/
inductive DecodeProblem
  | hex (reason : HexProblem)
  | layout (reason : Abi.Problem)
  | blockNumber (raw : Text)
deriving Repr, DecidableEq

def DecodeProblem.hexMessage : HexProblem → String
  | .oddLength => "Odd number of digits"
  | .wrongLength => "Invalid string length"
  | .badDigit c position =>
      "Invalid character " ++ String.ofList (Text.quotedChar c) ++ " at position " ++
        toString position

def DecodeProblem.message : DecodeProblem → String
  | .hex reason => "payload is not valid hex: " ++ hexMessage reason
  | .layout reason => "payload is not a DepositEvent: " ++ reason.message
  | .blockNumber raw => "invalid block number " ++ String.ofList raw.quoted

/-- What a deposit event carries. -/
structure Deposit where
  pubkey : List UInt8
  withdrawalCredentials : List UInt8
  amount : List UInt8
  signature : List UInt8
  index : List UInt8
deriving Repr, DecidableEq

namespace Deposit

/-- The number whose bytes are given, the lowest first. -/
def ofLittleEndian (bytes : List UInt8) : Nat := bytes.foldr (fun b n => b.toNat + 256 * n) 0

/-- The last `count` bytes of a number, the lowest first. -/
def toLittleEndian : Nat → Nat → List UInt8
  | 0, _ => []
  | count + 1, n => UInt8.ofNat (n % 256) :: toLittleEndian count (n / 256)

def number? (bytes : List UInt8) : Option UInt64 :=
  if bytes.length = 8 then some (UInt64.ofNat (ofLittleEndian bytes)) else none

def amountGwei (d : Deposit) : Option UInt64 := number? d.amount

/-- How many deposits came before this one. -/
def depositIndex (d : Deposit) : Option UInt64 := number? d.index

/-- Read the data of a deposit event. -/
def ofBytes (data : List UInt8) : Except Abi.Problem Deposit := do
  let pubkey ← Abi.stringAt data 0
  let withdrawalCredentials ← Abi.stringAt data (1 * Abi.wordSize)
  let amount ← Abi.stringAt data (2 * Abi.wordSize)
  let signature ← Abi.stringAt data (3 * Abi.wordSize)
  let index ← Abi.stringAt data (4 * Abi.wordSize)
  return ⟨pubkey, withdrawalCredentials, amount, signature, index⟩

def decode (data : Text) : Except DecodeProblem Deposit :=
  match Hex.decode data with
  | .error e => .error (.hex e)
  | .ok bytes =>
      match ofBytes bytes with
      | .error e => .error (.layout e)
      | .ok d => .ok d

def strings (d : Deposit) : List (List UInt8) :=
  [d.pubkey, d.withdrawalCredentials, d.amount, d.signature, d.index]

end Deposit

end DepositTrail
