import DepositTrail.Config
import DepositTrail.Deposit
import DepositTrail.Json.Printer

set_option autoImplicit false

/-! # Deposit records

A deposit together with its block, as one line of output: either six fields with a blank
between them and a hyphen for a missing number, or a JSON object with six members in the order
of the fields.
-/

namespace DepositTrail

/-- A deposit as it is written. -/
structure DepositRecord where
  block : UInt64
  pubkey : Text
  withdrawalCredentials : Text
  amountGwei : Option UInt64
  signature : Text
  index : Option UInt64
deriving Repr, DecidableEq

def Deposit.record (d : Deposit) (block : UInt64) : DepositRecord where
  block := block
  pubkey := ['0', 'x'] ++ Hex.encode d.pubkey
  withdrawalCredentials := ['0', 'x'] ++ Hex.encode d.withdrawalCredentials
  amountGwei := d.amountGwei
  signature := ['0', 'x'] ++ Hex.encode d.signature
  index := d.depositIndex

namespace DepositRecord

def field : Option UInt64 → Text
  | none => ['-']
  | some n => Text.decimal n.toNat

def fields (r : DepositRecord) : List Text :=
  [Text.decimal r.block.toNat, r.pubkey, r.withdrawalCredentials, field r.amountGwei, r.signature,
    field r.index]

def jsonNumber : Option UInt64 → Json
  | none => .null
  | some n => .int n.toNat

/-- The members of a JSON line, in the order in which they are written. -/
def members (r : DepositRecord) : List (Text × Json) :=
  [("block".toList, .int r.block.toNat),
    ("pubkey".toList, .str r.pubkey),
    ("withdrawal_credentials".toList, .str r.withdrawalCredentials),
    ("amount_gwei".toList, jsonNumber r.amountGwei),
    ("signature".toList, .str r.signature),
    ("index".toList, jsonNumber r.index)]

/-- The line of a record, with its end. -/
def line (format : OutputFormat) (r : DepositRecord) : Text :=
  match format with
  | .text => [' '].intercalate r.fields ++ ['\n']
  | .jsonLines => (Json.obj r.members).write ++ ['\n']

end DepositRecord

end DepositTrail
