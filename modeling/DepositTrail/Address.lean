import DepositTrail.Hex
import DepositTrail.Keccak

set_option autoImplicit false

/-! # Contract addresses and log topics

A contract address is 20 bytes and is written with a checksum in the case of its letters: the
letter at a place is a capital when the hash of the small digits has, at the same place, a
digit of eight or more. Reading ignores the case. A topic is the 32-byte hash of an event's
signature.
-/

namespace DepositTrail

abbrev Address := Octets 20

/-- The first topic of a log: which event it records. -/
abbrev Topic := Octets 32

/-- Set the case of each digit by the digit at its place in the hash. -/
def checksumCase : Text → Text → Text
  | c :: digits, h :: hash =>
      (if 8 ≤ (Text.hexValue? h).getD 0 then c.toUpper else c) :: checksumCase digits hash
  | digits, _ => digits

/-- The address with its checksum, after `0x`. -/
def Address.checksummed (a : Address) : Text :=
  let digits := Hex.encode a.toList
  ['0', 'x'] ++ checksumCase digits (Hex.encode (Keccak.hash digits.utf8))

/-- The topic of an event, from its signature such as `Transfer(address,uint256)`. -/
def eventTopicBytes (signature : String) : List UInt8 := Keccak.hash (Text.utf8 signature.toList)

end DepositTrail
