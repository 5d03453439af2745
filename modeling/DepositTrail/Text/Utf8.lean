import DepositTrail.Text

set_option autoImplicit false

/-! # UTF-8

`utf8` writes a text as bytes. The way back is a machine that reads byte by byte and keeps
what it still expects of a character begun: how many bytes, and between which bounds the
next one lies. A byte outside the bounds ends the character begun as a malformed one and
is then read as the start of another, so each malformed run is as long as it could have
been the beginning of a character.

`decode?` refuses malformed input; `decodeLossy` puts the replacement character U+FFFD for
each malformed run.
-/

namespace DepositTrail.Text

def utf8 (t : Text) : List UInt8 := t.flatMap String.utf8EncodeChar

/-- A character begun: the bytes still missing, the bounds of the next one, and the value so
far. -/
structure Begun where
  missing : Nat
  least : UInt8
  most : UInt8
  value : Nat

/-- What a byte at the start of a character means. -/
inductive Lead
  | whole (c : Char)
  | begun (b : Begun)
  | malformed

def lead (b : UInt8) : Lead :=
  if b < 0x80 then .whole (Char.ofNat b.toNat)
  else if b < 0xc2 then .malformed
  else if b < 0xe0 then .begun ⟨1, 0x80, 0xbf, b.toNat - 0xc0⟩
  else if b < 0xf0 then
    .begun ⟨2, if b = 0xe0 then 0xa0 else 0x80, if b = 0xed then 0x9f else 0xbf, b.toNat - 0xe0⟩
  else if b < 0xf5 then
    .begun ⟨3, if b = 0xf0 then 0x90 else 0x80, if b = 0xf4 then 0x8f else 0xbf, b.toNat - 0xf0⟩
  else .malformed

/-- The characters read from the bytes, with `none` for each malformed run. -/
def scanUtf8 : Option Begun → List UInt8 → List (Option Char)
  | none, [] => []
  | some _, [] => [none]
  | none, b :: r =>
      match lead b with
      | .whole c => some c :: scanUtf8 none r
      | .begun p => scanUtf8 (some p) r
      | .malformed => none :: scanUtf8 none r
  | some p, b :: r =>
      if p.least ≤ b ∧ b ≤ p.most then
        let value := 64 * p.value + (b.toNat - 0x80)
        if p.missing ≤ 1 then some (Char.ofNat value) :: scanUtf8 none r
        else scanUtf8 (some ⟨p.missing - 1, 0x80, 0xbf, value⟩) r
      else
        match lead b with
        | .whole c => none :: some c :: scanUtf8 none r
        | .begun q => none :: scanUtf8 (some q) r
        | .malformed => none :: none :: scanUtf8 none r

/-- The text of the bytes, if they are well-formed UTF-8. -/
def decode? (bytes : List UInt8) : Option Text := (scanUtf8 none bytes).mapM id

/-- The text of the bytes, with U+FFFD for each malformed run. -/
def decodeLossy (bytes : List UInt8) : Text :=
  (scanUtf8 none bytes).map fun c => c.getD '\ufffd'

/-- The text of the bytes as a reply carries it: one byte order mark at the start is no part
of it. -/
def decodeBody (bytes : List UInt8) : Text := dropOpening ['\ufeff'] (decodeLossy bytes)

end DepositTrail.Text
