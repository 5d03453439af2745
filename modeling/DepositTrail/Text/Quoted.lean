import DepositTrail.Text.Unseen
import DepositTrail.Text

set_option autoImplicit false

/-! # Quoted text

The form in which a foreign text is shown inside a message: between quotation marks, with
the mark itself and the backslash escaped, the common controls by letter, and every other
character that shows nothing by its number. So a message stays on one line and shows all
that was received.
-/

namespace DepositTrail.Text

/-- Whether a character is written by number: it shows nothing when it stands alone. -/
def isUnseen (c : Char) : Bool :=
  0x7f ≤ c.toNat && unseenRanges.any (fun r => r.1 ≤ c.toNat && c.toNat ≤ r.2) || c.toNat < 0x20

def hexDigits (n : Nat) : Text := Nat.toDigits 16 n

/-- One character as it stands inside a quotation closed by `mark`. -/
def quoteChar (mark c : Char) : Text :=
  if c = mark ∨ c = '\\' then ['\\', c]
  else if c = '\n' then ['\\', 'n']
  else if c = '\r' then ['\\', 'r']
  else if c = '\t' then ['\\', 't']
  else if c = '\x00' then ['\\', '0']
  else if isUnseen c then ['\\', 'u', '\x7b'] ++ hexDigits c.toNat ++ ['\x7d']
  else [c]

def quoted (t : Text) : Text := '"' :: (t.flatMap (quoteChar '"') ++ ['"'])

def quotedChar (c : Char) : Text := '\'' :: (quoteChar '\'' c ++ ['\''])

end DepositTrail.Text
