import DepositTrail.Json

set_option autoImplicit false

/-! # Writing JSON

The compact form: no blanks between the tokens, whole numbers in decimal, fractions in their
shortest decimal, and in strings an escape for the quotation mark, the backslash and the
control characters below U+0020, by letter where JSON has one. Every other character stands
for itself. So a written value stays on one line.
-/

namespace DepositTrail.Json

def escapeDigit (n : Nat) : Char := Nat.digitChar (n % 16)

def writeChar (c : Char) : Text :=
  if c = '"' then ['\\', '"']
  else if c = '\\' then ['\\', '\\']
  else if c = '\x08' then ['\\', 'b']
  else if c = '\x09' then ['\\', 't']
  else if c = '\x0a' then ['\\', 'n']
  else if c = '\x0c' then ['\\', 'f']
  else if c = '\x0d' then ['\\', 'r']
  else if c.toNat < 0x20 then
    ['\\', 'u', '0', '0', escapeDigit (c.toNat / 16), escapeDigit c.toNat]
  else [c]

def writeText (t : Text) : Text := '"' :: (t.flatMap writeChar ++ ['"'])

def writeInt (n : Int) : Text :=
  if n < 0 then '-' :: Text.decimal n.natAbs else Text.decimal n.natAbs

mutual

/-- A value in compact form. -/
def write : Json → Text
  | .null => "null".toList
  | .bool true => "true".toList
  | .bool false => "false".toList
  | .int n => writeInt n
  | .real x => x.toText
  | .str t => writeText t
  | .arr [] => ['[', ']']
  | .arr (v :: rest) => '[' :: (write v ++ writeItems rest)
  | .obj [] => ['\x7b', '\x7d']
  | .obj ((k, v) :: rest) => '\x7b' :: (writeText k ++ ':' :: (write v ++ writeMembers rest))

/-- The further values of an array, and its end. -/
def writeItems : List Json → Text
  | [] => [']']
  | v :: rest => ',' :: (write v ++ writeItems rest)

/-- The further members of an object, and its end. -/
def writeMembers : List (Text × Json) → Text
  | [] => ['\x7d']
  | (k, v) :: rest => ',' :: (writeText k ++ ':' :: (write v ++ writeMembers rest))

end

end DepositTrail.Json
