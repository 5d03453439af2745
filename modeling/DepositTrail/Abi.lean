import DepositTrail.Hex

set_option autoImplicit false

/-! # Strings of bytes in contract data

Contract data is made of words of 32 bytes, which are big-endian numbers. A row of byte
strings is laid out in two parts: a head with one word for each string, which says at which
byte of the data the string stands, and the strings themselves, each a word with its length
followed by its bytes, filled up with zeros to whole words.

Reading asks for less than this layout: the strings may stand anywhere, overlap, lie in the
head, and need no filling. It only refuses what reaches past the end of the data, and numbers
of 64 bits or more in places that say where or how long something is.
-/

namespace DepositTrail.Abi

/-- How many bytes a word has. -/
def wordSize : Nat := 32

/-- Why data cannot be read as byte strings. -/
inductive Problem
  | overrun
  | notSize (word : List UInt8)
deriving Repr, DecidableEq

def Problem.message : Problem → String
  | .overrun => "ABI decoding failed: buffer overrun while deserializing"
  | .notSize word =>
      "type check failed for \"offset (usize)\" with data: " ++ String.ofList (Hex.encode word)

/-- The number whose bytes are given, the highest first. -/
def ofBigEndian (bytes : List UInt8) : Nat := bytes.foldl (fun n b => 256 * n + b.toNat) 0

/-- The last `count` bytes of a number, the highest first. -/
def toBigEndian : Nat → Nat → List UInt8
  | 0, _ => []
  | count + 1, n => toBigEndian count (n / 256) ++ [UInt8.ofNat (n % 256)]

/-! ## Reading -/

/-- So many bytes from a place on, if the data reaches that far. -/
def slice (data : List UInt8) (place count : Nat) : Except Problem (List UInt8) :=
  if place + count ≤ data.length then .ok ((data.drop place).take count) else .error .overrun

/-- The place or length that a word says. -/
def sizeAt (data : List UInt8) (place : Nat) : Except Problem Nat := do
  let word ← slice data place wordSize
  if (word.take 24).all (· = 0) then .ok (ofBigEndian (word.drop 24)) else .error (.notSize word)

/-- The string for which the word at a place of the head stands. -/
def stringAt (data : List UInt8) (head : Nat) : Except Problem (List UInt8) := do
  let place ← sizeAt data head
  let length ← sizeAt data place
  slice data (place + wordSize) length

/-- So many strings, from a place of the head on. -/
def stringsFrom (data : List UInt8) : Nat → Nat → Except Problem (List (List UInt8))
  | 0, _ => .ok []
  | n + 1, head => do
      let s ← stringAt data head
      let rest ← stringsFrom data n (head + wordSize)
      return s :: rest

/-! ## Writing -/

def word (n : Nat) : List UInt8 := toBigEndian wordSize n

/-- The zeros that fill a string up to whole words. -/
def filling (length : Nat) : List UInt8 :=
  List.replicate ((wordSize - length % wordSize) % wordSize) 0

/-- A string with its length and its filling. -/
def tail (s : List UInt8) : List UInt8 := word s.length ++ s ++ filling s.length

/-- The head of a row of strings, of which the first stands at the given place. -/
def heads : Nat → List (List UInt8) → List UInt8
  | _, [] => []
  | place, s :: rest => word place ++ heads (place + (tail s).length) rest

/-- A row of strings in the standard layout. -/
def encode (strings : List (List UInt8)) : List UInt8 :=
  heads (wordSize * strings.length) strings ++ strings.flatMap tail

end DepositTrail.Abi
