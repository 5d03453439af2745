set_option autoImplicit false

/-! # Keccak-256

The hash in which an address carries its checksum and an event its topic. The state is a
five by five square of 64-bit lanes; 24 rounds stir it after each block of 136 bytes has
been added in. The message is followed by a one bit, zeros, and a one bit at the end of its
last block.
-/

namespace DepositTrail.Keccak

/-- The state: lane `(x, y)` stands at place `x + 5 * y`. -/
abbrev Lanes := Vector UInt64 25

/-- The lane in column `x` and row `y`, both counted modulo five. -/
def Lanes.at (s : Lanes) (x y : Nat) : UInt64 :=
  s.get ⟨x % 5 + 5 * (y % 5), by omega⟩

/-- The state whose lanes are given by column and row. -/
def Lanes.build (f : Nat → Nat → UInt64) : Lanes :=
  Vector.ofFn fun i => f (i.val % 5) (i.val / 5)

def rotate (w : UInt64) (n : Nat) : UInt64 :=
  if n % 64 = 0 then w else (w <<< UInt64.ofNat (n % 64)) ||| (w >>> UInt64.ofNat (64 - n % 64))

/-- By how much each lane is rotated, at place `x + 5 * y`. -/
def rotations : List Nat :=
  [0, 1, 62, 28, 27, 36, 44, 6, 55, 20, 3, 10, 43, 25, 39, 41, 45, 15, 21, 8, 18, 2, 61, 56, 14]

def roundConstants : List UInt64 :=
  [0x0000000000000001, 0x0000000000008082, 0x800000000000808a, 0x8000000080008000,
    0x000000000000808b, 0x0000000080000001, 0x8000000080008081, 0x8000000000008009,
    0x000000000000008a, 0x0000000000000088, 0x0000000080008009, 0x000000008000000a,
    0x000000008000808b, 0x800000000000008b, 0x8000000000008089, 0x8000000000008003,
    0x8000000000008002, 0x8000000000000080, 0x000000000000800a, 0x800000008000000a,
    0x8000000080008081, 0x8000000000008080, 0x0000000080000001, 0x8000000080008008]

/-- Mix each column with its two neighbours. -/
def theta (s : Lanes) : Lanes :=
  let column (x : Nat) : UInt64 := s.at x 0 ^^^ s.at x 1 ^^^ s.at x 2 ^^^ s.at x 3 ^^^ s.at x 4
  let parity : Vector UInt64 5 := Vector.ofFn fun x => column x.val
  let parityOf (x : Nat) : UInt64 := parity.get ⟨x % 5, by omega⟩
  Lanes.build fun x y => s.at x y ^^^ parityOf (x + 4) ^^^ rotate (parityOf (x + 1)) 1

/-- Rotate the lanes and move them: lane `(x, y)` goes to `(y, 2x + 3y)`. -/
def rhoPi (s : Lanes) : Lanes :=
  Lanes.build fun x y =>
    let x' := x + 3 * y
    rotate (s.at x' x) (rotations.getD (x' % 5 + 5 * (x % 5)) 0)

/-- The one step that is not linear, along the rows. -/
def chi (s : Lanes) : Lanes :=
  Lanes.build fun x y => s.at x y ^^^ ((s.at (x + 1) y ^^^ 0xffffffffffffffff) &&& s.at (x + 2) y)

/-- Add the round's constant to the first lane. -/
def iota (constant : UInt64) (s : Lanes) : Lanes :=
  Lanes.build fun x y => if x = 0 ∧ y = 0 then s.at 0 0 ^^^ constant else s.at x y

def stir (s : Lanes) : Lanes :=
  roundConstants.foldl (fun s constant => iota constant (chi (rhoPi (theta s)))) s

/-- Eight bytes as a number, the first byte being the lowest. -/
def laneOf (bytes : List UInt8) : UInt64 :=
  bytes.foldr (fun b w => (w <<< 8) ||| b.toUInt64) 0

def bytesOf (w : UInt64) : List UInt8 :=
  (List.range 8).map fun i => (w >>> UInt64.ofNat (8 * i)).toUInt8

/-- How many bytes a block holds. -/
def rate : Nat := 136

/-- The message filled up to whole blocks. -/
def pad (message : List UInt8) : List UInt8 :=
  let gap := rate - message.length % rate
  if gap = 1 then message ++ [0x81]
  else message ++ 0x01 :: List.replicate (gap - 2) 0x00 ++ [0x80]

/-- Add a block to the state and stir. -/
def absorb (s : Lanes) (block : List UInt8) : Lanes :=
  stir (Lanes.build fun x y =>
    s.at x y ^^^ laneOf ((block.drop (8 * (x + 5 * y))).take 8))

/-- The 32 bytes of the hash of a message. -/
def hash (message : List UInt8) : List UInt8 :=
  let padded := pad message
  let blocks := (List.range (padded.length / rate)).map fun i => (padded.drop (rate * i)).take rate
  let s := blocks.foldl absorb (Vector.replicate 25 0)
  (List.range 4).flatMap fun x => bytesOf (s.at x 0)

end DepositTrail.Keccak
