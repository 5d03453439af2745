import DepositTrail.Checkpoint.Cell
import DepositTrail.Instant

set_option autoImplicit false

/-! # Checkpoints

Where a scan left off is kept in a table with a row for each contract and topic. `save` writes
the two in small letters, replaces the row that has exactly this key or adds one, and keeps the
block number as a whole number of 63 bits and a sign; a larger one wraps around and is negative.
`load` compares the keys without regard to the case of ASCII letters, takes the first row that
fits, and reads a negative number as zero.

Rows may also have been put into the table from outside, with any content; then loading may
fail, or the time of a row may be unreadable.
-/

namespace DepositTrail.Checkpoint

/-- When a row was written: by `save`, or at a time stated as a text. -/
inductive Stamp
  | saved
  | stated (t : Text)
deriving Repr, DecidableEq

structure Row where
  contract : Text
  topic : Text
  next : Cell
  stamp : Stamp
deriving Repr, DecidableEq

/-- The table, in the order in which its rows were added. -/
abbrev Store := List Row

/-- Why a store cannot be opened or read. -/
inductive Problem
  | unopenable (path : Text)
  | notDatabase
  | notWhole (cell : Cell)
deriving Repr, DecidableEq

/-- The kind of content that is no whole number. -/
def Cell.kind : Cell → String
  | .whole _ => "Integer"
  | .fraction _ => "Real"
  | .text _ => "Text"

def Problem.message : Problem → String
  | .unopenable path => "unable to open database file: " ++ String.ofList path
  | .notDatabase => "file is not a database"
  | .notWhole cell => "Invalid column type " ++ cell.kind ++ " at index: 0, name: next_block"

/-- Where a scan left off. The time is missing when it is that of the moment: when `save` wrote
the row, or when its time cannot be read. -/
structure Mark where
  nextBlock : UInt64
  updatedAt : Option Instant
deriving Repr, DecidableEq

/-- A word of 64 bits as a number of 63 bits and a sign. -/
def signed (n : UInt64) : Int :=
  if (n.toNat : Int) < Cell.bound then n.toNat else n.toNat - 2 * Cell.bound

/-- The word for a number, none below zero. -/
def unsigned (i : Int) : UInt64 := UInt64.ofNat i.toNat

def Row.isFor (contract topic : Text) (r : Row) : Bool :=
  r.contract.lower = contract.lower && r.topic.lower = topic.lower

def Row.mark (r : Row) : Except Problem Mark :=
  match r.next with
  | .whole n =>
      .ok ⟨unsigned n, match r.stamp with
        | .saved => none
        | .stated t => Instant.read? t⟩
  | cell => .error (.notWhole cell)

namespace Store

/-- The mark for a contract and a topic. -/
def load (s : Store) (contract topic : Text) : Except Problem (Option Mark) :=
  match s.find? (Row.isFor contract topic) with
  | none => .ok none
  | some r =>
      match r.mark with
      | .ok m => .ok (some m)
      | .error p => .error p

/-- Put a row in the place of the one with the same key, or at the end. -/
def put (row : Row) : Store → Store
  | [] => [row]
  | r :: rest =>
      if r.contract = row.contract ∧ r.topic = row.topic then row :: rest else r :: put row rest

/-- Write down that every block below `next` has been scanned. -/
def save (s : Store) (contract topic : Text) (next : UInt64) : Store :=
  put ⟨contract.lower, topic.lower, .whole (signed next), .saved⟩ s

def add (s : Store) (row : Row) : Store := s ++ [row]

end Store

end DepositTrail.Checkpoint
