import DepositTrail.Config

set_option autoImplicit false

/-! # Block windows

An interval of blocks is asked about window by window. The windows have the same number of
blocks, also the last one, which may therefore reach past the end of the interval; only the
greatest block number stops it. A window names its first block and the first block after it.

The windows of an interval are counted first, so that the list of them is a recursion on their
number, and any stretch of the list can be had without what comes before it.
-/

namespace DepositTrail

def lastBlock : Nat := UInt64.size - 1

/-- The blocks from `first` up to but not including `stop`. -/
structure Window where
  first : Nat
  stop : Nat
deriving Repr, DecidableEq

namespace Window

def starting (size first : Nat) : Window := ⟨first, min (first + size) lastBlock⟩

/-- How many windows begin in an interval when they are `stride` blocks apart. -/
def count (fromBlock toBlock stride : Nat) : Nat := (toBlock - fromBlock + (stride - 1)) / stride

/-- So many windows in a row, the first of them beginning at a block. -/
def row (size : Nat) : Nat → Nat → List Window
  | 0, _ => []
  | n + 1, first => Window.starting size first :: row size n (first + max size 1)

/-- The windows of an interval of blocks. A size of zero gives a window for each block. -/
def partition (fromBlock toBlock size : Nat) : List Window :=
  row size (count fromBlock toBlock (max size 1)) fromBlock

/-- At most `limit` of the windows of an interval, without the first `skip` of them, and whether
there are more. -/
def excerpt (fromBlock toBlock size skip limit : Nat) : List Window × Bool :=
  let left := count fromBlock toBlock (max size 1) - skip
  (row size (min limit left) (fromBlock + skip * max size 1), limit < left)

end Window

end DepositTrail
