import DepositTrail.Proofs.WindowTiling
import Mathlib.Algebra.Order.Floor.Div

set_option autoImplicit false

/-! # The windows of an interval

All that is promised of the windows of an interval of blocks, together (`Window.Tiles`): how many
they are, where each begins and ends, that they lie side by side and leave out no block, how far
the last of them reaches, and that an interval begun again at the end of a window has the windows
that are left. It holds for block numbers of 64 bits, whatever the size of the windows
(`partition_tiles`).

Only the last window can meet the greatest block number. Every other window has a window after
it, which begins inside the interval, and ends where that one begins; this is
`partition_stop_of_succ`, from which the other facts about ends follow.
-/

namespace DepositTrail.Window

/-! ## Windows by their number -/

section Numbers

variable {first stop size k : ℕ} {w : Window}

/-- There are as many windows as sizes are needed to fill the interval. -/
theorem length_partition (first stop : ℕ) (hs : 0 < size) :
    (partition first stop size).length = (stop - first) ⌈/⌉ size := by
  have hstride : max size 1 = size := by omega
  rw [partition, row_length, hstride, count, Nat.ceilDiv_eq_add_pred_div, Nat.add_sub_assoc hs]

/-- The window with a number begins so many sizes after the first block. -/
theorem eq_starting_of_getElem? (hs : 0 < size) (hw : (partition first stop size)[k]? = some w) :
    w = starting size (first + k * size) := by
  have hstride : max size 1 = size := by omega
  obtain ⟨hk, rfl⟩ := List.getElem?_eq_some_iff.mp hw
  calc (partition first stop size)[k]
      = starting size (first + k * max size 1) := row_getElem _
    _ = starting size (first + k * size) := by rw [hstride]

/-- A window with another one after it is not cut by the greatest block number. -/
theorem partition_stop_of_succ (hs : 0 < size) (hstop : stop ≤ lastBlock)
    (hk : k + 1 < (partition first stop size).length)
    (hw : (partition first stop size)[k]? = some w) : w.stop = first + (k + 1) * size := by
  have hnext := List.getElem?_eq_getElem hk
  have hbegins := (first_lt_of_mem_partition hs hstop (List.getElem_mem hk)).1
  rw [eq_starting_of_getElem? hs hnext, starting_first] at hbegins
  have hmul : (k + 1) * size = k * size + size := by rw [Nat.add_mul, Nat.one_mul]
  rw [eq_starting_of_getElem? hs hw]
  show min (first + k * size + size) lastBlock = first + (k + 1) * size
  omega

/-- No block lies in two windows. -/
theorem number_unique {i j block : ℕ} {w' : Window} (hs : 0 < size)
    (hw : (partition first stop size)[i]? = some w)
    (hw' : (partition first stop size)[j]? = some w') (h : w.Has block) (h' : w'.Has block) :
    i = j := by
  -- of two windows the earlier one ends before the later one begins
  rcases Nat.lt_trichotomy i j with hij | hij | hij
  · have hle : w.stop ≤ w'.first := stop_le_first hs hij hw hw'
    exact absurd (Nat.lt_of_lt_of_le h.2 (Nat.le_trans hle h'.1)) (Nat.lt_irrefl _)
  · exact hij
  · have hle : w'.stop ≤ w.first := stop_le_first hs hij hw' hw
    exact absurd (Nat.lt_of_lt_of_le h'.2 (Nat.le_trans hle h.1)) (Nat.lt_irrefl _)

end Numbers

/-! ## All of it together -/

/-- What is promised of the windows of an interval that has blocks. -/
structure Tiles (first stop size : ℕ) (ws : List Window) : Prop where
  /-- There are as many windows as sizes are needed to fill the interval. -/
  length_eq : ws.length = (stop - first) ⌈/⌉ size
  /-- Each window begins a whole number of sizes after the first block, which is still a block
  number, and ends a size later or at the greatest block number. -/
  place : ∀ (k : ℕ) w, ws[k]? = some w →
    first + k * size < 2 ^ 64 ∧ w = ⟨first + k * size, min (first + (k + 1) * size) (2 ^ 64 - 1)⟩
  /-- Each window has a block. -/
  nonempty : ∀ w ∈ ws, w.first < w.stop
  /-- Each window ends where the next one begins. -/
  adjacent : ∀ (k : ℕ) w w', ws[k]? = some w → ws[k + 1]? = some w' → w.stop = w'.first
  /-- Each block of the interval lies in exactly one window. -/
  cover : ∀ block, first ≤ block → block < stop →
    ∃! k : ℕ, ∃ w : Window, ws[k]? = some w ∧ w.Has block
  /-- There is a last window, which begins inside the interval and reaches the end of it, and
  past it by less than a size. -/
  last : ∃ w, ws.getLast? = some w ∧ w.first < stop ∧ stop ≤ w.stop ∧ w.stop ≤ stop + (size - 1)
  /-- The interval begun again at the end of a window has the windows after it. -/
  restart : ∀ (k : ℕ) w, k + 1 < ws.length → ws[k]? = some w →
    partition w.stop stop size = ws.drop (k + 1)

theorem tiles_partition {first stop size : ℕ} (hs : 0 < size) (h : first < stop)
    (hstop : stop ≤ lastBlock) : Tiles first stop size (partition first stop size) where
  length_eq := length_partition first stop hs
  place := by
    intro k w hw
    have hbegins := (first_lt_of_mem_partition hs hstop (List.mem_of_getElem? hw)).1
    have hbound : stop ≤ 2 ^ 64 - 1 := hstop
    obtain rfl := eq_starting_of_getElem? hs hw
    rw [starting_first] at hbegins
    refine ⟨by omega, ?_⟩
    rw [starting, Nat.add_mul, Nat.one_mul, Nat.add_assoc]
    rfl
  nonempty := fun w hw => (first_lt_of_mem_partition hs hstop hw).2
  adjacent := by
    intro k w w' hw hw'
    obtain ⟨hk, -⟩ := List.getElem?_eq_some_iff.mp hw'
    rw [partition_stop_of_succ hs hstop hk hw, eq_starting_of_getElem? hs hw', starting_first]
  cover := by
    intro block hfirst hblock
    have hne : partition first stop size ≠ [] :=
      fun hnil => absurd (le_of_partition_eq_nil hnil) (Nat.not_le.mpr h)
    have hlast := List.getLast?_eq_some_getLast hne
    have hreach := le_stop_of_getLast? hs hstop hlast
    rw [List.getLast?_eq_getElem?] at hlast
    obtain ⟨k, w, -, hw, hhas⟩ := exists_has hs hlast hfirst (Nat.lt_of_lt_of_le hblock hreach)
    refine ⟨k, ⟨w, hw, hhas⟩, ?_⟩
    rintro j ⟨w', hw', hhas'⟩
    exact number_unique hs hw' hw hhas' hhas
  last := by
    have hne : partition first stop size ≠ [] :=
      fun hnil => absurd (le_of_partition_eq_nil hnil) (Nat.not_le.mpr h)
    have hlast := List.getLast?_eq_some_getLast hne
    have hmem := List.getLast_mem hne
    have hlt := stop_lt_of_mem_partition hs hstop hmem
    exact ⟨_, hlast, (first_lt_of_mem_partition hs hstop hmem).1,
      le_stop_of_getLast? hs hstop hlast, by omega⟩
  restart := by
    intro k w hk hw
    have hstride : max size 1 = size := by omega
    rw [partition_stop_of_succ hs hstop hk hw, ← partition_drop, hstride]

/-- **The windows of an interval** of 64-bit block numbers: an interval with blocks is tiled by
them, and one without blocks has none. -/
theorem partition_tiles (fromBlock toBlock size : UInt64) (hsize : 1 ≤ size) :
    (fromBlock < toBlock → Tiles fromBlock.toNat toBlock.toNat size.toNat
      (partition fromBlock.toNat toBlock.toNat size.toNat)) ∧
    (toBlock ≤ fromBlock → partition fromBlock.toNat toBlock.toNat size.toNat = []) := by
  have hs : 0 < size.toNat := UInt64.le_iff_toNat_le.mp hsize
  constructor
  · intro h
    exact tiles_partition hs (UInt64.lt_iff_toNat_lt.mp h) (Nat.le_sub_one_of_lt toBlock.toNat_lt)
  · intro h
    exact partition_eq_nil _ (UInt64.le_iff_toNat_le.mp h)

/-- Nine blocks before the greatest block number in windows of four: the third window would reach
past it, and ends there. -/
theorem partition_tiles_to_the_end :
    let fromBlock : UInt64 := 18446744073709551606
    let toBlock : UInt64 := 18446744073709551615
    let ws := partition fromBlock.toNat toBlock.toNat 4
    (1 : UInt64) ≤ 4 ∧ fromBlock < toBlock ∧ Tiles fromBlock.toNat toBlock.toNat 4 ws ∧
      ws = [⟨18446744073709551606, 18446744073709551610⟩,
        ⟨18446744073709551610, 18446744073709551614⟩,
        ⟨18446744073709551614, 18446744073709551615⟩] ∧
      (∃! k : ℕ, ∃ w : Window, ws[k]? = some w ∧ w.Has 18446744073709551612) ∧
      partition 18446744073709551614 toBlock.toNat 4
        = [⟨18446744073709551614, 18446744073709551615⟩] := by
  intro fromBlock toBlock ws
  have hsize : (1 : UInt64) ≤ 4 := by decide
  have hlt : fromBlock < toBlock := by decide
  have htiles := (partition_tiles fromBlock toBlock 4 hsize).1 hlt
  have hws : ws = [⟨18446744073709551606, 18446744073709551610⟩,
      ⟨18446744073709551610, 18446744073709551614⟩,
      ⟨18446744073709551614, 18446744073709551615⟩] := by decide +kernel
  refine ⟨hsize, hlt, htiles, hws, htiles.cover _ (by decide) (by decide), ?_⟩
  have hrestart := htiles.restart 1 ⟨18446744073709551610, 18446744073709551614⟩
    (by decide +kernel) (by decide +kernel)
  exact hrestart.trans (congrArg (List.drop 2) hws)

end DepositTrail.Window
