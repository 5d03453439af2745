import DepositTrail.Window

set_option autoImplicit false

/-! # How windows tile an interval

The windows of a row lie side by side: the one with number `i` begins `i` strides after the
first (`row_getElem`), no two begin at the same block (`row_first_injective`), and a row begun
at a later window is what is left of the row (`row_drop`). Of an interval the same holds: begun
again at the first block of one of its windows, it has the windows that are left
(`partition_drop`). This is what lets a scan go on where another has stopped. And no block
between the beginning of a row and the end of one of its windows is left out (`exists_has`),
which is why the end of a window may stand for all the blocks before it.
-/

namespace DepositTrail.Window

/-! ## Rows -/

@[simp] theorem row_length (size n first : Nat) : (row size n first).length = n := by
  induction n generalizing first with
  | zero => rfl
  | succ n ih => simp [row, ih]

theorem row_getElem {size n first i : Nat} (h : i < (row size n first).length) :
    (row size n first)[i] = starting size (first + i * max size 1) := by
  induction n generalizing first i with
  | zero => simp at h
  | succ n ih =>
      cases i with
      | zero => simp [row]
      | succ i =>
          have hstep : first + (i + 1) * max size 1 = first + max size 1 + i * max size 1 := by
            calc first + (i + 1) * max size 1
                = first + (i * max size 1 + max size 1) := by rw [Nat.add_mul, Nat.one_mul]
              _ = first + max size 1 + i * max size 1 := by omega
          rw [hstep]
          exact ih (by simpa using h)

/-- A row begun at its window with number `i` is what is left of the row. -/
theorem row_drop (size n first i : Nat) :
    (row size n first).drop i = row size (n - i) (first + i * max size 1) := by
  induction i generalizing n first with
  | zero => simp
  | succ i ih =>
      cases n with
      | zero => simp [row]
      | succ n =>
          rw [row, List.drop_succ_cons, ih, Nat.add_sub_add_right, Nat.add_mul, Nat.one_mul,
            Nat.add_assoc, Nat.add_comm (max size 1)]

/-- The first windows of a row are a row. -/
theorem row_take {size n first i : Nat} (h : i ≤ n) :
    (row size n first).take i = row size i first := by
  induction i generalizing n first with
  | zero => rfl
  | succ i ih =>
      cases n with
      | zero => omega
      | succ n => rw [row, row, List.take_succ_cons, ih (Nat.le_of_succ_le_succ h)]

@[simp] theorem starting_first (size first : Nat) : (starting size first).first = first := rfl

theorem first_le_of_mem_row {size n first : Nat} {w : Window} (h : w ∈ row size n first) :
    first ≤ w.first := by
  obtain ⟨i, hi, rfl⟩ := List.getElem_of_mem h
  rw [row_getElem hi]
  exact Nat.le_add_right _ _

/-- No window reaches past the greatest block number. -/
theorem stop_le_of_mem_row {size n first : Nat} {w : Window} (h : w ∈ row size n first) :
    w.stop ≤ lastBlock := by
  obtain ⟨i, hi, rfl⟩ := List.getElem_of_mem h
  rw [row_getElem hi]
  exact Nat.min_le_right _ _

/-- No two windows of a row begin at the same block. -/
theorem row_first_injective {size n first i j : Nat} (hi : i < (row size n first).length)
    (hj : j < (row size n first).length)
    (h : (row size n first)[i].first = (row size n first)[j].first) : i = j := by
  rw [row_getElem hi, row_getElem hj, starting_first, starting_first] at h
  -- the stride is at least one, also for windows of no blocks
  exact Nat.eq_of_mul_eq_mul_right (m := max size 1) (by omega) (by omega)

/-- A window of a row ends before the windows after it begin. -/
theorem stop_le_first {size n first i j : Nat} {w w' : Window} (hs : 0 < size) (hij : i < j)
    (hw : (row size n first)[i]? = some w) (hw' : (row size n first)[j]? = some w') :
    w.stop ≤ w'.first := by
  obtain ⟨hi, rfl⟩ := List.getElem?_eq_some_iff.mp hw
  obtain ⟨hj, rfl⟩ := List.getElem?_eq_some_iff.mp hw'
  have hstride : max size 1 = size := by omega
  rw [row_getElem hi, row_getElem hj, hstride]
  have hmul : (i + 1) * size ≤ j * size := Nat.mul_le_mul_right _ hij
  rw [Nat.add_mul, Nat.one_mul] at hmul
  show min (first + i * size + size) lastBlock ≤ first + j * size
  omega

/-- The windows of a row end in their order. -/
theorem stop_le_stop {size n first i j : Nat} {w w' : Window} (hij : i ≤ j)
    (hw : (row size n first)[i]? = some w) (hw' : (row size n first)[j]? = some w') :
    w.stop ≤ w'.stop := by
  obtain ⟨hi, rfl⟩ := List.getElem?_eq_some_iff.mp hw
  obtain ⟨hj, rfl⟩ := List.getElem?_eq_some_iff.mp hw'
  rw [row_getElem hi, row_getElem hj]
  have hmul : i * max size 1 ≤ j * max size 1 := Nat.mul_le_mul_right _ hij
  show min (first + i * max size 1 + size) lastBlock ≤ min (first + j * max size 1 + size) lastBlock
  omega

/-- Where the greatest block number does not cut it, a window has its full size. -/
theorem starting_stop {size first : Nat} (h : (starting size first).stop < lastBlock) :
    (starting size first).stop = first + size := by
  simp only [starting] at h ⊢
  omega

/-! ## Intervals -/

/-- One stride further on there is one window less. -/
theorem count_add (first stop : Nat) {stride : Nat} (hs : 0 < stride) :
    count (first + stride) stop stride = count first stop stride - 1 := by
  unfold count
  -- past the end of the interval the subtraction is cut off at zero
  by_cases h : first + stride ≤ stop
  · have hd : stop - first + (stride - 1) = stop - (first + stride) + (stride - 1) + stride := by
      omega
    rw [hd, Nat.add_div_right _ hs, Nat.add_sub_cancel]
  · have hlow : (stop - (first + stride) + (stride - 1)) / stride = 0 :=
      Nat.div_eq_of_lt (by omega)
    have hhigh : (stop - first + (stride - 1)) / stride < 2 := by
      rw [Nat.div_lt_iff_lt_mul hs]
      omega
    omega

theorem count_add_mul (first stop i : Nat) {stride : Nat} (hs : 0 < stride) :
    count (first + i * stride) stop stride = count first stop stride - i := by
  induction i with
  | zero => simp
  | succ i ih =>
      calc count (first + (i + 1) * stride) stop stride
          = count (first + i * stride + stride) stop stride := by
            rw [Nat.add_mul, Nat.one_mul, ← Nat.add_assoc]
        _ = count (first + i * stride) stop stride - 1 := count_add _ _ hs
        _ = count first stop stride - (i + 1) := by rw [ih, Nat.sub_sub]

/-- No window comes twice in a row. -/
theorem row_nodup (size n first : Nat) : (row size n first).Nodup := by
  rw [List.nodup_iff_pairwise_ne, List.pairwise_iff_getElem]
  intro i j hi hj hij h
  have heq : i = j := row_first_injective hi hj (congrArg Window.first h)
  omega

/-- No window comes twice in an interval. -/
theorem partition_nodup (first stop size : Nat) : (partition first stop size).Nodup :=
  row_nodup _ _ _

/-- **An interval begun again at one of its windows** has the windows that are left. -/
theorem partition_drop (first stop size i : Nat) :
    partition (first + i * max size 1) stop size = (partition first stop size).drop i := by
  have hs : 0 < max size 1 := by omega
  rw [partition, partition, row_drop, count_add_mul _ _ _ hs]

theorem count_pos {first stop stride : Nat} (hs : 0 < stride) (h : first < stop) :
    0 < count first stop stride := by
  unfold count
  exact Nat.div_pos (by omega) hs

/-- The last window begins inside the interval. -/
theorem last_first_lt {first stop stride : Nat} (hs : 0 < stride) (h : first < stop) :
    first + (count first stop stride - 1) * stride < stop := by
  have hpos := count_pos hs h
  have hle : count first stop stride * stride ≤ stop - first + (stride - 1) :=
    Nat.div_mul_le_self _ _
  have hsub : (count first stop stride - 1) * stride
      = count first stop stride * stride - stride := by
    rw [Nat.sub_mul, Nat.one_mul]
  have hge : 1 * stride ≤ count first stop stride * stride := Nat.mul_le_mul_right _ hpos
  omega

/-- The windows together reach the end of the interval. -/
theorem le_count_mul (first stop : Nat) {stride : Nat} (hs : 0 < stride) :
    stop - first ≤ count first stop stride * stride := by
  have h := Nat.div_add_mod (stop - first + (stride - 1)) stride
  have hm := Nat.mod_lt (stop - first + (stride - 1)) hs
  rw [Nat.mul_comm] at h
  unfold count
  omega

/-- An interval without blocks has no windows. -/
theorem partition_eq_nil {first stop : Nat} (size : Nat) (h : stop ≤ first) :
    partition first stop size = [] := by
  have hcount : count first stop (max size 1) = 0 := by
    unfold count
    exact Nat.div_eq_of_lt (by omega)
  rw [partition, hcount]
  rfl

theorem le_of_partition_eq_nil {first stop size : Nat} (h : partition first stop size = []) :
    stop ≤ first := by
  apply Nat.le_of_not_lt
  intro hlt
  have hcount : 0 < count first stop (max size 1) := count_pos (by omega) hlt
  have hlength := congrArg List.length h
  rw [partition, row_length, List.length_nil] at hlength
  omega

/-- Every window of an interval begins inside it, and has a block. -/
theorem first_lt_of_mem_partition {first stop size : Nat} {w : Window} (hs : 0 < size)
    (hstop : stop ≤ lastBlock) (h : w ∈ partition first stop size) :
    w.first < stop ∧ w.first < w.stop := by
  have hstride : max size 1 = size := by omega
  obtain ⟨i, hi, rfl⟩ := List.getElem_of_mem h
  rw [partition, row_length, hstride] at hi
  have hlt : first < stop := by
    apply Nat.lt_of_not_le
    intro hle
    have hzero : count first stop size = 0 := Nat.div_eq_of_lt (by omega)
    omega
  have hlast := last_first_lt hs hlt
  have hle : i * size ≤ (count first stop size - 1) * size := Nat.mul_le_mul_right _ (by omega)
  have hget : (partition first stop size)[i] = starting size (first + i * size) := by
    calc (partition first stop size)[i]
        = starting size (first + i * max size 1) := row_getElem _
      _ = starting size (first + i * size) := by rw [hstride]
  rw [hget]
  refine ⟨?_, ?_⟩
  · show first + i * size < stop
    omega
  · show first + i * size < min (first + i * size + size) lastBlock
    omega

/-- No window reaches further past the end of the interval than it is long. -/
theorem stop_lt_of_mem_partition {first stop size : Nat} {w : Window} (hs : 0 < size)
    (hstop : stop ≤ lastBlock) (h : w ∈ partition first stop size) : w.stop < stop + size := by
  obtain ⟨hfirst, -⟩ := first_lt_of_mem_partition hs hstop h
  obtain ⟨i, hi, rfl⟩ := List.getElem_of_mem h
  have hget : (partition first stop size)[i] = starting size (first + i * max size 1) :=
    row_getElem _
  rw [hget] at hfirst ⊢
  exact Nat.lt_of_le_of_lt (Nat.min_le_left _ _) (Nat.add_lt_add_right hfirst size)

/-- The last window reaches the end of the interval. -/
theorem le_stop_of_getLast? {first stop size : Nat} {w : Window} (hs : 0 < size)
    (hstop : stop ≤ lastBlock) (h : (partition first stop size).getLast? = some w) :
    stop ≤ w.stop := by
  have hstride : max size 1 = size := by omega
  rw [List.getLast?_eq_getElem?, partition, row_length, hstride] at h
  obtain ⟨hlt, rfl⟩ := List.getElem?_eq_some_iff.mp h
  rw [row_length] at hlt
  have hreach := le_count_mul first stop hs
  have hmul : count first stop size * size
      = (count first stop size - 1) * size + size := by
    rw [← Nat.succ_mul, Nat.succ_eq_add_one, Nat.sub_add_cancel (by omega)]
  rw [row_getElem, hstride]
  show stop ≤ min (first + (count first stop size - 1) * size + size) lastBlock
  omega

/-! ## Blocks in windows -/

/-- Whether a block lies in a window. -/
def Has (w : Window) (block : Nat) : Prop := w.first ≤ block ∧ block < w.stop

instance (w : Window) (block : Nat) : Decidable (w.Has block) := by
  unfold Has
  infer_instance

/-- **The windows of a row leave no gap**: a block between the first block of the row and the
end of one of its windows lies in this window or in one before it. -/
theorem exists_has {size n first k : Nat} {w : Window} {block : Nat} (hs : 0 < size)
    (hw : (row size n first)[k]? = some w) (hfirst : first ≤ block) (hblock : block < w.stop) :
    ∃ i w', i ≤ k ∧ (row size n first)[i]? = some w' ∧ w'.Has block := by
  have hstride : max size 1 = size := by omega
  obtain ⟨hk, rfl⟩ := List.getElem?_eq_some_iff.mp hw
  rw [row_getElem hk, hstride] at hblock
  have hstop : block < min (first + k * size + size) lastBlock := hblock
  -- the window is the one with the number of whole strides before the block
  have hdiv := Nat.div_add_mod (block - first) size
  have hmod := Nat.mod_lt (block - first) hs
  rw [Nat.mul_comm] at hdiv
  have hi : (block - first) / size ≤ k := by
    apply Nat.le_of_lt_succ
    rw [Nat.div_lt_iff_lt_mul hs, Nat.succ_mul]
    omega
  have hlt : (block - first) / size < (row size n first).length := by omega
  refine ⟨(block - first) / size, _, hi, List.getElem?_eq_getElem hlt, ?_⟩
  rw [row_getElem hlt, hstride]
  constructor
  · show first + (block - first) / size * size ≤ block
    omega
  · show block < min (first + (block - first) / size * size + size) lastBlock
    omega

/-- The blocks in the windows of an interval are those up to the end of the last window. -/
theorem exists_mem_has_iff {first stop size block : Nat} {last : Window} (hs : 0 < size)
    (hlast : (partition first stop size).getLast? = some last) :
    (∃ w ∈ partition first stop size, w.Has block) ↔ first ≤ block ∧ block < last.stop := by
  have hindex := hlast
  rw [List.getLast?_eq_getElem?] at hindex
  constructor
  · rintro ⟨w, hmem, hle, hlt⟩
    refine ⟨Nat.le_trans (first_le_of_mem_row hmem) hle, ?_⟩
    obtain ⟨i, hi, rfl⟩ := List.getElem_of_mem hmem
    exact Nat.lt_of_lt_of_le hlt
      (stop_le_stop (Nat.le_sub_one_of_lt hi) (List.getElem?_eq_getElem hi) hindex)
  · rintro ⟨hle, hlt⟩
    obtain ⟨i, w, -, hget, hhas⟩ := exists_has hs hindex hle hlt
    exact ⟨w, List.mem_of_getElem? hget, hhas⟩

/-! ## Sorted lists cut into windows -/

variable {α : Type}

/-- The entries of a list that lie in a window. -/
def cut (key : α → Nat) (l : List α) (w : Window) : List α := l.filter fun x => w.Has (key x)

theorem mem_cut {key : α → Nat} {l : List α} {w : Window} {x : α} :
    x ∈ cut key l w ↔ x ∈ l ∧ w.Has (key x) := by
  simp [cut]

/-- Two neighbouring windows of a sorted list are one. -/
theorem cut_append {key : α → Nat} {l : List α} (hl : l.Pairwise fun x y => key x ≤ key y)
    {a m b : Nat} (ham : a ≤ m) (hmb : m ≤ b) :
    cut key l ⟨a, m⟩ ++ cut key l ⟨m, b⟩ = cut key l ⟨a, b⟩ := by
  induction l with
  | nil => rfl
  | cons x l ih =>
      rw [List.pairwise_cons] at hl
      have ih' := ih hl.2
      by_cases hx : key x < m
      · -- the entry lies in the first window or in neither
        have hr : ¬ Has ⟨m, b⟩ (key x) := by
          simp only [Has]
          omega
        have hiff : Has ⟨a, m⟩ (key x) ↔ Has ⟨a, b⟩ (key x) := by
          simp only [Has]
          omega
        simp only [cut, List.filter_cons, hr, hiff, decide_false] at ih' ⊢
        split
        · rw [List.cons_append]
          exact congrArg _ ih'
        · exact ih'
      · -- from here on every entry lies past the first window
        have hnil : cut key (x :: l) ⟨a, m⟩ = [] := by
          rw [cut, List.filter_eq_nil_iff]
          intro y hy
          have hxy : key x ≤ key y := by
            rcases List.mem_cons.mp hy with rfl | hy
            · exact Nat.le_refl _
            · exact hl.1 y hy
          rw [decide_eq_true_eq]
          simp only [Has]
          omega
        have hcongr : cut key (x :: l) ⟨m, b⟩ = cut key (x :: l) ⟨a, b⟩ := by
          apply List.filter_congr
          intro y hy
          have hxy : key x ≤ key y := by
            rcases List.mem_cons.mp hy with rfl | hy
            · exact Nat.le_refl _
            · exact hl.1 y hy
          rw [decide_eq_decide]
          simp only [Has]
          omega
        rw [hnil, hcongr, List.nil_append]

/-- **The windows of a row together** hold what lies between its first block and its end. -/
theorem flatMap_cut_row {key : α → Nat} {l : List α}
    (hl : l.Pairwise fun x y => key x ≤ key y) {size : Nat} (hs : 0 < size) (n : Nat) :
    ∀ first, first + n * size ≤ lastBlock →
      (row size (n + 1) first).flatMap (cut key l)
        = cut key l ⟨first, min (first + (n + 1) * size) lastBlock⟩ := by
  induction n with
  | zero =>
      intro first _
      simp [row, starting]
  | succ n ih =>
      intro first h
      have hmul : (n + 1) * size = n * size + size := by rw [Nat.add_mul, Nat.one_mul]
      have hmul' : (n + 1 + 1) * size = n * size + size + size := by
        rw [Nat.add_mul, Nat.one_mul, hmul]
      have hmax : max size 1 = size := by omega
      -- only the last window of a row may be cut by the greatest block number
      have hfull : starting size first = ⟨first, first + size⟩ := by
        simp only [starting, Window.mk.injEq, true_and]
        omega
      rw [row, List.flatMap_cons, hmax, ih (first + size) (by omega), hfull,
        cut_append hl (by omega) (by omega), hmul, hmul']
      have hend : first + size + (n * size + size) = first + (n * size + size + size) := by omega
      rw [hend]

end DepositTrail.Window
