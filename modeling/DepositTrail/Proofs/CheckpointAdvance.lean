import DepositTrail.Proofs.Completeness

set_option autoImplicit false

/-! # What lies below the checkpoint

The checkpoint is there to say that every block below it was scanned. What one scan does for
this is said by `scan_covers`, for any store: between the block at which the scan starts and
the block at which the next one would start, every block lies in a window that was completed,
and the sink was flushed after the window.

The scan starts at its configured block if the checkpoint lies before it. Then the blocks in
between are passed over, and the checkpoint that is moved past them says of them what is not
true. So a checkpoint that was moved can be trusted exactly if the scan was configured to start
at it or before it (`scan_covered_iff`).

The other way in which a checkpoint fails is that it has not 63 bits: then it is read back as
zero, and the next scan starts over. A scan after one that has completed all its windows has
nothing to do exactly if the end of the last window has 63 bits, and the store gives back what
is saved in it (`scan_idle_iff`).
-/

namespace DepositTrail

namespace Config

variable {c : Config}

/-- A store that stands at a block can be read. -/
theorem readable_of_cursor? {store : Checkpoint.Store} {n : Nat}
    (h : c.cursor? store = some n) : c.Readable (some store) := by
  intro store' hstore
  obtain rfl := Option.some.inj hstore
  unfold cursor? at h
  split at h
  · exact ⟨_, by assumption⟩
  · cases h

/-- A store that stands at the end of the configured blocks or past it leaves no windows. -/
theorem windows_eq_nil {store : Checkpoint.Store} {n : Nat}
    (h : c.cursor? store = some n) (hn : c.toBlock.toNat ≤ n) : c.windows (some store) = [] :=
  Window.partition_eq_nil _ (Nat.le_trans hn (cursor?_le_firstBlock h))

/-- A store that stands at the configured first block or past it is scanned from where it
stands. -/
theorem firstBlock_of_cursor? {store : Checkpoint.Store} {n : Nat}
    (h : c.cursor? store = some n) (hfrom : c.fromBlock.toNat ≤ n) :
    c.firstBlock (some store) = n := by
  rw [firstBlock_some, h, Option.getD_some]
  exact Nat.max_eq_right hfrom

/-! ## Covered blocks -/

/-- A block lies in a window that was completed, and the sink was flushed after this window.
`flushes` is the number of flushes before the first window. -/
def Covered (c : Config) (ws : List Window) (xs : List Exchange) (sink : Sink)
    (flushes block : Nat) : Prop :=
  ∃ i w, ws[i]? = some w ∧ c.Completed xs w ∧ sink.Flushed (flushes + i) ∧ w.Has block

/-- Of an unbroken run of completed windows, all blocks are covered. -/
theorem Unbroken.covered {size n first flushes k i block : Nat} {w : Window}
    {xs : List Exchange} {sink : Sink} (hs : 0 < size)
    (h : c.Unbroken (Window.row size n first) xs sink flushes k) (hi : i < k)
    (hw : (Window.row size n first)[i]? = some w) (hfirst : first ≤ block)
    (hblock : block < w.stop) :
    c.Covered (Window.row size n first) xs sink flushes block := by
  obtain ⟨j, w', hj, hw', hhas⟩ := Window.exists_has hs hw hfirst hblock
  obtain ⟨w'', hw'', hcompleted, hflushed⟩ := h j (by omega)
  obtain rfl : w' = w'' := Option.some.inj (hw'.symm.trans hw'')
  exact ⟨j, w', hw', hcompleted, hflushed, hhas⟩

/-- No block before the first one of a scan is covered by it. -/
theorem Covered.firstBlock_le {store : Checkpoint.Store} {xs : List Exchange} {sink : Sink}
    {flushes block : Nat}
    (h : c.Covered (c.windows (some store)) xs sink flushes block) :
    c.firstBlock (some store) ≤ block := by
  obtain ⟨i, w, hw, -, -, hhas⟩ := h
  exact Nat.le_trans (Window.first_le_of_mem_row (List.mem_of_getElem? hw)) hhas.1

end Config

/-! ## One scan -/

section Scan

variable {σ : Type} {c : Config}

/-- A scan is its windows from the block on at which its store stands. -/
theorem scan_eq_of_cursor (hc : c.problem? = none) {store : Checkpoint.Store} {n : Nat}
    (hn : c.cursor? store = some n) (hfrom : c.fromBlock.toNat ≤ n) (explorer : Explorer σ) (s : σ)
    (sink : Sink) :
    scan c explorer (Progress.start s sink (some store))
      = Setup.close ((Setup.ofConfig c explorer).scanWindows
          (Window.count n c.toBlock.toNat (max c.blockRange.toNat 1)) n true
          (c.opened s sink (some store))) := by
  rw [scan_eq hc explorer (Config.readable_of_cursor? hn), Config.windowCount,
    Config.firstBlock_of_cursor? hn hfrom]
  rfl

/-- **The store after a scan** is the one before it, with the checkpoint moved past the unbroken
run of completed windows. A store that cannot be read is left as it was. -/
theorem scan_store (hc : c.problem? = none) (explorer : Explorer σ) (s : σ) (sink : Sink)
    (store : Checkpoint.Store) :
    let p := (scan c explorer (Progress.start s sink (some store))).1
    ∃ k,
      IsGreatest
          {k | c.Unbroken (c.windows (some store)) p.exchanges p.sink sink.flushes k} k ∧
        p.store = some (c.marked ((c.windows (some store)).take k) store) := by
  intro p
  by_cases hr : c.Readable (some store)
  · obtain ⟨j, j', p', result, hswept, hscan⟩ :=
      scan_swept hc (Setup.ofConfig c explorer).answered_any hr s sink
    obtain ⟨xs, k, hxs, -, hk, hstore⟩ := hswept.unbroken rfl (Window.partition_nodup _ _ _)
    have hp : p = { p' with journal := j' } := congrArg Prod.fst hscan
    have hexchanges : p'.exchanges = xs := hxs
    rw [hp]
    refine ⟨k, ?_, hstore⟩
    simp only [hexchanges]
    exact hk
  · obtain ⟨problem, hscan⟩ := scan_of_not_readable explorer s sink hr
    have hp : p = Progress.start s sink (some store) := congrArg Prod.fst hscan
    rw [hp]
    refine ⟨0, ⟨Config.unbroken_zero, fun k hk => ?_⟩, rfl⟩
    -- nothing was received, so no window was completed
    cases k with
    | zero => exact Nat.le_refl 0
    | succ k =>
        obtain ⟨w, -, ⟨x, e, hx, -⟩, -⟩ := hk 0 (Nat.succ_pos k)
        cases hx

/-- **What a scan covers.** It leaves the checkpoint where it stood, or at the end of one of its
windows, or at zero if this end has not 63 bits; and between the block at which it has started
and the one at which a next scan would start, it has covered every block. -/
theorem scan_covers (hc : c.problem? = none) (explorer : Explorer σ) (s : σ) (sink : Sink)
    (store : Checkpoint.Store) :
    let p := (scan c explorer (Progress.start s sink (some store))).1
    ∃ store', p.store = some store' ∧
      (c.cursor? store' = c.cursor? store ∨
        ∃ w ∈ c.windows (some store),
          c.cursor? store' = some (if w.stop < 2 ^ 63 then w.stop else 0)) ∧
      ∀ block, c.firstBlock (some store) ≤ block → block < c.firstBlock (some store') →
        c.Covered (c.windows (some store)) p.exchanges p.sink sink.flushes block := by
  intro p
  have hfits := Config.fits_of_problem? hc
  obtain ⟨k, hk, hstore⟩ := scan_store hc explorer s sink store
  refine ⟨_, hstore, ?_⟩
  -- where the checkpoint stands as it stood, there are no blocks to be covered
  have hstill : ∀ store', c.cursor? store' = c.cursor? store →
      ∀ block, c.firstBlock (some store) ≤ block → block < c.firstBlock (some store') →
        c.Covered (c.windows (some store)) p.exchanges p.sink sink.flushes block := by
    intro store' hsame block hle hlt
    rw [Config.firstBlock_congr hsame] at hlt
    omega
  rcases Nat.eq_zero_or_pos k with rfl | hpos
  · exact ⟨Or.inl rfl, hstill store rfl⟩
  · obtain ⟨w, hw, -⟩ := hk.1 (k - 1) (by omega)
    rw [c.marked_take hpos hw]
    by_cases hlow : c.Lowered store
    · have hmem : w ∈ c.windows (some store) := List.mem_of_getElem? hw
      have hcursor := c.cursor?_mark_of_lowered hlow (Window.stop_le_of_mem_row hmem)
      refine ⟨Or.inr ⟨w, hmem, hcursor⟩, fun block hle hlt => ?_⟩
      rw [Config.firstBlock_some, hcursor, Option.getD_some] at hlt
      have hfrom := c.fromBlock_le_firstBlock (some store)
      apply hk.1.covered hfits.blockRange_pos (Nat.sub_lt hpos Nat.one_pos) hw hle
      split at hlt <;> omega
    · have hsame := c.cursor?_mark_of_not_lowered hlow w.stop
      exact ⟨Or.inl hsame, hstill _ hsame⟩

/-- A scan that comes to its end has flushed the sink after each window. -/
theorem scan_flushed (hc : c.problem? = none) {explorer : Explorer σ} {s : σ} {sink : Sink}
    {store : Option Checkpoint.Store} {report : Report}
    (hok : (scan c explorer (Progress.start s sink store)).2 = .ok report) :
    ∀ i < (c.windows store).length,
      (scan c explorer (Progress.start s sink store)).1.sink.Flushed (sink.flushes + i) := by
  obtain ⟨j, j', p', result, hswept, hscan⟩ :=
    scan_swept hc (Setup.ofConfig c explorer).answered_any (readable_of_scan_ok hok) s sink
  rw [hscan] at hok ⊢
  cases result with
  | error problem => cases hok
  | ok _ => exact hswept.flushed rfl

/-- **The store after a scan that has completed all windows** is the one before it, with the
checkpoint moved past them. -/
theorem scan_store_of_completed (hc : c.problem? = none) (explorer : Explorer σ) (s : σ)
    (sink : Sink) (store : Checkpoint.Store) {report : Report} :
    let r := scan c explorer (Progress.start s sink (some store))
    r.2 = .ok report → (∀ w ∈ c.windows (some store), c.Completed r.1.exchanges w) →
      r.1.store = some (c.marked (c.windows (some store)) store) := by
  intro r hok hcompleted
  obtain ⟨k, hk, hstore⟩ := scan_store hc explorer s sink store
  have hall : (c.windows (some store)).length ≤ k := by
    apply hk.2
    intro i hi
    exact ⟨_, List.getElem?_eq_getElem hi, hcompleted _ (List.getElem_mem hi),
      scan_flushed hc hok i hi⟩
  rw [List.take_of_length_le hall] at hstore
  exact hstore

/-- **A scan of an explorer without logs** comes to its end, completes all its windows, and moves
the checkpoint past them. -/
theorem scan_silent (hc : c.problem? = none) (hend : (Client.ofConfig c).endpoint.isSome)
    {store : Checkpoint.Store} (hr : c.Readable (some store)) :
    let r := scan c Explorer.silent (Progress.start () Sink.unlimited (some store))
    (∃ report, r.2 = .ok report) ∧
      (∀ w ∈ c.windows (some store), c.Completed r.1.exchanges w) ∧
        r.1.store = some (c.marked (c.windows (some store)) store) := by
  intro r
  have hfits := Config.fits_of_problem? hc
  have hbelow : ∀ w ∈ c.windows (some store),
      (heldIn [] w).length < c.maxPages * c.pageSize.toNat := fun _ _ =>
    Nat.mul_pos hfits.maxPages_pos hfits.pageSize_pos
  obtain ⟨hok, hheld⟩ :=
    scan_held hc (Explorer.silent_holds hend) () Sink.unlimited hr hbelow
  obtain ⟨report, hreport⟩ := hok Sink.healthy_unlimited
  have hcompleted := (hheld report hreport).1
  exact ⟨⟨report, hreport⟩, hcompleted,
    scan_store_of_completed hc Explorer.silent () Sink.unlimited store hreport hcompleted⟩

end Scan

/-! ## Checkpoints that can be trusted -/

/-- **A scan that moves the checkpoint** past a block has covered all blocks from the old
checkpoint up to the new one exactly if it was configured to start at the old checkpoint or
before it. Otherwise it has passed over the blocks between the two. -/
theorem scan_covered_iff {σ : Type} (c : Config) (hc : c.problem? = none) (explorer : Explorer σ)
    (s : σ) (sink : Sink) (store : Checkpoint.Store) (n n' : Nat)
    (hn : c.cursor? store = some n)
    (hn' : (scan c explorer (Progress.start s sink (some store))).1.store.bind c.cursor?
      = some n')
    (hlt : n < n') :
    let p := (scan c explorer (Progress.start s sink (some store))).1
    (∀ block, n ≤ block → block < n' →
        c.Covered (c.windows (some store)) p.exchanges p.sink sink.flushes block) ↔
      c.fromBlock.toNat ≤ n := by
  intro p
  obtain ⟨store', hstore, -, hcovers⟩ := scan_covers hc explorer s sink store
  have hcursor : c.cursor? store' = some n' := by
    rw [hstore] at hn'
    exact hn'
  constructor
  · intro h
    have hfirst := (h n (Nat.le_refl n) hlt).firstBlock_le
    have hfrom := c.fromBlock_le_firstBlock (some store)
    omega
  · intro hfrom block hle hblock
    apply hcovers block
    · rw [Config.firstBlock_some, hn]
      exact Nat.max_le.mpr ⟨by omega, hle⟩
    · rw [Config.firstBlock_some, hcursor]
      exact Nat.lt_of_lt_of_le hblock (Nat.le_max_right _ _)

/-- A checkpoint at block 10, and a scan that is configured to start before it. -/
theorem scan_covered_from_checkpoint :
    let c : Config := { Config.default [] with fromBlock := 0, toBlock := 30, blockRange := 10 }
    let store := c.mark 10 []
    let p := (scan c Explorer.silent (Progress.start () Sink.unlimited (some store))).1
    c.problem? = none ∧ c.cursor? store = some 10 ∧ p.store.bind c.cursor? = some 30 ∧
      ∀ block, 10 ≤ block → block < 30 →
        c.Covered (c.windows (some store)) p.exchanges p.sink 0 block := by
  intro c store p
  have hc : c.problem? = none := by decide
  have hend : (Client.ofConfig c).endpoint.isSome := by decide +kernel
  have hfrom : c.fromBlock.toNat ≤ 10 := by decide
  have hn : c.cursor? store = some 10 :=
    c.cursor?_mark Checkpoint.Store.written_nil (by decide)
  have hwindows : c.windows (some store) = [⟨10, 20⟩, ⟨20, 30⟩] := by
    rw [Config.windows, Config.firstBlock_some, hn]
    decide
  have hwritten : store.Written := Checkpoint.Store.written_nil.save _ _ _
  -- from here on nothing depends on what is in the store
  clear_value store
  obtain ⟨-, -, hstore⟩ := scan_silent hc hend (Config.readable_of_cursor? hn)
  have hn' : p.store.bind c.cursor? = some 30 := by
    have hp : p.store = some (c.mark 30 store) := by
      rw [hwindows, c.marked_of_getLast? rfl] at hstore
      exact hstore
    rw [hp, Option.bind_some]
    exact c.cursor?_mark hwritten (by decide)
  exact ⟨hc, hn, hn', (scan_covered_iff c hc Explorer.silent () Sink.unlimited store 10 30 hn hn'
    (by decide)).mpr hfrom⟩

/-- A checkpoint at block 10, and a scan that is configured to start at block 100. It moves the
checkpoint to block 110, though block 10 lies in none of its windows. -/
theorem scan_passes_over_blocks :
    let c : Config := { Config.default [] with fromBlock := 100, toBlock := 110, blockRange := 10 }
    let store := c.mark 10 []
    let p := (scan c Explorer.silent (Progress.start () Sink.unlimited (some store))).1
    c.problem? = none ∧ c.cursor? store = some 10 ∧ p.store.bind c.cursor? = some 110 ∧
      (∀ w ∈ c.windows (some store), w.stop < 2 ^ 63) ∧
      ¬ ∀ block, 10 ≤ block → block < 110 →
        c.Covered (c.windows (some store)) p.exchanges p.sink 0 block := by
  intro c store p
  have hc : c.problem? = none := by decide
  have hend : (Client.ofConfig c).endpoint.isSome := by decide +kernel
  have hn : c.cursor? store = some 10 :=
    c.cursor?_mark Checkpoint.Store.written_nil (by decide)
  have hwindows : c.windows (some store) = [⟨100, 110⟩] := by
    rw [Config.windows, Config.firstBlock_some, hn]
    decide
  have hwritten : store.Written := Checkpoint.Store.written_nil.save _ _ _
  -- from here on nothing depends on what is in the store
  clear_value store
  obtain ⟨-, -, hstore⟩ := scan_silent hc hend (Config.readable_of_cursor? hn)
  have hn' : p.store.bind c.cursor? = some 110 := by
    have hp : p.store = some (c.mark 110 store) := by
      rw [hwindows, c.marked_of_getLast? rfl] at hstore
      exact hstore
    rw [hp, Option.bind_some]
    exact c.cursor?_mark hwritten (by decide)
  refine ⟨hc, hn, hn', by rw [hwindows]; decide, fun h => ?_⟩
  obtain ⟨i, w, hw, -, -, hhas⟩ := h 10 (by decide) (by decide)
  have hmem : w ∈ [(⟨100, 110⟩ : Window)] := by
    rw [← hwindows]
    exact List.mem_of_getElem? hw
  obtain rfl := List.mem_singleton.mp hmem
  exact absurd hhas (by decide)

/-! ## Scans with nothing to do -/

section Idle

variable {σ : Type} {c : Config}

/-- **A scan without windows** asks nothing, writes nothing and counts nothing. -/
theorem scan_of_no_windows (hc : c.problem? = none) (explorer : Explorer σ) (s : σ) (sink : Sink)
    {store : Checkpoint.Store} (hr : c.Readable (some store))
    (hws : c.windows (some store) = []) :
    let r := scan c explorer (Progress.start s sink (some store))
    r.2 = .ok Report.zero ∧ r.1.exchanges = [] ∧ r.1.sink = sink ∧ r.1.store = some store := by
  intro r
  obtain ⟨j, j', p', result, hswept, hscan⟩ :=
    scan_swept hc (Setup.ofConfig c explorer).answered_any hr s sink
  rw [hws] at hswept
  cases hswept with
  | done =>
      have hr : r = _ := hscan
      rw [hr]
      exact ⟨rfl, rfl, rfl, rfl⟩

end Idle

/-- **A scan after one that has completed all its windows** has nothing to do, and the
checkpoint stands at the end of the last window, exactly if this end has 63 bits and the row of
the checkpoint is the one that is found. -/
theorem scan_idle_iff {σ : Type} (c : Config) (hc : c.problem? = none) (explorer : Explorer σ)
    (s : σ) (sink : Sink) (store : Checkpoint.Store) (report : Report) (last : Window)
    (hok : (scan c explorer (Progress.start s sink (some store))).2 = .ok report)
    (hcompleted : ∀ w ∈ c.windows (some store),
      c.Completed (scan c explorer (Progress.start s sink (some store))).1.exchanges w)
    (hlast : (c.windows (some store)).getLast? = some last) :
    let p := (scan c explorer (Progress.start s sink (some store))).1
    (p.store.bind c.cursor? = some last.stop ∧
      ∀ (explorer' : Explorer σ) (s' : σ) (sink' : Sink),
        let r' := scan c explorer' (Progress.start s' sink' p.store)
        r'.2 = .ok Report.zero ∧ r'.1.exchanges = [] ∧ r'.1.sink = sink' ∧
          r'.1.store = p.store) ↔
      last.stop < 2 ^ 63 ∧ c.Lowered store := by
  intro p
  have hfits := Config.fits_of_problem? hc
  have hmem : last ∈ c.windows (some store) := List.mem_of_getLast? hlast
  have hstore : p.store = some (c.mark last.stop store) := by
    have h := scan_store_of_completed hc explorer s sink store hok hcompleted
    rw [c.marked_of_getLast? hlast] at h
    exact h
  have hbind : p.store.bind c.cursor? = c.cursor? (c.mark last.stop store) := by
    rw [hstore, Option.bind_some]
  constructor
  · rintro ⟨hcursor, -⟩
    rw [hbind] at hcursor
    obtain ⟨-, hblocks⟩ :=
      Window.first_lt_of_mem_partition hfits.blockRange_pos c.toBlock_le_lastBlock hmem
    by_cases hlow : c.Lowered store
    · refine ⟨?_, hlow⟩
      -- a number of 64 bits would be read back as zero, and no window ends there
      rw [c.cursor?_mark_of_lowered hlow (Window.stop_le_of_mem_row hmem),
        Option.some.injEq] at hcursor
      split at hcursor <;> omega
    · -- the checkpoint has not moved, and no window ends at it
      rw [c.cursor?_mark_of_not_lowered hlow] at hcursor
      have hle := Config.cursor?_le_firstBlock hcursor
      have hfirst := Window.first_le_of_mem_row hmem
      omega
  · rintro ⟨hbits, hlow⟩
    have hcursor : c.cursor? (c.mark last.stop store) = some last.stop := by
      rw [c.cursor?_mark_of_lowered hlow (Window.stop_le_of_mem_row hmem), if_pos hbits]
    refine ⟨hbind.trans hcursor, fun explorer' s' sink' => ?_⟩
    have hreach := Window.le_stop_of_getLast? hfits.blockRange_pos c.toBlock_le_lastBlock hlast
    rw [hstore]
    exact scan_of_no_windows hc explorer' s' sink' (Config.readable_of_cursor? hcursor)
      (Config.windows_eq_nil hcursor hreach)

/-- Three windows without logs, after which nothing is left to be scanned. -/
theorem scan_idle_after_three_windows :
    let c : Config := { Config.default [] with fromBlock := 0, toBlock := 25, blockRange := 10 }
    let p := (scan c Explorer.silent (Progress.start () Sink.unlimited (some []))).1
    c.problem? = none ∧ p.store.bind c.cursor? = some 30 ∧
      ∀ (explorer' : Explorer Unit) (s' : Unit) (sink' : Sink),
        let r' := scan c explorer' (Progress.start s' sink' p.store)
        r'.2 = .ok Report.zero ∧ r'.1.exchanges = [] ∧ r'.1.sink = sink' ∧
          r'.1.store = p.store := by
  intro c p
  have hc : c.problem? = none := by decide
  have hend : (Client.ofConfig c).endpoint.isSome := by decide +kernel
  have hwritten : Checkpoint.Store.Written [] := Checkpoint.Store.written_nil
  have hlast : (c.windows (some [])).getLast? = some ⟨20, 30⟩ := by decide
  obtain ⟨⟨report, hok⟩, hcompleted, -⟩ := scan_silent hc hend (c.readable_of_written hwritten)
  exact ⟨hc, (scan_idle_iff c hc Explorer.silent () Sink.unlimited [] report ⟨20, 30⟩ hok
    hcompleted hlast).mpr ⟨by decide, hwritten.lowered _ _⟩⟩

/-- One window without logs, whose end has 64 bits. It is completed, but the checkpoint is read
back as zero, and the next scan asks about the window once more. -/
theorem scan_forgets_large_block :
    let c : Config := { Config.default [] with
      fromBlock := 9223372036854775800, toBlock := 9223372036854775805, blockRange := 10 }
    let last : Window := ⟨9223372036854775800, 9223372036854775810⟩
    let r := scan c Explorer.silent (Progress.start () Sink.unlimited (some []))
    let r' := scan c Explorer.silent (Progress.start () Sink.unlimited r.1.store)
    c.problem? = none ∧ (∃ report, r.2 = .ok report) ∧ c.windows (some []) = [last] ∧
      c.Completed r.1.exchanges last ∧ r.1.store.bind c.cursor? = some 0 ∧
        r'.1.exchanges ≠ [] := by
  intro c last r r'
  have hc : c.problem? = none := by decide
  have hend : (Client.ofConfig c).endpoint.isSome := by decide +kernel
  have hwritten : Checkpoint.Store.Written [] := Checkpoint.Store.written_nil
  have hwindows : c.windows (some []) = [last] := by decide
  have hcursor : c.cursor? (c.mark last.stop []) = some 0 :=
    c.cursor?_mark_of_lowered (hwritten.lowered _ _) (by decide)
  have hagain : c.windows (some (c.mark last.stop [])) = [last] := by
    rw [Config.windows, Config.firstBlock_some, hcursor]
    decide
  -- from here on nothing depends on what the configuration is like
  clear_value c
  obtain ⟨hok, hcompleted, hstore⟩ := scan_silent hc hend (c.readable_of_written hwritten)
  rw [hwindows, c.marked_of_getLast? (w := last) rfl] at hstore
  refine ⟨hc, hok, hwindows, hcompleted last (by rw [hwindows]; exact List.mem_cons_self), ?_, ?_⟩
  · show (scan c Explorer.silent _).1.store.bind c.cursor? = some 0
    rw [hstore, Option.bind_some]
    exact hcursor
  · show (scan c Explorer.silent (Progress.start () Sink.unlimited
      (scan c Explorer.silent (Progress.start () Sink.unlimited (some []))).1.store)).1.exchanges
        ≠ []
    rw [hstore]
    obtain ⟨-, hcompleted', -⟩ := scan_silent hc hend (Config.readable_of_cursor? hcursor)
    obtain ⟨x, -, hx, -⟩ := hcompleted' last (by rw [hagain]; exact List.mem_cons_self)
    intro hnil
    rw [hnil] at hx
    cases hx

end DepositTrail
