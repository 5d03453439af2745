import DepositTrail.Proofs.CheckpointAdvance

set_option autoImplicit false

/-! # Series of scans

The same store is handed from one scan to the next. The scans of such a series are for the same
contract and topic and start at the same block, but each has windows and pages of its own, asks
an explorer of its own, writes to a sink of its own, and may end early.

No block below the checkpoint is left out by such a series, and the checkpoint never goes back
(`series_covered`). A series only ever moves forward the block at which a next scan would start,
and each scan covers the blocks over which it moves it; the windows of different scans need not
fit together for this.
-/

namespace DepositTrail

/-! ## Rounds -/

/-- One scan of a series: how it is configured, whom it asks, and what it writes to. -/
structure Round where
  State : Type
  config : Config
  explorer : Explorer State
  state : State
  sink : Sink

namespace Round

variable (r : Round)

/-- What comes of a round that is begun with a store. -/
def outcome (store : Checkpoint.Store) : Progress r.State × Except ScanProblem Report :=
  scan r.config r.explorer (Progress.start r.state r.sink (some store))

/-- The windows of a round that is begun with a store. -/
def windows (store : Checkpoint.Store) : List Window := r.config.windows (some store)

/-- The store that a round leaves to the next one. There always is one (`scan_store`). -/
def leaves (store : Checkpoint.Store) : Checkpoint.Store :=
  ((r.outcome store).1.store).getD store

/-- A block lies in a window that a round has completed, and after which it has flushed. -/
def Covers (store : Checkpoint.Store) (block : Nat) : Prop :=
  r.config.Covered (r.windows store) (r.outcome store).1.exchanges (r.outcome store).1.sink
    r.sink.flushes block

variable {r}

/-- A round that asks the explorer without logs. -/
def silent (c : Config) : Round := ⟨Unit, c, Explorer.silent, (), Sink.unlimited⟩

theorem leaves_eq {store store' : Checkpoint.Store}
    (h : (r.outcome store).1.store = some store') : r.leaves store = store' := by
  rw [leaves, h, Option.getD_some]

/-- A round without logs moves the checkpoint past all its windows. -/
theorem leaves_silent {c : Config} (hc : c.problem? = none)
    (hend : (Client.ofConfig c).endpoint.isSome) {store : Checkpoint.Store}
    (hr : c.Readable (some store)) :
    (silent c).leaves store = c.marked (c.windows (some store)) store :=
  leaves_eq (scan_silent hc hend hr).2.2

/-- The store before the round with number `i` of a series that begins with a store. After the
last round it stays as it is. -/
def storeBefore (store : Checkpoint.Store) (rounds : List Round) (i : Nat) : Checkpoint.Store :=
  (rounds.take i).foldl (fun s r => r.leaves s) store

@[simp] theorem storeBefore_zero (store : Checkpoint.Store) (rounds : List Round) :
    storeBefore store rounds 0 = store := rfl

theorem storeBefore_succ {store : Checkpoint.Store} {rounds : List Round} {i : Nat}
    (h : rounds[i]? = some r) :
    storeBefore store rounds (i + 1) = r.leaves (storeBefore store rounds i) := by
  rw [storeBefore, List.take_add_one, h, Option.toList_some, List.foldl_append]
  rfl

theorem storeBefore_succ_of_none {store : Checkpoint.Store} {rounds : List Round} {i : Nat}
    (h : rounds[i]? = none) :
    storeBefore store rounds (i + 1) = storeBefore store rounds i := by
  rw [storeBefore, List.take_add_one, h, Option.toList_none, List.append_nil]
  rfl

end Round

/-! ## Rounds for the same blocks -/

/-- Two configurations are for the same contract and topic, and start at the same block. -/
structure Config.Akin (c c' : Config) : Prop where
  contract : c'.contract = c.contract
  eventTopic : c'.eventTopic = c.eventTopic
  fromBlock : c'.fromBlock = c.fromBlock

namespace Config.Akin

variable {c c' : Config}

theorem cursor? (h : c.Akin c') (s : Checkpoint.Store) : c'.cursor? s = c.cursor? s := by
  rw [Config.cursor?, Config.cursor?, h.contract, h.eventTopic]

theorem firstBlock (h : c.Akin c') (store : Option Checkpoint.Store) :
    c'.firstBlock store = c.firstBlock store := by
  have hcursor : c'.cursor? = c.cursor? := funext h.cursor?
  rw [Config.firstBlock, Config.firstBlock, h.fromBlock, hcursor]

end Config.Akin

/-! ## What a round covers -/

section Rounds

variable {c : Config} {r : Round}

/-- **What a round covers**, in terms of a configuration to which that of the round is akin. It
leaves the checkpoint where it stood, or moves it to the end of one of its windows; and it
covers the blocks over which it moves the first block of a next round. -/
theorem Round.covers (hc : r.config.problem? = none) (hakin : c.Akin r.config)
    (store : Checkpoint.Store) (hw : ∀ w ∈ r.windows store, w.stop < 2 ^ 63) :
    (c.cursor? (r.leaves store) = c.cursor? store ∨
      ∃ w ∈ r.windows store, c.cursor? (r.leaves store) = some w.stop) ∧
    ∀ block, c.firstBlock (some store) ≤ block →
      block < c.firstBlock (some (r.leaves store)) → r.Covers store block := by
  obtain ⟨store', hstore, hcursor, hcovers⟩ :=
    scan_covers hc r.explorer r.state r.sink store
  rw [Round.leaves_eq hstore]
  simp only [hakin.cursor?, hakin.firstBlock] at hcursor hcovers
  refine ⟨?_, hcovers⟩
  rcases hcursor with hsame | ⟨w, hmem, hmoved⟩
  · exact Or.inl hsame
  · rw [if_pos (hw w hmem)] at hmoved
    exact Or.inr ⟨w, hmem, hmoved⟩

/-- **A round never moves the checkpoint back**, nor the first block of a next round. -/
theorem Round.forward (hc : r.config.problem? = none) (hakin : c.Akin r.config)
    (store : Checkpoint.Store) (hw : ∀ w ∈ r.windows store, w.stop < 2 ^ 63) :
    c.firstBlock (some store) ≤ c.firstBlock (some (r.leaves store)) ∧
      ∀ n, c.cursor? store = some n → ∃ n', c.cursor? (r.leaves store) = some n' ∧ n ≤ n' := by
  have hfits := Config.fits_of_problem? hc
  obtain ⟨hcursor, -⟩ := Round.covers hc hakin store hw
  rcases hcursor with hsame | ⟨w, hmem, hmoved⟩
  · refine ⟨Nat.le_of_eq (Config.firstBlock_congr hsame.symm), fun n hn => ?_⟩
    exact ⟨n, hsame.trans hn, Nat.le_refl n⟩
  · -- the window begins at the first block of the round or after it, and has a block
    obtain ⟨-, hlt⟩ := Window.first_lt_of_mem_partition hfits.blockRange_pos
      r.config.toBlock_le_lastBlock hmem
    have hfirst := Window.first_le_of_mem_row hmem
    rw [hakin.firstBlock] at hfirst
    refine ⟨?_, fun n hn => ⟨w.stop, hmoved, ?_⟩⟩
    · have hle := Config.cursor?_le_firstBlock hmoved
      omega
    · have hle := Config.cursor?_le_firstBlock hn
      omega

end Rounds

/-! ## Whole series -/

section Series

variable {c : Config} {rounds : List Round} {store : Checkpoint.Store}

/-- What is asked of the rounds of a series: each has a valid configuration, akin to a common
one, and the ends of its windows have 63 bits. -/
def Config.Series (c : Config) (rounds : List Round) (store : Checkpoint.Store) : Prop :=
  ∀ (i : Nat) (r : Round), rounds[i]? = some r → r.config.problem? = none ∧ c.Akin r.config ∧
    ∀ w ∈ r.windows (Round.storeBefore store rounds i), w.stop < 2 ^ 63

/-- Numbers that rise from below a block to above it pass it at some step. -/
theorem exists_passing {f : Nat → Nat} {block n : Nat} (hfirst : f 0 ≤ block)
    (hlast : block < f n) : ∃ i < n, f i ≤ block ∧ block < f (i + 1) := by
  induction n with
  | zero => omega
  | succ n ih =>
      by_cases h : block < f n
      · obtain ⟨i, hi, hpasses⟩ := ih h
        exact ⟨i, Nat.lt_succ_of_lt hi, hpasses⟩
      · exact ⟨n, Nat.lt_succ_self n, by omega, hlast⟩

/-- The first block never goes back in a series, nor does the checkpoint. -/
theorem Config.Series.forward (h : c.Series rounds store) {i j : Nat} (hij : i ≤ j) :
    c.firstBlock (some (Round.storeBefore store rounds i))
        ≤ c.firstBlock (some (Round.storeBefore store rounds j)) ∧
      ∀ n, c.cursor? (Round.storeBefore store rounds i) = some n →
        ∃ n', c.cursor? (Round.storeBefore store rounds j) = some n' ∧ n ≤ n' := by
  induction hij with
  | refl => exact ⟨Nat.le_refl _, fun n hn => ⟨n, hn, Nat.le_refl n⟩⟩
  | @step j _ ih =>
      obtain ⟨hfirst, hcursor⟩ := ih
      cases hr : rounds[j]? with
      | none =>
          rw [Round.storeBefore_succ_of_none hr]
          exact ⟨hfirst, hcursor⟩
      | some r =>
          obtain ⟨hc, hakin, hw⟩ := h j r hr
          obtain ⟨hfirst', hcursor'⟩ := Round.forward hc hakin _ hw
          rw [Round.storeBefore_succ hr]
          refine ⟨Nat.le_trans hfirst hfirst', fun n hn => ?_⟩
          obtain ⟨m, hm, hle⟩ := hcursor n hn
          obtain ⟨m', hm', hle'⟩ := hcursor' m hm
          exact ⟨m', hm', Nat.le_trans hle hle'⟩

/-- Every block that was passed in a series was passed in one of its rounds. -/
theorem Config.exists_round_passing (hcursor : c.cursor? store = none) {i block : Nat}
    (hfrom : c.fromBlock.toNat ≤ block)
    (hblock : block < c.firstBlock (some (Round.storeBefore store rounds i))) :
    ∃ j r, j < i ∧ rounds[j]? = some r ∧
      c.firstBlock (some (Round.storeBefore store rounds j)) ≤ block ∧
      block < c.firstBlock (some (r.leaves (Round.storeBefore store rounds j))) := by
  have hzero : c.firstBlock (some (Round.storeBefore store rounds 0)) ≤ block := by
    rw [Round.storeBefore_zero, Config.firstBlock_some, hcursor]
    exact Nat.max_le.mpr ⟨hfrom, Nat.zero_le _⟩
  obtain ⟨j, hj, hle, hlt⟩ := exists_passing
    (f := fun j => c.firstBlock (some (Round.storeBefore store rounds j))) hzero hblock
  cases hr : rounds[j]? with
  | none =>
      rw [Round.storeBefore_succ_of_none hr] at hlt
      omega
  | some r =>
      rw [Round.storeBefore_succ hr] at hlt
      exact ⟨j, r, hj, hr, hle, hlt⟩

end Series

/-- **No block below the checkpoint is left out** by a series of scans that begins with a store
without a checkpoint. However its rounds have ended, every block from the first configured one
up to the checkpoint lies in a window that an earlier round has completed and flushed. And the
checkpoint never goes back. -/
theorem series_covered (c : Config) (rounds : List Round) (store : Checkpoint.Store)
    (hstore : store.load c.contract.checksummed c.eventTopic.toText = .ok none)
    (hrounds : ∀ r ∈ rounds, r.config.problem? = none ∧ r.config.contract = c.contract ∧
      r.config.eventTopic = c.eventTopic ∧ r.config.fromBlock = c.fromBlock)
    (hw : ∀ (i : Nat) (r : Round), rounds[i]? = some r →
      ∀ w ∈ r.windows (Round.storeBefore store rounds i), w.stop < 2 ^ 63) :
    ∀ i n, c.cursor? (Round.storeBefore store rounds i) = some n →
      (∀ block, c.fromBlock.toNat ≤ block → block < n →
        ∃ j r, j < i ∧ rounds[j]? = some r ∧
          r.Covers (Round.storeBefore store rounds j) block) ∧
      ∀ j, i ≤ j → ∃ n', c.cursor? (Round.storeBefore store rounds j) = some n' ∧ n ≤ n' := by
  have hseries : c.Series rounds store := by
    intro i r hr
    obtain ⟨hc, hcontract, htopic, hfrom⟩ := hrounds r (List.mem_of_getElem? hr)
    exact ⟨hc, ⟨hcontract, htopic, hfrom⟩, hw i r hr⟩
  have hcursor : c.cursor? store = none := by
    rw [Config.cursor?, hstore]
  intro i n hn
  refine ⟨fun block hfrom hblock => ?_, fun j hij => (hseries.forward hij).2 n hn⟩
  have hpassed : block < c.firstBlock (some (Round.storeBefore store rounds i)) :=
    Nat.lt_of_lt_of_le hblock (Config.cursor?_le_firstBlock hn)
  obtain ⟨j, r, hj, hr, hle, hlt⟩ := Config.exists_round_passing hcursor hfrom hpassed
  obtain ⟨hc, hakin, hstops⟩ := hseries j r hr
  exact ⟨j, r, hj, hr, (Round.covers hc hakin _ hstops).2 block hle hlt⟩

/-- Two rounds without logs, of which the second one has smaller windows. It begins where the
first one has ended, past the blocks for which that was configured. -/
theorem series_covered_two_rounds :
    let c : Config := { Config.default [] with fromBlock := 0, toBlock := 25, blockRange := 10 }
    let c' : Config := { c with toBlock := 40, blockRange := 7 }
    let rounds := [Round.silent c, Round.silent c']
    c.problem? = none ∧ c'.problem? = none ∧
      c.cursor? (Round.storeBefore [] rounds 1) = some 30 ∧
      c.cursor? (Round.storeBefore [] rounds 2) = some 44 ∧
        ∀ block < 44, ∃ j r, j < 2 ∧ rounds[j]? = some r ∧
          r.Covers (Round.storeBefore [] rounds j) block := by
  intro c c' rounds
  have hc : c.problem? = none := by decide
  have hc' : c'.problem? = none := by decide
  have hend : (Client.ofConfig c).endpoint.isSome := by decide +kernel
  have hend' : (Client.ofConfig c').endpoint.isSome := by decide +kernel
  have hakin : c.Akin c' := ⟨rfl, rfl, rfl⟩
  have hfrom : c.fromBlock.toNat = 0 := by decide
  have hlast : (c.windows (some [])).getLast? = some ⟨20, 30⟩ := by decide
  have hlast' : (Window.partition 30 c'.toBlock.toNat c'.blockRange.toNat).getLast?
      = some ⟨37, 44⟩ := by decide
  have hbits : c.toBlock.toNat + c.blockRange.toNat < 2 ^ 63 := by decide
  have hbits' : c'.toBlock.toNat + c'.blockRange.toNat < 2 ^ 63 := by decide
  -- from here on nothing depends on what else the configurations are like
  clear_value c' c
  have hwritten : Checkpoint.Store.Written [] := Checkpoint.Store.written_nil
  have hone : Round.storeBefore [] rounds 1 = c.mark 30 [] := by
    rw [Round.storeBefore_succ (show rounds[0]? = some (Round.silent c) from rfl),
      Round.storeBefore_zero, Round.leaves_silent hc hend (c.readable_of_written hwritten)]
    exact c.marked_of_getLast? hlast []
  have hcursor : c.cursor? (c.mark 30 []) = some 30 := c.cursor?_mark hwritten (by decide)
  have hfirst : c.firstBlock (some (c.mark 30 [])) = 30 := by
    rw [Config.firstBlock_some, hcursor, hfrom]
    rfl
  have htwo : Round.storeBefore [] rounds 2 = c'.mark 44 (c.mark 30 []) := by
    have hreadable := Config.readable_of_cursor? ((hakin.cursor? _).trans hcursor)
    rw [Round.storeBefore_succ (show rounds[1]? = some (Round.silent c') from rfl), hone,
      Round.leaves_silent hc' hend' hreadable]
    apply c'.marked_of_getLast? (w := ⟨37, 44⟩)
    rw [Config.windows, hakin.firstBlock, hfirst]
    exact hlast'
  have hcursor' : c.cursor? (c'.mark 44 (c.mark 30 [])) = some 44 := by
    rw [← hakin.cursor?]
    exact c'.cursor?_mark (hwritten.save _ _ _) (by decide)
  have hmem : ∀ r ∈ rounds, r = Round.silent c ∨ r = Round.silent c' := by
    intro r hr
    simpa [rounds] using hr
  rw [hone, htwo]
  refine ⟨hc, hc', hcursor, hcursor', fun block hblock => ?_⟩
  have hcovered := series_covered c rounds [] rfl ?_ ?_ 2 44 (by rw [htwo]; exact hcursor')
  · exact hcovered.1 block (by omega) hblock
  · intro r hr
    rcases hmem r hr with rfl | rfl
    · exact ⟨hc, rfl, rfl, rfl⟩
    · exact ⟨hc', hakin.contract, hakin.eventTopic, hakin.fromBlock⟩
  · intro i r hr w hw
    rcases hmem r (List.mem_of_getElem? hr) with rfl | rfl
    · have hstop := Window.stop_lt_of_mem_partition (Config.fits_of_problem? hc).blockRange_pos
        c.toBlock_le_lastBlock hw
      exact Nat.lt_trans hstop hbits
    · have hstop := Window.stop_lt_of_mem_partition (Config.fits_of_problem? hc').blockRange_pos
        c'.toBlock_le_lastBlock hw
      exact Nat.lt_trans hstop hbits'

end DepositTrail
