import DepositTrail.Proofs.ScanSeries

set_option autoImplicit false

/-! # Series of scans of a growing chain

Between the rounds of a series the chain grows, and the explorer has the logs of more and more
blocks. Each round asks about all blocks from where the one before has ended up to the end of
its own last window. Since the last window has the size of the others, this end may lie past the
last configured block, and so past the blocks there are.

No two rounds ask about the same block, so a log is written by a series exactly if its block was
there when the series came to it (`growing_series_iff`). This holds of all blocks below those at
which a round was configured to end. But of the blocks past them nobody knows, and the logs of
those that come into being later are lost.
-/

namespace DepositTrail

/-! ## The end of the last window -/

namespace Config

variable {c : Config}

/-- **After all windows are passed**, a next scan would start at the configured end or past it,
and the blocks that were passed are the ones in the windows. -/
theorem firstBlock_marked (hc : c.problem? = none) {store : Checkpoint.Store}
    (hlow : c.Lowered store) (hw : ∀ w ∈ c.windows (some store), w.stop < 2 ^ 63) :
    let store' := c.marked (c.windows (some store)) store
    c.toBlock.toNat ≤ c.firstBlock (some store') ∧
      ∀ block, (∃ w ∈ c.windows (some store), w.Has block) ↔
        c.firstBlock (some store) ≤ block ∧ block < c.firstBlock (some store') := by
  intro store'
  have hfits := Config.fits_of_problem? hc
  cases hlast : (c.windows (some store)).getLast? with
  | none =>
      -- without windows there is nothing between the first block and the configured end
      have hnil : c.windows (some store) = [] := List.getLast?_eq_none_iff.mp hlast
      have hsame : store' = store := by
        show c.marked (c.windows (some store)) store = store
        rw [hnil]
        rfl
      rw [hsame, hnil]
      refine ⟨Window.le_of_partition_eq_nil hnil, fun block => ⟨?_, ?_⟩⟩
      · rintro ⟨w, hmem, -⟩
        cases hmem
      · rintro ⟨hle, hlt⟩
        omega
  | some last =>
      have hmem : last ∈ c.windows (some store) := List.mem_of_getLast? hlast
      have hcursor : c.cursor? store' = some last.stop := by
        show c.cursor? (c.marked (c.windows (some store)) store) = some last.stop
        rw [c.marked_of_getLast? hlast,
          c.cursor?_mark_of_lowered hlow (Window.stop_le_of_mem_row hmem), if_pos (hw last hmem)]
      have hnext : c.firstBlock (some store') = last.stop := by
        obtain ⟨-, hblocks⟩ :=
          Window.first_lt_of_mem_partition hfits.blockRange_pos c.toBlock_le_lastBlock hmem
        have hfirst := Window.first_le_of_mem_row hmem
        have hfrom := c.fromBlock_le_firstBlock (some store)
        rw [firstBlock_some, hcursor, Option.getD_some]
        omega
      rw [hnext]
      exact ⟨Window.le_stop_of_getLast? hfits.blockRange_pos c.toBlock_le_lastBlock hlast,
        fun block => Window.exists_mem_has_iff hfits.blockRange_pos hlast⟩

/-! ## Akin configurations and stores -/

namespace Akin

variable {c' : Config}

theorem lowered (h : c.Akin c') (s : Checkpoint.Store) : c'.Lowered s ↔ c.Lowered s := by
  rw [Lowered, Lowered, h.contract, h.eventTopic]

end Akin

/-- Moving the checkpoint leaves its row the one that is found. -/
theorem Lowered.marked {store : Checkpoint.Store} (h : c.Lowered store) (ws : List Window) :
    c.Lowered (c.marked ws store) := by
  cases hlast : ws.getLast? with
  | none =>
      have hnil : ws = [] := List.getLast?_eq_none_iff.mp hlast
      rw [hnil]
      exact h
  | some w =>
      rw [c.marked_of_getLast? hlast]
      exact Checkpoint.Store.Lowered.save h _

end Config

/-! ## Rounds that miss nothing -/

/-- The logs of the blocks below a head of the chain. -/
def below (head : Nat) (l : List HeldLog) : List HeldLog := l.filter fun x => x.block < head

theorem mem_below {head : Nat} {l : List HeldLog} {x : HeldLog} :
    x ∈ below head l ↔ x ∈ l ∧ x.block < head := by
  simp [below]

namespace Round

variable {r : Round} {store : Checkpoint.Store} {l : List HeldLog}

/-- The logs in the windows of a round, window by window. -/
def brings (r : Round) (store : Checkpoint.Store) (l : List HeldLog) : List HeldLog :=
  (r.windows store).flatMap (heldIn l)

theorem mem_brings {x : HeldLog} :
    x ∈ r.brings store l ↔ x ∈ l ∧ ∃ w ∈ r.windows store, w.Has x.block := by
  simp only [brings, List.mem_flatMap, Window.mem_cut]
  constructor
  · rintro ⟨w, hw, hx, hhas⟩
    exact ⟨hx, w, hw, hhas⟩
  · rintro ⟨hx, w, hw, hhas⟩
    exact ⟨w, hw, hx, hhas⟩

/-- A round comes to its end and misses no log that the explorer holds in its windows. -/
structure Thorough (r : Round) (store : Checkpoint.Store) (l : List HeldLog) : Prop where
  valid : r.config.problem? = none
  holds : r.explorer.Holds r.config l
  belowCeiling : ∀ w ∈ r.windows store,
    (heldIn l w).length < r.config.maxPages * r.config.pageSize.toNat
  ended : ∃ report, (r.outcome store).2 = .ok report
  stops : ∀ w ∈ r.windows store, w.stop < 2 ^ 63

/-- **A thorough round** writes the lines of the logs in its windows, and moves the checkpoint
past all of them. -/
theorem Thorough.result (h : r.Thorough store l) :
    (r.outcome store).1.sink.taken = r.sink.taken ++
        ((r.brings store l).filterMap (HeldLog.line? r.config)).flatMap Text.utf8 ∧
      r.leaves store = r.config.marked (r.windows store) store := by
  obtain ⟨report, hreport⟩ := h.ended
  obtain ⟨-, hheld⟩ := scan_held h.valid h.holds r.state r.sink (readable_of_scan_ok hreport)
    h.belowCeiling
  obtain ⟨hcompleted, htaken⟩ := hheld report hreport
  exact ⟨htaken, leaves_eq
    (scan_store_of_completed h.valid r.explorer r.state r.sink store hreport hcompleted)⟩

/-- A round of an explorer with fewer logs than the ceiling is thorough, if the store can be read
and the sink is healthy. -/
theorem Thorough.of_holds (hc : r.config.problem? = none) (hx : r.explorer.Holds r.config l)
    (hfew : l.length < r.config.maxPages * r.config.pageSize.toNat)
    (hstops : r.config.toBlock.toNat + r.config.blockRange.toNat < 2 ^ 63)
    (hsink : r.sink.Healthy) (hr : r.config.Readable (some store)) : r.Thorough store l where
  valid := hc
  holds := hx
  belowCeiling _ _ := Nat.lt_of_le_of_lt (List.length_filter_le _ _) hfew
  ended :=
    (scan_held hc hx r.state r.sink hr fun _ _ =>
      Nat.lt_of_le_of_lt (List.length_filter_le _ _) hfew).1 hsink
  stops _ hw :=
    Nat.lt_trans (Window.stop_lt_of_mem_partition (Config.fits_of_problem? hc).blockRange_pos
      r.config.toBlock_le_lastBlock hw) hstops

end Round

/-! ## Whole series -/

section Series

variable {c : Config} {rounds : List Round} {store : Checkpoint.Store} {l : List HeldLog}
  {head : Nat → Nat}

/-- What is asked of the rounds of a series of a growing chain: they are akin, and each of them
is thorough as to the blocks below the head of the chain, which is not before the block at which
the round is configured to end. -/
def Config.Growing (c : Config) (rounds : List Round) (store : Checkpoint.Store)
    (l : List HeldLog) (head : Nat → Nat) : Prop :=
  ∀ (i : Nat) (r : Round), rounds[i]? = some r → c.Akin r.config ∧
    r.Thorough (Round.storeBefore store rounds i) (below (head i) l) ∧
    r.config.toBlock.toNat ≤ head i

theorem Config.growing_nil : c.Growing [] store l head := by
  intro i r hr
  cases hr

/-- One round more at the beginning of a series. -/
theorem Config.growing_cons {r : Round} (hakin : c.Akin r.config)
    (hthorough : r.Thorough store (below (head 0) l)) (hhead : r.config.toBlock.toNat ≤ head 0)
    (hrest : c.Growing rounds (r.leaves store) l fun i => head (i + 1)) :
    c.Growing (r :: rounds) store l head := by
  intro i r' hr'
  cases i with
  | zero =>
      obtain rfl := Option.some.inj hr'
      exact ⟨hakin, hthorough, hhead⟩
  | succ i => exact hrest i r' hr'

/-- Two rounds, and a log whose block is there only in the second one. -/
theorem Config.growing_two {c' : Config} {x : HeldLog} {body : Text} (hc : c.problem? = none)
    (hc' : c'.problem? = none) (hakin : c.Akin c')
    (hend : (Client.ofConfig c).endpoint.isSome) (hend' : (Client.ofConfig c').endpoint.isSome)
    (hbody : ((Reply.ofBody body).attempt.envelope?.map fun e =>
      (e.status, e.result.items?.map (List.map RawLog.ofJson?)))
        = some (['1'], some [some x.raw]))
    (hmost : 1 < c'.maxPages * c'.pageSize.toNat)
    (hstops : c.toBlock.toNat + c.blockRange.toNat < 2 ^ 63)
    (hstops' : c'.toBlock.toNat + c'.blockRange.toNat < 2 ^ 63)
    (hto : c.toBlock.toNat ≤ head 0) (hto' : c'.toBlock.toNat ≤ head 1)
    (hblock : head 0 ≤ x.block) (hblock' : x.block < head 1) :
    c.Growing [Round.silent c, ⟨Unit, c', Explorer.ofLog x body, (), Sink.unlimited⟩] [] [x]
      head := by
  have hfits := Config.fits_of_problem? hc
  have hwritten : Checkpoint.Store.Written [] := Checkpoint.Store.written_nil
  have hnone : below (head 0) [x] = [] := by
    simp [below, hblock]
  have hall : below (head 1) [x] = [x] := by
    simp [below, hblock']
  apply Config.growing_cons ⟨rfl, rfl, rfl⟩ _ hto
  · apply Config.growing_cons hakin _ hto' Config.growing_nil
    rw [hall]
    refine Round.Thorough.of_holds hc' (Explorer.ofLog_holds hend' hbody) hmost hstops'
      Sink.healthy_unlimited ?_
    rw [Round.leaves_silent hc hend (c.readable_of_written hwritten)]
    exact c'.readable_of_written (c.written_marked _ hwritten)
  · rw [hnone]
    exact Round.Thorough.of_holds hc (Explorer.silent_holds hend)
      (Nat.mul_pos hfits.maxPages_pos hfits.pageSize_pos) hstops Sink.healthy_unlimited
      (c.readable_of_written hwritten)

theorem Config.Growing.series (h : c.Growing rounds store l head) : c.Series rounds store := by
  intro i r hr
  obtain ⟨hakin, hthorough, -⟩ := h i r hr
  exact ⟨hthorough.valid, hakin, hthorough.stops⟩

theorem Config.Growing.lowered (h : c.Growing rounds store l head) (hlow : c.Lowered store)
    (i : Nat) : c.Lowered (Round.storeBefore store rounds i) := by
  induction i with
  | zero => exact hlow
  | succ i ih =>
      cases hr : rounds[i]? with
      | none =>
          rw [Round.storeBefore_succ_of_none hr]
          exact ih
      | some r =>
          obtain ⟨hakin, hthorough, -⟩ := h i r hr
          rw [Round.storeBefore_succ hr, hthorough.result.2, ← hakin.lowered]
          exact Config.Lowered.marked ((hakin.lowered _).mpr ih) _

/-- The blocks in the windows of a round are those that the series passes in it, and it passes
all up to the configured end of the round. -/
theorem Config.Growing.round (h : c.Growing rounds store l head) (hlow : c.Lowered store)
    {i : Nat} {r : Round} (hr : rounds[i]? = some r) :
    r.config.toBlock.toNat ≤ c.firstBlock (some (Round.storeBefore store rounds (i + 1))) ∧
      ∀ block, (∃ w ∈ r.windows (Round.storeBefore store rounds i), w.Has block) ↔
        c.firstBlock (some (Round.storeBefore store rounds i)) ≤ block ∧
          block < c.firstBlock (some (Round.storeBefore store rounds (i + 1))) := by
  obtain ⟨hakin, hthorough, -⟩ := h i r hr
  have hlowered := (hakin.lowered _).mpr (h.lowered hlow i)
  rw [Round.storeBefore_succ hr, hthorough.result.2, ← hakin.firstBlock, ← hakin.firstBlock]
  exact Config.firstBlock_marked hthorough.valid hlowered hthorough.stops

/-- No block lies in the windows of two rounds. -/
theorem Config.Growing.unique (h : c.Growing rounds store l head) (hlow : c.Lowered store)
    {i j block : Nat} {r r' : Round} (hr : rounds[i]? = some r) (hr' : rounds[j]? = some r')
    (hw : ∃ w ∈ r.windows (Round.storeBefore store rounds i), w.Has block)
    (hw' : ∃ w ∈ r'.windows (Round.storeBefore store rounds j), w.Has block) : i = j := by
  obtain ⟨hle, hlt⟩ := ((h.round hlow hr).2 block).mp hw
  obtain ⟨hle', hlt'⟩ := ((h.round hlow hr').2 block).mp hw'
  rcases Nat.lt_trichotomy i j with hij | hij | hij
  · have hforward := (h.series.forward (show i + 1 ≤ j from hij)).1
    omega
  · exact hij
  · have hforward := (h.series.forward (show j + 1 ≤ i from hij)).1
    omega

/-- Every block from the first configured one up to the configured end of the last round lies in
a window of some round. -/
theorem Config.Growing.exists_round (h : c.Growing rounds store l head)
    (hcursor : c.cursor? store = none) (hlow : c.Lowered store) {last : Round}
    (hlast : rounds.getLast? = some last) {block : Nat} (hfrom : c.fromBlock.toNat ≤ block)
    (hto : block < last.config.toBlock.toNat) :
    ∃ (i : Nat) (r : Round), rounds[i]? = some r ∧
      ∃ w ∈ r.windows (Round.storeBefore store rounds i), w.Has block := by
  rw [List.getLast?_eq_getElem?] at hlast
  have hreach := (h.round hlow hlast).1
  obtain ⟨i, r, -, hr, hle, hlt⟩ := Config.exists_round_passing hcursor hfrom
    (Nat.lt_of_lt_of_le hto hreach)
  rw [← Round.storeBefore_succ hr] at hlt
  exact ⟨i, r, hr, ((h.round hlow hr).2 block).mpr ⟨hle, hlt⟩⟩

end Series

/-- **A series of scans of a growing chain.** Each round writes the lines of the logs that were
held in its windows. A log below the configured end of the last round is among them, unless a
round has asked about its block past the configured end of this round, when the block was not
yet below the head of the chain. -/
theorem growing_series_iff (c : Config) (rounds : List Round) (store : Checkpoint.Store)
    (l : List HeldLog) (head : Nat → Nat) (last : Round)
    (hstore : store.load c.contract.checksummed c.eventTopic.toText = .ok none)
    (hrounds : c.Growing rounds store l head) (hlast : rounds.getLast? = some last) :
    let logs (i : Nat) (r : Round) :=
      r.brings (Round.storeBefore store rounds i) (below (head i) l)
    (∀ (i : Nat) (r : Round), rounds[i]? = some r →
      (r.outcome (Round.storeBefore store rounds i)).1.sink.taken = r.sink.taken ++
        ((logs i r).filterMap (HeldLog.line? r.config)).flatMap Text.utf8) ∧
    ∀ x ∈ l, c.fromBlock.toNat ≤ x.block → x.block < last.config.toBlock.toNat →
      ((∃ i r, rounds[i]? = some r ∧ x ∈ logs i r) ↔
        ∀ (i : Nat) (r : Round), rounds[i]? = some r →
          ∀ w ∈ r.windows (Round.storeBefore store rounds i), w.Has x.block →
            r.config.toBlock.toNat ≤ x.block → x.block < head i) := by
  intro logs
  have hcursor : c.cursor? store = none := by
    rw [Config.cursor?, hstore]
  have hlow : c.Lowered store := Checkpoint.Store.lowered_of_load_none hstore
  refine ⟨fun i r hr => (hrounds i r hr).2.1.result.1, fun x hx hfrom hto => ⟨?_, fun hheads => ?_⟩⟩
  · rintro ⟨i, r, hr, hlogs⟩ j r' hr' w hw hhas -
    obtain ⟨hbelow, hwindow⟩ := Round.mem_brings.mp hlogs
    obtain rfl := hrounds.unique hlow hr hr' hwindow ⟨w, hw, hhas⟩
    exact (mem_below.mp hbelow).2
  · obtain ⟨i, r, hr, w, hw, hhas⟩ := hrounds.exists_round hcursor hlow hlast hfrom hto
    have hhead := (hrounds i r hr).2.2
    refine ⟨i, r, hr, Round.mem_brings.mpr ⟨mem_below.mpr ⟨hx, ?_⟩, w, hw, hhas⟩⟩
    by_cases hend : r.config.toBlock.toNat ≤ x.block
    · exact hheads i r hr w hw hhas hend
    · omega

/-- A log in block 17. The first of two rounds ends at block 10, and the second one, whose last
window ends at block 20, finds the log. -/
theorem growing_series_found :
    let c : Config := { Config.default [] with fromBlock := 0, toBlock := 10, blockRange := 10 }
    let c' : Config := { c with toBlock := 18 }
    let log : HeldLog :=
      ⟨17, ⟨[], "0x".toList, "0x11".toList⟩, ⟨['1', '1'], by decide, rfl, by decide⟩⟩
    let body : Text := "[\"1\",\"OK\",[[[],\"0x\",\"0x11\"]]]".toList
    let second : Round := ⟨Unit, c', Explorer.ofLog log body, (), Sink.unlimited⟩
    let rounds := [Round.silent c, second]
    let head (i : Nat) := if i = 0 then 12 else 18
    c.Growing rounds [] [log] head ∧
      ∃ (i : Nat) (r : Round), rounds[i]? = some r ∧
        log ∈ r.brings (Round.storeBefore [] rounds i) (below (head i) [log]) := by
  intro c c' log body second rounds head
  have hgrowing : c.Growing rounds [] [log] head :=
    Config.growing_two (by decide) (by decide) ⟨rfl, rfl, rfl⟩ (by decide +kernel)
      (by decide +kernel) (by decide +kernel) (by decide) (by decide) (by decide) (by decide)
      (by decide) (by decide) (by decide)
  have hwindows : c.windows (some []) = [⟨0, 10⟩] := by decide
  have hto : c'.toBlock.toNat = 18 := by decide
  refine ⟨hgrowing, ?_⟩
  apply ((growing_series_iff c rounds [] [log] head second rfl hgrowing rfl).2 log
    (List.mem_singleton_self log) (Nat.zero_le 17) (show 17 < c'.toBlock.toNat by omega)).mpr
  intro i r hr w hw hhas hpast
  rcases i with _ | _ | i
  · -- the window of the first round ends before the log
    obtain rfl := Option.some.inj hr
    have hmem : w ∈ c.windows (some []) := hw
    rw [hwindows, List.mem_singleton] at hmem
    rw [hmem] at hhas
    exact absurd hhas (by decide)
  · -- the second round is configured to end after the log
    obtain rfl := Option.some.inj hr
    have hpast' : c'.toBlock.toNat ≤ 17 := hpast
    omega
  · cases hr

/-- The log of a deposit in block 17. The first of two rounds is configured to end at block 15,
which is the head of the chain, but its last window ends at block 20, and so does its
checkpoint. The second round does not ask about block 17 any more, and both write nothing. -/
theorem growing_series_loses_deposit :
    let c : Config := { Config.default [] with fromBlock := 0, toBlock := 15, blockRange := 10 }
    let c' : Config := { c with toBlock := 20 }
    let data : Text := "0x".toList ++ List.replicate 320 '0'
    let log : HeldLog := ⟨17, ⟨[Config.depositTopic.toText], data, "0x11".toList⟩,
      ⟨['1', '1'], by decide, rfl, by decide⟩⟩
    let body : Text := "[\"1\",\"OK\",[[[\"".toList ++ Config.depositTopic.toText ++
      "\"],\"".toList ++ data ++ "\",\"0x11\"]]]".toList
    let second : Round := ⟨Unit, c', Explorer.ofLog log body, (), Sink.unlimited⟩
    let rounds := [Round.silent c, second]
    let head (i : Nat) := if i = 0 then 15 else 20
    c.Growing rounds [] [log] head ∧ c.toBlock ≤ c'.toBlock ∧ head 0 ≤ head 1 ∧
      (log.line? c').isSome ∧ c'.fromBlock.toNat ≤ log.block ∧ log.block < c'.toBlock.toNat ∧
        ∀ (i : Nat) (r : Round), rounds[i]? = some r →
          (r.outcome (Round.storeBefore [] rounds i)).1.sink.taken = [] := by
  intro c c' data log body second rounds head
  have hgrowing : c.Growing rounds [] [log] head :=
    Config.growing_two (by decide) (by decide) ⟨rfl, rfl, rfl⟩ (by decide +kernel)
      (by decide +kernel) (by decide +kernel) (by decide) (by decide) (by decide) (by decide)
      (by decide) (by decide) (by decide)
  have hlow : c.Lowered [] := Checkpoint.Store.written_nil.lowered _ _
  have hwindows : c.windows (some []) = [⟨0, 10⟩, ⟨10, 20⟩] := by decide
  have hline : (log.line? c').isSome := by decide +kernel
  refine ⟨hgrowing, by decide, by decide, hline, by decide, by decide, fun i r hr => ?_⟩
  have hsink : r.sink.taken = [] := by
    rcases List.mem_pair.mp (List.mem_of_getElem? hr) with rfl | rfl <;> rfl
  have hbrings : r.brings (Round.storeBefore [] rounds i) (below (head i) [log]) = [] := by
    rw [List.eq_nil_iff_forall_not_mem]
    intro x hx
    obtain ⟨hbelow, hwindow⟩ := Round.mem_brings.mp hx
    obtain ⟨hx, hhead⟩ := mem_below.mp hbelow
    obtain rfl := List.mem_singleton.mp hx
    -- the first round alone has a window with the block of the log, and for it there is no log
    have hi : 0 = i := hgrowing.unique hlow (show rounds[0]? = some (Round.silent c) from rfl) hr
      ⟨⟨10, 20⟩, (show _ ∈ c.windows (some []) by rw [hwindows]; decide), by decide⟩ hwindow
    rw [← hi] at hhead
    exact absurd hhead (by decide)
  rw [(hgrowing i r hr).2.1.result.1, hbrings, hsink]
  rfl

end DepositTrail
