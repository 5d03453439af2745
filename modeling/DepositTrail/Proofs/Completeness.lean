import DepositTrail.Proofs.Cursor
import DepositTrail.Proofs.IdealExplorer
import DepositTrail.Proofs.Output

set_option autoImplicit false

/-! # Scans of explorers that hold logs

A scan of an explorer that holds logs comes to its end and gives up no window. It writes the
lines of the logs window by window, of each window as many as the explorer hands out, and tells
in its counts for how many windows these may not have been all (`scan_complete`). If there is
no such window, it has written the lines of all logs up to the end of the last window.

The invariant is about any row of windows (`Swept.held`): what the exchanges about the windows
have brought are the logs held in these windows, up to the ceiling. With it, a scan that begins
at a checkpoint and has no window at the ceiling completes all its windows, and writes the lines
of all logs in them (`scan_held`).
-/

namespace DepositTrail

namespace Setup

variable {σ : Type} {u : Setup σ} {l : List HeldLog}

/-- The exchanges about a finished window, where every attempt brings an envelope, are as many
as its envelopes. -/
theorem Finished.length_exchanges {answers : Nat → Envelope → Prop} {w : Window} {free : Bool}
    {p p' : Progress σ} {xs : List Exchange} {ending : Ending}
    (h : u.Finished answers w free p p' xs ending)
    (hx : ∀ s r, (u.client.send u.explorer r s).1.envelope?.isSome) :
    xs.length = (envelopes xs).length := by
  rw [envelopes, List.length_filterMap_eq_countP, eq_comm, List.countP_eq_length]
  intro x hmem
  obtain ⟨s, hs⟩ := h.sent x hmem
  rw [Exchange.envelope?, hs]
  exact hx s x.request

/-- **What a row of windows brings** that comes to its end, from an explorer that holds logs.
Of each window it brings its logs up to the ceiling; a window is counted as one at the ceiling
if it has so many logs, and none is given up; and a window below the ceiling takes one request
for each full page and one more. -/
theorem Swept.held {ws : List Window} {free : Bool} {p p' : Progress σ}
    {result : Except ScanProblem Unit} (hpos : 0 < u.template.pageSize)
    (hx : ∀ s r, (u.client.send u.explorer r s).1.envelope?.isSome)
    (h : u.Swept (fun w page e => Tells l (u.template.request w page) e) ws free p p' result)
    (hresult : result = .ok ()) (hws : ws.Nodup) :
    ∃ xs, p'.exchanges = p.exchanges ++ xs ∧ (∀ x ∈ xs, ∃ w ∈ ws, x.isAbout w = true) ∧
      (envelopes xs).flatMap Envelope.logs
        = (ws.flatMap fun w =>
            (heldIn l w).take (u.template.maxPages * u.template.pageSize)).map HeldLog.raw ∧
      p'.report.abandoned = p.report.abandoned ∧
      p'.report.ceilings = p.report.ceilings
        + (ws.filter fun w =>
            u.template.maxPages * u.template.pageSize ≤ (heldIn l w).length).length ∧
      ∀ w ∈ ws, (heldIn l w).length < u.template.maxPages * u.template.pageSize →
        (xs.filter (Exchange.isAbout w)).length
          = (heldIn l w).length / u.template.pageSize + 1 := by
  induction h with
  | done => exact ⟨[], (List.append_nil _).symm, by simp, rfl, rfl, rfl, by simp⟩
  | halt halted => cases hresult
  | @next w ws free p p₁ p' xs ending result finished rest ih =>
      obtain ⟨hw, hnodup⟩ := List.nodup_cons.mp hws
      obtain ⟨ys, hys, habout, hlogs, habandoned, hceilings, hrequests⟩ := ih hresult hnodup
      obtain ⟨hfirst, hending, hlen⟩ := finished.pages.held hpos 0 rfl (heldIn l w) (by simp)
      have hreport := finished.report
      refine ⟨xs ++ ys, ?_, about_append finished.about habout, ?_, ?_, ?_, ?_⟩
      · rw [hys, finished.exchanges, List.append_assoc]
      · rw [envelopes_append, List.flatMap_append, hfirst, hlogs, List.flatMap_cons,
          List.map_append]
      · -- a window ends exhausted or at the ceiling, and so is not given up
        have hne : ending ≠ .abandoned := by
          rw [hending]
          split <;> simp
        rw [habandoned, hreport]
        simp [Report.plus, Report.ofPages, hne]
      · have hone : p₁.report.ceilings = p.report.ceilings
            + if u.template.maxPages * u.template.pageSize ≤ (heldIn l w).length then 1 else 0 := by
          rw [hreport, hending]
          split <;> simp [Report.plus, Report.ofPages]
        rw [hceilings, hone, List.filter_cons]
        by_cases hle : u.template.maxPages * u.template.pageSize ≤ (heldIn l w).length
        · simp only [hle, decide_true, if_true, List.length_cons]
          omega
        · simp [hle]
      · intro w' hw' hlt
        rcases List.mem_cons.mp hw' with rfl | hw'
        · rw [filter_isAbout_append finished.about (not_about_of_notMem hw habout),
            finished.length_exchanges hx, hlen hlt]
        · have hne : w ≠ w' := by
            rintro rfl
            exact hw hw'
          rw [filter_isAbout_append_of_ne ys finished.about hne]
          exact hrequests w' hw' hlt

end Setup

/-! ## Whole scans -/

/-- Where no checkpoint can be loaded, a scan has the windows of the configured blocks. -/
theorem Config.windows_of_no_cursor {c : Config} {store : Option Checkpoint.Store}
    (h : ∀ t, store = some t → t.load c.contract.checksummed c.eventTopic.toText = .ok none) :
    c.windows store
      = Window.partition c.fromBlock.toNat c.toBlock.toNat c.blockRange.toNat := by
  have hfirst : c.firstBlock store = c.fromBlock.toNat := by
    unfold firstBlock
    cases store with
    | none => exact Nat.max_eq_left (Nat.zero_le _)
    | some t =>
        have hcursor : c.cursor? t = none := by
          rw [cursor?, h t rfl]
        show max c.fromBlock.toNat ((c.cursor? t).getD 0) = _
        rw [hcursor]
        exact Nat.max_eq_left (Nat.zero_le _)
  rw [windows, hfirst]

/-- The last window of a configuration ends where its blocks end, or later, and a sorted list
cut into all the windows is what lies between the first block and this end. -/
theorem Config.last_window {c : Config} (hc : c.problem? = none) {key : HeldLog → Nat}
    {l : List HeldLog} (hl : l.Pairwise fun x y => key x ≤ key y) :
    ∃ last,
      (Window.partition c.fromBlock.toNat c.toBlock.toNat c.blockRange.toNat).getLast?
          = some last ∧
        c.toBlock.toNat ≤ last.stop ∧
        (Window.partition c.fromBlock.toNat c.toBlock.toNat c.blockRange.toNat).flatMap
            (Window.cut key l)
          = Window.cut key l ⟨c.fromBlock.toNat, last.stop⟩ := by
  have hfits := Config.fits_of_problem? hc
  have hrange := hfits.blockRange_pos
  have hstop := c.toBlock_le_lastBlock
  have hcount := Window.count_pos hrange hfits.fromBlock_lt
  -- there is a window, and the greatest block number can only cut the last one
  obtain ⟨n, hn⟩ : ∃ n,
      Window.count c.fromBlock.toNat c.toBlock.toNat c.blockRange.toNat = n + 1 :=
    ⟨_, (Nat.sub_add_cancel hcount).symm⟩
  have hlastfirst := Window.last_first_lt hrange hfits.fromBlock_lt
  have hreach := Window.le_count_mul c.fromBlock.toNat c.toBlock.toNat hrange
  rw [hn] at hlastfirst hreach
  rw [Nat.add_sub_cancel] at hlastfirst
  have hmul : (n + 1) * c.blockRange.toNat = n * c.blockRange.toNat + c.blockRange.toNat := by
    rw [Nat.add_mul, Nat.one_mul]
  rw [Window.partition, hfits.max_blockRange, hn]
  have hlast : (Window.row c.blockRange.toNat (n + 1) c.fromBlock.toNat).getLast?
      = some (Window.starting c.blockRange.toNat
          (c.fromBlock.toNat + n * c.blockRange.toNat)) := by
    rw [List.getLast?_eq_getElem?, Window.row_length, Nat.add_sub_cancel,
      List.getElem?_eq_getElem (by rw [Window.row_length]; omega), Window.row_getElem,
      hfits.max_blockRange]
  refine ⟨_, hlast, ?_, ?_⟩
  · show c.toBlock.toNat
      ≤ min (c.fromBlock.toNat + n * c.blockRange.toNat + c.blockRange.toNat) lastBlock
    omega
  · rw [Window.flatMap_cut_row hl hrange n c.fromBlock.toNat (by omega), hmul, ← Nat.add_assoc]
    rfl

/-- The bytes that are written for held logs as they were received. -/
theorem Config.bytes_held {c : Config} {l : List HeldLog} {ws : List Window} {most : Nat}
    {es : List Envelope} (hws : ∀ w ∈ ws, w.stop ≤ lastBlock)
    (h : es.flatMap Envelope.logs
      = (ws.flatMap fun w => (heldIn l w).take most).map HeldLog.raw) :
    c.bytes es = (ws.flatMap fun w =>
      ((heldIn l w).take most).filterMap (HeldLog.line? c)).flatMap Text.utf8 := by
  rw [bytes, lines, h, List.filterMap_map, List.filterMap_flatMap]
  congr 1
  apply List.flatMap_congr
  intro w hw
  apply List.filterMap_congr
  intro x hmem
  -- a block below the end of a window is a number of 64 bits
  have hblock : x.block < w.stop := (Window.mem_cut.mp (List.mem_of_mem_take hmem)).2.2
  have hstop : w.stop ≤ lastBlock := hws w hw
  have hlast : lastBlock < UInt64.size := by decide
  exact HeldLog.line?_raw c (by omega)

/-- A client of an explorer that holds logs gets an envelope for every request. -/
theorem Explorer.Holds.isSome {σ : Type} {explorer : Explorer σ} {c : Config}
    {l : List HeldLog} (hx : explorer.Holds c l) (s : σ) (r : PageRequest) :
    ((Client.ofConfig c).send explorer r s).1.envelope?.isSome := by
  obtain ⟨e, he, -⟩ := hx s r
  exact Option.isSome_of_eq_some he

/-- **Scans of windows below the ceiling**, of an explorer that holds logs. Into a healthy sink
such a scan comes to its end. If it has come to its end, it has completed all its windows, and
written the lines of all logs in them. -/
theorem scan_held {σ : Type} {c : Config} (hc : c.problem? = none) {l : List HeldLog}
    {explorer : Explorer σ} (hx : explorer.Holds c l) (s : σ) (sink : Sink)
    {store : Option Checkpoint.Store} (hr : c.Readable store)
    (hbelow : ∀ w ∈ c.windows store, (heldIn l w).length < c.maxPages * c.pageSize.toNat) :
    let r := scan c explorer (Progress.start s sink store)
    (sink.Healthy → ∃ report, r.2 = .ok report) ∧
      ∀ report, r.2 = .ok report →
        (∀ w ∈ c.windows store, c.Completed r.1.exchanges w) ∧
          r.1.sink.taken = sink.taken ++ (((c.windows store).flatMap (heldIn l)).filterMap
            (HeldLog.line? c)).flatMap Text.utf8 := by
  intro r
  have hfits := Config.fits_of_problem? hc
  have hpos := hfits.pageSize_pos
  have hnodup : (c.windows store).Nodup := Window.partition_nodup _ _ _
  obtain ⟨j, j', p', result, hswept, hscan⟩ := scan_swept hc hx.answered hr s sink
  have hr : r = ({ p' with journal := j' }, result.map fun _ => p'.report) := hscan
  rw [hr]
  constructor
  · intro hhealthy
    rw [hswept.ok (fun w _ => hx.serves w _ _) hhealthy]
    exact ⟨_, rfl⟩
  · intro report hreport
    have hresult : result = .ok () := by
      cases result with
      | ok _ => rfl
      | error problem => cases hreport
    obtain ⟨xs, hxs, -, hcompleted⟩ := hswept.completed rfl hresult hnodup
      fun w hw _ _ hpages => hpages.exhausted_of_lt hpos (hbelow w hw)
    obtain ⟨ys, hys, -, hlogs, -⟩ := hswept.held hpos hx.isSome hresult hnodup
    obtain ⟨zs, hzs, htaken, hok⟩ := hswept.output
    have hexchanges : p'.exchanges = xs := hxs
    obtain rfl : xs = ys := hexchanges.symm.trans hys
    obtain rfl : xs = zs := hexchanges.symm.trans hzs
    refine ⟨?_, ?_⟩
    · simp only [hexchanges]
      exact hcompleted
    · -- of no window anything is left out
      have hall : ((c.windows store).flatMap fun w =>
            ((heldIn l w).take (c.maxPages * c.pageSize.toNat)).filterMap (HeldLog.line? c))
          = ((c.windows store).flatMap (heldIn l)).filterMap (HeldLog.line? c) := by
        rw [List.filterMap_flatMap]
        apply List.flatMap_congr
        intro w hw
        rw [List.take_of_length_le (Nat.le_of_lt (hbelow w hw))]
      have hbytes : c.bytes (envelopes xs)
          = (((c.windows store).flatMap (heldIn l)).filterMap
              (HeldLog.line? c)).flatMap Text.utf8 := by
        rw [← hall]
        exact Config.bytes_held (fun w hw => Window.stop_le_of_mem_row hw) hlogs
      have hwrite : sink.write (c.bytes (envelopes xs))
          = ((sink.write (c.bytes (envelopes xs))).1, .ok ()) :=
        Prod.ext rfl (hok hresult).1
      have hsink : p'.sink.taken = (sink.write (c.bytes (envelopes xs))).1.taken := htaken
      show p'.sink.taken = _
      rw [hsink, Sink.taken_of_write_ok hwrite, hbytes]

/-- **Scans of an explorer that holds logs**, ordered by their blocks, into a healthy sink and
without a checkpoint. The scan comes to its end and gives up no window. It writes, window by
window, the lines of the first logs of the window, as many as fill the pages that the explorer
serves; a window is counted as one at the ceiling if it has so many logs, and any other window
with `n` logs takes `n / pageSize + 1` requests. If no window is at the ceiling, the lines of all
logs up to the end of the last window are written, in their order. -/
theorem scan_complete {σ : Type} (c : Config) (hc : c.problem? = none) (l : List HeldLog)
    (hl : l.Pairwise fun x y => x.block ≤ y.block) (explorer : Explorer σ)
    (hx : explorer.Holds c l) (s : σ) (store : Option Checkpoint.Store)
    (hstore : ∀ t, store = some t →
      t.load c.contract.checksummed c.eventTopic.toText = .ok none) :
    let r := scan c explorer (Progress.start s Sink.unlimited store)
    let ws := Window.partition c.fromBlock.toNat c.toBlock.toNat c.blockRange.toNat
    let held (w : Window) := l.filter fun x => w.first ≤ x.block ∧ x.block < w.stop
    let most := c.maxPages * c.pageSize.toNat
    ∃ report, r.2 = .ok report ∧
      report.abandoned = 0 ∧
      r.1.sink.taken = (ws.flatMap fun w =>
        ((held w).take most).filterMap (HeldLog.line? c)).flatMap Text.utf8 ∧
      report.ceilings = (ws.filter fun w => most ≤ (held w).length).length ∧
      (∀ w ∈ ws, (held w).length < most →
        (r.1.exchanges.filter (Exchange.isAbout w)).length
          = (held w).length / c.pageSize.toNat + 1) ∧
      ((∀ w ∈ ws, (held w).length < most) →
        ∃ last, ws.getLast? = some last ∧ c.toBlock.toNat ≤ last.stop ∧
          r.1.sink.taken
            = ((l.filter fun x => c.fromBlock.toNat ≤ x.block ∧ x.block < last.stop).filterMap
                (HeldLog.line? c)).flatMap Text.utf8) := by
  intro r ws held most
  have hfits := Config.fits_of_problem? hc
  have hwindows : c.windows store = ws := Config.windows_of_no_cursor hstore
  have hreadable : c.Readable store := fun t ht => ⟨none, hstore t ht⟩
  obtain ⟨j, j', p', result, hswept, hscan⟩ := scan_swept hc hx.answered hreadable s Sink.unlimited
  rw [hwindows] at hswept
  have hresult : result = .ok () := hswept.ok (fun w _ => hx.serves w _ _) Sink.healthy_unlimited
  obtain ⟨xs, hxs, -, hlogs, habandoned, hceilings, hrequests⟩ :=
    hswept.held hfits.pageSize_pos hx.isSome hresult (Window.partition_nodup _ _ _)
  obtain ⟨ys, hys, htaken, -⟩ := hswept.output
  have hexchanges : p'.exchanges = xs := hxs
  obtain rfl : xs = ys := hexchanges.symm.trans hys
  have hr : r = ({ p' with journal := j' }, .ok p'.report) := by
    rw [hresult] at hscan
    exact hscan
  rw [hr]
  have hlines : p'.sink.taken = (ws.flatMap fun w =>
      ((held w).take most).filterMap (HeldLog.line? c)).flatMap Text.utf8 := by
    rw [htaken, Sink.write_unlimited rfl]
    exact Config.bytes_held (fun w hw => Window.stop_le_of_mem_row hw) hlogs
  refine ⟨p'.report, rfl, habandoned, hlines, ?_, ?_, fun hbelow => ?_⟩
  · rw [hceilings]
    exact Nat.zero_add _
  · simp only [hexchanges]
    exact hrequests
  · obtain ⟨last, hlast, hreach, hjoin⟩ := Config.last_window hc hl
    refine ⟨last, hlast, hreach, ?_⟩
    have hall : (ws.flatMap fun w => ((held w).take most).filterMap (HeldLog.line? c))
        = (ws.flatMap held).filterMap (HeldLog.line? c) := by
      rw [List.filterMap_flatMap]
      apply List.flatMap_congr
      intro w hw
      rw [List.take_of_length_le (Nat.le_of_lt (hbelow w hw))]
    have hheld : ws.flatMap held = l.filter fun x =>
        c.fromBlock.toNat ≤ x.block ∧ x.block < last.stop := hjoin
    show p'.sink.taken = _
    rw [hlines, hall, hheld]

/-- Two windows, of which at most three pages with one log each are served. The first one has a
deposit and another log, the second one four deposits, of which the last is beyond the ceiling. -/
theorem scan_complete_two_windows :
    let c : Config := { Config.default [] with
      fromBlock := 0, toBlock := 20, blockRange := 10, pageSize := 1, maxResults := 3 }
    let deposit : Text → RawLog := .emptyDeposit c.eventTopic
    let l : List HeldLog :=
      [⟨3, deposit "0x3".toList, ⟨['3'], by decide, rfl, by decide⟩⟩,
        ⟨4, ⟨[], "0x".toList, "0x4".toList⟩, ⟨['4'], by decide, rfl, by decide⟩⟩,
        ⟨11, deposit "0xB".toList, ⟨['B'], by decide, rfl, by decide⟩⟩,
        ⟨12, deposit "0xc".toList, ⟨['c'], by decide, rfl, by decide⟩⟩,
        ⟨12, deposit "0x0C".toList, ⟨['0', 'C'], by decide, rfl, by decide⟩⟩,
        ⟨19, deposit "0x13".toList, ⟨['1', '3'], by decide, rfl, by decide⟩⟩]
    let explorer := Explorer.ofLogs l
    let r := scan c explorer (Progress.start () Sink.unlimited none)
    c.problem? = none ∧ (l.Pairwise fun x y => x.block ≤ y.block) ∧ explorer.Holds c l ∧
      ∃ report, r.2 = .ok report ∧ report.abandoned = 0 ∧ report.ceilings = 1 ∧
        r.1.sink.taken = Text.utf8 ("3 0x 0x - 0x -\n11 0x 0x - 0x -\n" ++
          "12 0x 0x - 0x -\n12 0x 0x - 0x -\n").toList ∧
        (r.1.exchanges.filter (Exchange.isAbout ⟨0, 10⟩)).length = 3 := by
  intro c deposit l explorer r
  have hc : c.problem? = none := by decide
  have hl : l.Pairwise fun x y => x.block ≤ y.block := by decide
  have hx : explorer.Holds c l := Explorer.ofLogs_holds (by decide +kernel) l
  obtain ⟨report, hreport, habandoned, htaken, hceilings, hrequests, -⟩ :=
    scan_complete c hc l hl explorer hx () none fun _ ht => absurd ht (Option.not_mem_none _)
  refine ⟨hc, hl, hx, report, hreport, habandoned, ?_, ?_, ?_⟩
  · rw [hceilings]
    decide
  · rw [htaken]
    decide +kernel
  · rw [hrequests ⟨0, 10⟩ (by decide) (by decide)]
    decide

end DepositTrail
