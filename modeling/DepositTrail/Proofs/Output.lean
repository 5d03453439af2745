import DepositTrail.Proofs.WindowSweep

set_option autoImplicit false

/-! # What a scan writes

A scan writes the lines of the envelopes it has received, and nothing else (`scan_output`). In
a sink without bounds they are all there, in the order in which the envelopes came, also when
the scan has ended early; and if it has come to its end, its counts are those of the lines and
of the logs.

The invariant is about any sink (`Swept.output`): it has taken of the lines what it would have
taken of them in one piece. The flushes between the windows leave no trace in it.
-/

namespace DepositTrail

namespace Setup

variable {σ : Type} {u : Setup σ} {answers : Window → Nat → Envelope → Prop}

/-- **What a row of windows writes** is what their exchanges have brought. A row that comes to
its end has written all of it and counted all of it. -/
theorem Swept.output {ws : List Window} {free : Bool} {p p' : Progress σ}
    {result : Except ScanProblem Unit} (h : u.Swept answers ws free p p' result) :
    ∃ xs, p'.exchanges = p.exchanges ++ xs ∧
      p'.sink.taken = (p.sink.write (u.config.bytes (envelopes xs))).1.taken ∧
      (result = .ok () →
        (p.sink.write (u.config.bytes (envelopes xs))).2 = .ok () ∧
        p'.report.events = p.report.events + (u.config.lines (envelopes xs)).length ∧
        p'.report.undecodable
          = p.report.undecodable + (u.config.unread (envelopes xs)).length) := by
  induction h with
  | @done free p =>
      refine ⟨[], (List.append_nil _).symm, ?_, fun _ => ⟨?_, rfl, rfl⟩⟩
      · rw [envelopes_nil, Config.bytes_nil, Sink.write_nil]
      · rw [envelopes_nil, Config.bytes_nil, Sink.write_nil]
  | @halt w ws free p p' xs problem halted =>
      exact ⟨xs, halted.exchanges, halted.taken, nofun⟩
  | @next w ws free p p₁ p' xs ending result finished rest ih =>
      obtain ⟨ys, hys, htaken, hok⟩ := ih
      -- the lines of the first window are written, then the sink is flushed, then come the rest
      have hsplit : p.sink.write (u.config.bytes (envelopes (xs ++ ys)))
          = (p.sink.write (u.config.bytes (envelopes xs))).1.write
              (u.config.bytes (envelopes ys)) := by
        rw [envelopes_append, Config.bytes_append, Sink.write_append_of_ok finished.write_eq]
      rw [finished.sink, Sink.flush_write] at htaken hok
      refine ⟨xs ++ ys, ?_, ?_, fun hresult => ?_⟩
      · rw [hys, finished.exchanges, List.append_assoc]
      · rw [hsplit]
        exact htaken
      · obtain ⟨hwritten, hevents, hundecodable⟩ := hok hresult
        refine ⟨?_, ?_, ?_⟩
        · rw [hsplit]
          exact hwritten
        · have hone : p₁.report.events
              = p.report.events + (u.config.lines (envelopes xs)).length := by
            rw [finished.report]
            rfl
          calc p'.report.events
              = p₁.report.events + (u.config.lines (envelopes ys)).length := hevents
            _ = p.report.events + ((u.config.lines (envelopes xs)).length
                  + (u.config.lines (envelopes ys)).length) := by rw [hone, Nat.add_assoc]
            _ = p.report.events + (u.config.lines (envelopes (xs ++ ys))).length := by
                rw [envelopes_append, Config.lines_append, List.length_append]
        · have hone : p₁.report.undecodable
              = p.report.undecodable + (u.config.unread (envelopes xs)).length := by
            rw [finished.report]
            rfl
          calc p'.report.undecodable
              = p₁.report.undecodable + (u.config.unread (envelopes ys)).length := hundecodable
            _ = p.report.undecodable + ((u.config.unread (envelopes xs)).length
                  + (u.config.unread (envelopes ys)).length) := by rw [hone, Nat.add_assoc]
            _ = p.report.undecodable + (u.config.unread (envelopes (xs ++ ys))).length := by
                rw [envelopes_append, Config.unread_append, List.length_append]

end Setup

/-! ## Whole scans -/

/-- A scan whose settings do not fit together, or whose store cannot be read, ends before it
begins, whatever the sink is like. -/
theorem scan_unopened {σ : Type} {c : Config} (explorer : Explorer σ)
    {store : Option Checkpoint.Store} (h : ¬ (c.problem? = none ∧ c.Readable store)) :
    ∃ problem, ∀ s sink, scan c explorer (Progress.start s sink store)
      = (Progress.start s sink store, .error problem) := by
  cases hc : c.problem? with
  | some problem => exact ⟨.config problem, fun s sink => by simp [scan, hc]⟩
  | none =>
      have hr : ¬ c.Readable store := fun hr => h ⟨hc, hr⟩
      obtain ⟨t, ht, hload⟩ : ∃ t, store = some t ∧
          ¬ ∃ m, t.load c.contract.checksummed c.eventTopic.toText = .ok m := by
        simpa only [Config.Readable, not_forall, exists_prop] using hr
      subst ht
      cases hl : t.load c.contract.checksummed c.eventTopic.toText with
      | ok m => exact absurd ⟨m, hl⟩ hload
      | error problem =>
          exact ⟨.checkpoint problem, fun s sink => by
            simp [scan, hc, Setup.startBlock, Setup.ofConfig, Progress.start, hl]⟩

/-- A scan whose store cannot be read ends before it begins. -/
theorem scan_of_not_readable {σ : Type} {c : Config} (explorer : Explorer σ) (s : σ)
    (sink : Sink) {store : Option Checkpoint.Store} (hr : ¬ c.Readable store) :
    ∃ problem, scan c explorer (Progress.start s sink store)
      = (Progress.start s sink store, .error problem) := by
  obtain ⟨problem, hproblem⟩ := scan_unopened explorer fun h => hr h.2
  exact ⟨problem, hproblem s sink⟩

/-- The settings of a scan that comes to its end fit together. -/
theorem problem?_of_scan_ok {σ : Type} {c : Config} {explorer : Explorer σ} {s : σ}
    {sink : Sink} {store : Option Checkpoint.Store} {report : Report}
    (h : (scan c explorer (Progress.start s sink store)).2 = .ok report) : c.problem? = none := by
  by_contra hc
  obtain ⟨problem, hscan⟩ := scan_unopened explorer fun h => hc h.1
  rw [hscan] at h
  cases h

/-- The store of a scan that comes to its end can be read. -/
theorem readable_of_scan_ok {σ : Type} {c : Config} {explorer : Explorer σ} {s : σ}
    {sink : Sink} {store : Option Checkpoint.Store} {report : Report}
    (h : (scan c explorer (Progress.start s sink store)).2 = .ok report) : c.Readable store := by
  by_contra hr
  obtain ⟨problem, hscan⟩ := scan_of_not_readable explorer s sink hr
  rw [hscan] at h
  cases h

/-- **What a scan writes.** A sink without bounds holds, for each envelope received whose
status is not `0`, in the order in which they came, and for each log at the front of its
result, the line of the log, if it has one; and it holds nothing else, whether the scan has
come to its end or not. If it has, it has counted as events the lines, and as events and
undecodable together the logs about the wanted topic. -/
theorem scan_output {σ : Type} (c : Config) (explorer : Explorer σ) (s : σ)
    (failingFlush : Option Nat) (store : Option Checkpoint.Store) :
    let r := scan c explorer (Progress.start s (Sink.empty none failingFlush) store)
    let logs := (envelopes r.1.exchanges).flatMap fun e =>
      if e.status = ['0'] then [] else frontLogs e.result
    let lines := logs.filterMap (RawLog.line? c)
    r.1.sink.taken = lines.flatMap Text.utf8 ∧
      ∀ report, r.2 = .ok report →
        report.events = lines.length ∧
          report.events + report.undecodable
            = (logs.filter (RawLog.isAbout c.eventTopic)).length := by
  intro r logs lines
  have hlines : lines = c.lines (envelopes r.1.exchanges) := rfl
  have hlogs : (logs.filter (RawLog.isAbout c.eventTopic)).length
      = c.matching (envelopes r.1.exchanges) := rfl
  rw [hlines, hlogs, ← Config.length_lines_add]
  -- a scan that ends before it begins leaves nothing behind
  have hnothing : ∀ problem,
      r = (Progress.start s (Sink.empty none failingFlush) store, .error problem) →
      r.1.sink.taken = (c.lines (envelopes r.1.exchanges)).flatMap Text.utf8 ∧
        ∀ report, r.2 = .ok report →
          report.events = (c.lines (envelopes r.1.exchanges)).length ∧
            report.events + report.undecodable
              = (c.lines (envelopes r.1.exchanges)).length
                + (c.unread (envelopes r.1.exchanges)).length := by
    intro problem hr
    rw [hr]
    exact ⟨rfl, nofun⟩
  cases hc : c.problem? with
  | some problem =>
      apply hnothing (.config problem)
      simp [r, scan, hc]
  | none =>
      by_cases hread : c.Readable store
      · obtain ⟨j, j', p', result, hswept, hscan⟩ := scan_swept hc
          (Setup.ofConfig c explorer).answered_any hread s (Sink.empty none failingFlush)
        obtain ⟨xs, hxs, htaken, hok⟩ := hswept.output
        have hexchanges : p'.exchanges = xs := by
          rw [hxs]
          rfl
        have hr : r = ({ p' with journal := j' }, result.map fun _ => p'.report) := hscan
        rw [hr]
        simp only [hexchanges]
        constructor
        · rw [htaken, Sink.write_unlimited rfl]
          rfl
        · intro report hreport
          cases result with
          | error problem => cases hreport
          | ok _ =>
              obtain ⟨-, hevents, hundecodable⟩ := hok rfl
              obtain rfl : p'.report = report := by
                simpa [Except.map] using hreport
              have hevents' : p'.report.events = (c.lines (envelopes xs)).length := by
                rw [hevents]
                exact Nat.zero_add _
              have hundecodable' : p'.report.undecodable = (c.unread (envelopes xs)).length := by
                rw [hundecodable]
                exact Nat.zero_add _
              exact ⟨hevents', by rw [hevents', hundecodable']⟩
      · obtain ⟨problem, hproblem⟩ :=
          scan_of_not_readable explorer s (Sink.empty none failingFlush) hread
        exact hnothing problem hproblem

/-- Two windows, and for each of them the same log about a deposit of empty strings. -/
theorem scan_output_empty_deposits :
    let c : Config := { Config.default [] with fromBlock := 0, toBlock := 20, blockRange := 10 }
    let log : Text := "\x7b\"topics\":[\"".toList ++ c.eventTopic.toText
      ++ "\"],\"blockNumber\":\"0x1\",\"data\":\"0x".toList ++ List.replicate 320 '0'
      ++ "\"\x7d".toList
    let body : Text := "\x7b\"status\":\"1\",\"message\":\"OK\",\"result\":[".toList ++ log
      ++ "]\x7d".toList
    let r := scan c (fun s _ => (.ok body, s)) (Progress.start () (Sink.empty none none) none)
    let logs := (envelopes r.1.exchanges).flatMap fun e =>
      if e.status = ['0'] then [] else frontLogs e.result
    let lines := logs.filterMap (RawLog.line? c)
    let report : Report := ⟨2, 2, 2, 0, 0, 0, 0⟩
    r.2 = .ok report ∧
      report.events = lines.length ∧
        report.events + report.undecodable
          = (logs.filter (RawLog.isAbout c.eventTopic)).length := by
  intro c log body r logs lines report
  have hreport : r.2 = .ok report := eq_ok_of_toOption (by decide +kernel)
  exact ⟨hreport, (scan_output c (fun s _ => (.ok body, s)) () none none).2 report hreport⟩

end DepositTrail
