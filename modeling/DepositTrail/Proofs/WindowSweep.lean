import DepositTrail.Proofs.WindowCourse
import DepositTrail.Proofs.Settings
import DepositTrail.Proofs.WindowTiling

set_option autoImplicit false

/-! # The windows of a scan

A scan goes through its windows one after the other. Each window is finished, that is scanned
and flushed, or the scan halts in it. `Swept` is this rule as a relation between the windows,
the progress before and what comes of it; every scan obeys it (`scanWindows_swept`,
`scan_swept`). The laws about whole scans are inductions on `Swept`: one case for a scan that
is at its end, one for the window in which it halts, one for a window that is finished.
-/

namespace DepositTrail

/-- An envelope of a window may be the last one before the window breaks off. -/
theorem Pages.begun {answers : Nat → Envelope → Prop} {size left page : Nat}
    {es : List Envelope} {ending : Ending} (h : Pages answers size left page es ending) :
    Begun answers size left page es := by
  induction h with
  | last answer decided => exact Begun.last answer
  | ceiling answer full => exact Begun.last answer
  | next answer full rest ih => exact Begun.next answer full ih

namespace Setup

variable {σ : Type} (u : Setup σ)

/-! ## One window -/

/-- Move the checkpoint past a window, if it is free and the window was completed; otherwise
hold it. The result says whether it is still free. -/
def settle (w : Window) (windowEnd : WindowEnd) (free : Bool) (p : Progress σ) :
    Progress σ × Except ScanProblem Bool :=
  match windowEnd, free with
  | .completed, true => (u.moveCheckpoint w p, .ok true)
  | .incomplete, true => (p.say (.held w), .ok false)
  | _, false => (p, .ok false)

/-- Scan a window, flush the sink, and move the checkpoint or hold it. -/
def scanWindow (w : Window) (free : Bool) (p : Progress σ) :
    Progress σ × Except ScanProblem Bool :=
  match u.scanPages w u.template.maxPages 1 p with
  | (p, .error problem) => (p, .error problem)
  | (p, .ok windowEnd) =>
      let p := p.count fun r => { r with ranges := r.ranges + 1 }
      match p.flush with
      | (p, .error problem) => (p, .error problem)
      | (p, .ok ()) => u.settle w windowEnd free p

theorem scanWindows_succ (left first : Nat) (free : Bool) (p : Progress σ) :
    u.scanWindows (left + 1) first free p
      = match u.scanWindow (Window.starting u.config.blockRange.toNat first) free p with
        | (p, .error problem) => (p, .error problem)
        | (p, .ok free) =>
            u.scanWindows left (first + max u.config.blockRange.toNat 1) free p := by
  rw [scanWindows, scanWindow]
  cases hq : u.scanPages (Window.starting u.config.blockRange.toNat first) u.template.maxPages 1 p
    with
  | mk q result =>
      cases result with
      | error problem => rfl
      | ok windowEnd =>
          cases hf : (q.count fun r => { r with ranges := r.ranges + 1 }).flush with
          | mk q' flushed =>
              cases flushed with
              | error problem => simp only [hf]
              | ok _ =>
                  simp only [hf]
                  cases windowEnd <;> cases free <;> rfl

/-- The progress after the flush, whether it has failed or not. -/
def flushed (q : Progress σ) : Progress σ :=
  { q with
    report := { q.report with ranges := q.report.ranges + 1 }
    sink := q.sink.flush.1 }

/-- What is left behind by a window that was scanned and flushed. -/
structure Finished (answers : Nat → Envelope → Prop) (w : Window) (free : Bool)
    (p p' : Progress σ) (xs : List Exchange) (ending : Ending) : Prop where
  pages : Pages answers u.template.pageSize u.template.maxPages 1 (envelopes xs) ending
  exchanges : p'.exchanges = p.exchanges ++ xs
  about : ∀ x ∈ xs, x.isAbout w = true
  sent : ∀ x ∈ xs, ∃ s, x.attempt = (u.client.send u.explorer x.request s).1
  last : xs.getLast?.bind Exchange.envelope? = (envelopes xs).getLast?
  written : (p.sink.write (u.config.bytes (envelopes xs))).2 = .ok ()
  flushed : p.sink.failingFlush ≠ some p.sink.flushes
  sink : p'.sink = (p.sink.write (u.config.bytes (envelopes xs))).1.flush.1
  report : p'.report
    = (p.report.plus (Report.ofPages u.config (envelopes xs) ending)).plus ⟨1, 0, 0, 0, 0, 0, 0⟩
  store : p'.store
    = if free = true ∧ ending = .exhausted then (u.moveCheckpoint w p).store else p.store

/-- What is left behind by a window in which the scan has halted, by the pages or by the flush
after them. -/
structure Halted (answers : Nat → Envelope → Prop) (w : Window) (p p' : Progress σ)
    (xs : List Exchange) : Prop where
  begun : Begun answers u.template.pageSize u.template.maxPages 1 (envelopes xs)
  exchanges : p'.exchanges = p.exchanges ++ xs
  about : ∀ x ∈ xs, x.isAbout w = true
  nonempty : xs ≠ []
  cause : u.Serves w u.template.maxPages 1 → ¬ p.sink.Healthy
  taken : p'.sink.taken = (p.sink.write (u.config.bytes (envelopes xs))).1.taken
  failingFlush : p'.sink.failingFlush = p.sink.failingFlush
  unflushed : p'.sink.flushes = p.sink.flushes ∨
    (p'.sink.flushes = p.sink.flushes + 1 ∧ p.sink.failingFlush = some p.sink.flushes)
  store : p'.store = p.store

section Window

variable {u} {w : Window} {answers : Nat → Envelope → Prop}

theorem BrokenOff.halted {p p' : Progress σ} {xs : List Exchange}
    (h : u.BrokenOff answers w u.template.maxPages 1 p p' xs) :
    u.Halted answers w p p' xs where
  begun := h.begun
  exchanges := h.exchanges
  about := h.about
  nonempty := h.nonempty
  cause := fun hserves hhealthy => h.cause hserves hhealthy.room
  taken := by rw [h.sink]
  failingFlush := by rw [h.sink, Sink.write_failingFlush]
  unflushed := Or.inl (by rw [h.sink, Sink.write_flushes])
  store := h.store

/-- Where the flush after the pages fails, the scan ends. -/
theorem scanWindow_flush_failed (free : Bool) {p q : Progress σ} {windowEnd : WindowEnd}
    (hq : u.scanPages w u.template.maxPages 1 p = (q, .ok windowEnd))
    (hf : q.sink.failingFlush = some q.sink.flushes) :
    u.scanWindow w free p = (flushed q, .error (.output .flushFailed)) := by
  have hflush : q.sink.flush = (q.sink.flush.1, .error .flushFailed) := by
    unfold Sink.flush
    rw [if_pos hf]
  unfold scanWindow
  rw [hq]
  simp only [Progress.count, Progress.flush]
  rw [hflush]
  rfl

/-- Where it does not fail, the checkpoint is moved or held. -/
theorem scanWindow_flushed (free : Bool) {p q : Progress σ} {windowEnd : WindowEnd}
    (hq : u.scanPages w u.template.maxPages 1 p = (q, .ok windowEnd))
    (hf : q.sink.failingFlush ≠ some q.sink.flushes) :
    u.scanWindow w free p = u.settle w windowEnd free (flushed q) := by
  have hflush : q.sink.flush = (q.sink.flush.1, .ok ()) := by
    unfold Sink.flush
    rw [if_neg hf]
  unfold scanWindow
  rw [hq]
  simp only [Progress.count, Progress.flush]
  rw [hflush]
  rfl

/-- What is left as it was by the pages of a window: flushing the sink and moving or holding the
checkpoint asks nothing and writes nothing. -/
structure Untouched (q p' : Progress σ) : Prop where
  exchanges : p'.exchanges = q.exchanges
  taken : p'.sink.taken = q.sink.taken
  room : p'.sink.room = q.sink.room
  requests : p'.report.requests = q.report.requests

theorem untouched_flushed (q : Progress σ) : Untouched q (flushed q) :=
  ⟨rfl, q.sink.flush_taken, q.sink.flush_room, rfl⟩

theorem untouched_settle (w : Window) (windowEnd : WindowEnd) (free : Bool) (q : Progress σ) :
    Untouched q (u.settle w windowEnd free q).1 := by
  cases windowEnd <;> cases free <;> exact ⟨rfl, rfl, rfl, rfl⟩

theorem Untouched.trans {p q r : Progress σ} (h : Untouched p q) (h' : Untouched q r) :
    Untouched p r :=
  ⟨h'.exchanges.trans h.exchanges, h'.taken.trans h.taken, h'.room.trans h.room,
    h'.requests.trans h.requests⟩

/-- **A window is its pages**, as far as questions and lines go, and ends only where they do. -/
theorem scanWindow_pages (w : Window) (free : Bool) (p : Progress σ) :
    Untouched (u.scanPages w u.template.maxPages 1 p).1 (u.scanWindow w free p).1 ∧
      ∀ free', (u.scanWindow w free p).2 = .ok free' →
        ∃ windowEnd, (u.scanPages w u.template.maxPages 1 p).2 = .ok windowEnd := by
  cases hq : u.scanPages w u.template.maxPages 1 p with
  | mk q result =>
      cases result with
      | error problem =>
          rw [scanWindow, hq]
          exact ⟨⟨rfl, rfl, rfl, rfl⟩, nofun⟩
      | ok windowEnd =>
          refine ⟨?_, fun _ _ => ⟨windowEnd, rfl⟩⟩
          by_cases hf : q.sink.failingFlush = some q.sink.flushes
          · rw [scanWindow_flush_failed free hq hf]
            exact untouched_flushed q
          · rw [scanWindow_flushed free hq hf]
            exact (untouched_flushed q).trans (untouched_settle w windowEnd free _)

section Scanned

variable {p q : Progress σ} {xs : List Exchange} {ending : Ending}

/-- Writing a window leaves the flushes of the sink as they were. -/
theorem Scanned.flushes (h : u.Scanned answers w u.template.maxPages 1 p q xs ending) :
    q.sink.flushes = p.sink.flushes ∧ q.sink.failingFlush = p.sink.failingFlush := by
  have hsink : (p.sink.write (u.config.bytes (envelopes xs))).1 = q.sink := by rw [h.sink]
  rw [← hsink]
  exact ⟨Sink.write_flushes _ _, Sink.write_failingFlush _ _⟩

/-- A window that was scanned and whose flush has failed. -/
theorem Scanned.halted (h : u.Scanned answers w u.template.maxPages 1 p q xs ending)
    (hf : q.sink.failingFlush = some q.sink.flushes) :
    u.Halted answers w p (flushed q) xs := by
  obtain ⟨hflushes, hfailing⟩ := h.flushes
  rw [hflushes, hfailing] at hf
  refine ⟨h.pages.begun, h.exchanges, h.about, ?_, ?_, ?_, ?_, Or.inr ⟨?_, hf⟩, h.store⟩
  · rintro rfl
    exact h.pages.ne_nil rfl
  · intro _ hhealthy
    rw [hhealthy.failingFlush] at hf
    cases hf
  · show q.sink.flush.1.taken = _
    rw [Sink.flush_taken, h.sink]
  · show q.sink.flush.1.failingFlush = _
    rw [Sink.flush_failingFlush, hfailing]
  · show q.sink.flush.1.flushes = _
    rw [Sink.flush_flushes, hflushes]

/-- A window that was scanned and flushed, with whatever became of the checkpoint. -/
theorem Scanned.finished (h : u.Scanned answers w u.template.maxPages 1 p q xs ending)
    (hf : q.sink.failingFlush ≠ some q.sink.flushes) {free : Bool} {p' : Progress σ}
    (hexchanges : p'.exchanges = q.exchanges) (hsink : p'.sink = q.sink.flush.1)
    (hreport : p'.report = (flushed q).report)
    (hstore : p'.store
      = if free = true ∧ ending = .exhausted then (u.moveCheckpoint w p).store else p.store) :
    u.Finished answers w free p p' xs ending := by
  obtain ⟨hflushes, hfailing⟩ := h.flushes
  rw [hflushes, hfailing] at hf
  refine ⟨h.pages, hexchanges.trans h.exchanges, h.about, h.sent, h.last, ?_, hf, ?_, ?_, hstore⟩
  · rw [h.sink]
  · rw [hsink, h.sink]
  · rw [hreport, ← h.report]
    rfl

end Scanned

/-- **A window is finished, or the scan halts in it.** -/
theorem scanWindow_cases (hmax : 0 < u.template.maxPages) (ha : u.Answered w answers)
    (free : Bool) (p : Progress σ) :
    (∃ p' xs ending, u.scanWindow w free p = (p', .ok (free && ending = .exhausted)) ∧
        u.Finished answers w free p p' xs ending) ∨
      ∃ p' xs problem, u.scanWindow w free p = (p', .error problem) ∧
        u.Halted answers w p p' xs := by
  rcases scanPages_cases ha hmax 1 p with ⟨q, xs, ending, hq, hs⟩ | ⟨q, xs, problem, hq, hb⟩
  · by_cases hf : q.sink.failingFlush = some q.sink.flushes
    · exact Or.inr ⟨_, xs, _, scanWindow_flush_failed free hq hf, hs.halted hf⟩
    · have hstep := scanWindow_flushed free hq hf
      have hstore : (flushed q).store = p.store := hs.store
      left
      cases free with
      | false =>
          -- the checkpoint is held already, whatever the window is like
          refine ⟨flushed q, xs, ending, ?_, hs.finished hf rfl rfl rfl (by simpa using hstore)⟩
          rw [hstep]
          cases ending <;> rfl
      | true =>
          cases ending with
          | exhausted =>
              refine ⟨_, xs, .exhausted, hstep, hs.finished hf rfl rfl rfl ?_⟩
              simp [moveCheckpoint, hstore]
          | abandoned =>
              refine ⟨_, xs, .abandoned, hstep, hs.finished hf rfl rfl rfl ?_⟩
              simpa [Progress.say] using hstore
          | ceiling =>
              refine ⟨_, xs, .ceiling, hstep, hs.finished hf rfl rfl rfl ?_⟩
              simpa [Progress.say] using hstore
  · refine Or.inr ⟨q, xs, problem, ?_, hb.halted⟩
    unfold scanWindow
    rw [hq]

end Window

/-! ## All windows -/

/-- What comes of a row of windows: all are finished, or the scan halts in one of them.
`answers` says which envelope may come for which page of which window. -/
inductive Swept (answers : Window → Nat → Envelope → Prop) :
    List Window → Bool → Progress σ → Progress σ → Except ScanProblem Unit → Prop
  | done {free : Bool} {p : Progress σ} : Swept answers [] free p p (.ok ())
  | halt {w : Window} {ws : List Window} {free : Bool} {p p' : Progress σ}
      {xs : List Exchange} {problem : ScanProblem} (halted : u.Halted (answers w) w p p' xs) :
      Swept answers (w :: ws) free p p' (.error problem)
  | next {w : Window} {ws : List Window} {free : Bool} {p p₁ p' : Progress σ}
      {xs : List Exchange} {ending : Ending} {result : Except ScanProblem Unit}
      (finished : u.Finished (answers w) w free p p₁ xs ending)
      (rest : Swept answers ws (free && ending = .exhausted) p₁ p' result) :
      Swept answers (w :: ws) free p p' result

section Windows

variable {u} {answers : Window → Nat → Envelope → Prop}

/-- No exchange is ever forgotten. -/
theorem scanWindows_keeps (left first : Nat) (free : Bool) (p : Progress σ) :
    p.exchanges <+: (u.scanWindows left first free p).1.exchanges ∧
      (0 < left →
        (u.scanWindow (Window.starting u.config.blockRange.toNat first) free p).1.exchanges
          <+: (u.scanWindows left first free p).1.exchanges) := by
  induction left generalizing first free p with
  | zero => exact ⟨List.prefix_refl _, fun h => absurd h (Nat.lt_irrefl 0)⟩
  | succ left ih =>
      have hwindow : p.exchanges <+:
          (u.scanWindow (Window.starting u.config.blockRange.toNat first) free p).1.exchanges := by
        rw [(scanWindow_pages _ free p).1.exchanges]
        exact (scanPages_keeps _ _ 1 p).1
      rw [scanWindows_succ]
      cases hp : u.scanWindow (Window.starting u.config.blockRange.toNat first) free p with
      | mk q result =>
          rw [hp] at hwindow
          cases result with
          | error problem => exact ⟨hwindow, fun _ => List.prefix_refl _⟩
          | ok free' =>
              have hrest := (ih (first + max u.config.blockRange.toNat 1) free' q).1
              exact ⟨hwindow.trans hrest, fun _ => hrest⟩

theorem scanWindows_swept (hmax : 0 < u.template.maxPages)
    (ha : ∀ w, u.Answered w (answers w)) (left first : Nat) (free : Bool) (p : Progress σ) :
    u.Swept answers (Window.row u.config.blockRange.toNat left first) free p
      (u.scanWindows left first free p).1 (u.scanWindows left first free p).2 := by
  induction left generalizing first free p with
  | zero => exact Swept.done
  | succ left ih =>
      rw [scanWindows_succ, Window.row]
      rcases scanWindow_cases hmax (ha _) free p with
        ⟨p₁, xs, ending, hp, hf⟩ | ⟨p₁, xs, problem, hp, hh⟩
      · rw [hp]
        exact Swept.next hf (ih _ _ _)
      · rw [hp]
        exact Swept.halt hh

/-- The windows add their exchanges, each about one of them, to those that were there. -/
theorem Swept.exchanges {ws : List Window} {free : Bool} {p p' : Progress σ}
    {result : Except ScanProblem Unit} (h : u.Swept answers ws free p p' result) :
    ∃ xs, p'.exchanges = p.exchanges ++ xs ∧ ∀ x ∈ xs, ∃ w ∈ ws, x.isAbout w = true := by
  induction h with
  | done => exact ⟨[], (List.append_nil _).symm, by simp⟩
  | halt halted =>
      refine ⟨_, halted.exchanges, fun x hx => ?_⟩
      exact ⟨_, List.mem_cons_self, halted.about x hx⟩
  | @next w ws free p p₁ p' xs ending result finished rest ih =>
      obtain ⟨ys, hys, habout⟩ := ih
      refine ⟨xs ++ ys, ?_, about_append finished.about habout⟩
      rw [hys, finished.exchanges, List.append_assoc]

/-- The lines of a finished window were taken. -/
theorem Finished.write_eq {w : Window} {answers : Nat → Envelope → Prop} {free : Bool}
    {p p' : Progress σ} {xs : List Exchange} {ending : Ending}
    (h : u.Finished answers w free p p' xs ending) :
    p.sink.write (u.config.bytes (envelopes xs))
      = ((p.sink.write (u.config.bytes (envelopes xs))).1, .ok ()) := by
  rw [← h.written]

theorem Finished.flushes {w : Window} {answers : Nat → Envelope → Prop} {free : Bool}
    {p p' : Progress σ} {xs : List Exchange} {ending : Ending}
    (h : u.Finished answers w free p p' xs ending) :
    p'.sink.flushes = p.sink.flushes + 1 := by
  rw [h.sink, Sink.flush_flushes, Sink.write_flushes]

theorem Finished.failingFlush {w : Window} {answers : Nat → Envelope → Prop} {free : Bool}
    {p p' : Progress σ} {xs : List Exchange} {ending : Ending}
    (h : u.Finished answers w free p p' xs ending) :
    p'.sink.failingFlush = p.sink.failingFlush := by
  rw [h.sink, Sink.flush_failingFlush, Sink.write_failingFlush]

/-- Where a scan has halted, no flush was made that has not failed. -/
theorem Halted.not_flushed {answers : Nat → Envelope → Prop} {w : Window} {p p' : Progress σ}
    {xs : List Exchange} (h : u.Halted answers w p p' xs) (i : Nat) :
    ¬ p'.sink.Flushed (p.sink.flushes + i) := by
  rintro ⟨hlt, hne⟩
  rcases h.unflushed with hsame | ⟨hone, hfails⟩
  · omega
  · -- only one flush was made, and this is the one that fails
    obtain rfl : i = 0 := by omega
    exact hne (h.failingFlush.trans hfails)

/-- Flushes are never taken back, and the one that fails is always the same. -/
theorem Swept.flushes {ws : List Window} {free : Bool} {p p' : Progress σ}
    {result : Except ScanProblem Unit} (h : u.Swept answers ws free p p' result) :
    p.sink.flushes ≤ p'.sink.flushes ∧ p'.sink.failingFlush = p.sink.failingFlush := by
  induction h with
  | done => exact ⟨Nat.le_refl _, rfl⟩
  | halt halted =>
      refine ⟨?_, halted.failingFlush⟩
      rcases halted.unflushed with h | ⟨h, -⟩ <;> omega
  | next finished rest ih =>
      obtain ⟨hle, hfailing⟩ := ih
      have hone := finished.flushes
      exact ⟨by omega, hfailing.trans finished.failingFlush⟩

/-- The flush after a finished window was made and has not failed, whatever comes after it. -/
theorem Finished.flushed_of_rest {w : Window} {answers' : Nat → Envelope → Prop}
    {ws : List Window} {free free' : Bool} {p p₁ p' : Progress σ} {xs : List Exchange}
    {ending : Ending} {result : Except ScanProblem Unit}
    (h : u.Finished answers' w free p p₁ xs ending)
    (rest : u.Swept answers ws free' p₁ p' result) : p'.sink.Flushed p.sink.flushes := by
  obtain ⟨hle, hfailing⟩ := rest.flushes
  have hone := h.flushes
  refine ⟨by omega, ?_⟩
  rw [hfailing, h.failingFlush]
  exact h.flushed

/-- A row that comes to its end is flushed after each window. -/
theorem Swept.flushed {ws : List Window} {free : Bool} {p p' : Progress σ}
    {result : Except ScanProblem Unit} (h : u.Swept answers ws free p p' result)
    (hresult : result = .ok ()) :
    ∀ i < ws.length, p'.sink.Flushed (p.sink.flushes + i) := by
  induction h with
  | done => exact fun i hi => absurd hi (Nat.not_lt_zero i)
  | halt halted => cases hresult
  | next finished rest ih =>
      intro i hi
      cases i with
      | zero => exact finished.flushed_of_rest rest
      | succ i =>
          have hflushed := ih hresult i (Nat.lt_of_succ_lt_succ hi)
          rw [finished.flushes, Nat.add_assoc, Nat.add_comm 1] at hflushed
          exact hflushed

/-- **A row of windows comes to its end** where the explorer serves each of them and the sink
is healthy. -/
theorem Swept.ok {ws : List Window} {free : Bool} {p p' : Progress σ}
    {result : Except ScanProblem Unit} (h : u.Swept answers ws free p p' result)
    (hserves : ∀ w ∈ ws, u.Serves w u.template.maxPages 1) (hhealthy : p.sink.Healthy) :
    result = .ok () := by
  induction h with
  | done => rfl
  | halt halted => exact absurd hhealthy (halted.cause (hserves _ List.mem_cons_self))
  | next finished rest ih =>
      refine ih (fun w hw => hserves w (List.mem_cons_of_mem _ hw)) ?_
      rw [finished.sink]
      exact (hhealthy.write _).flush

end Windows

end Setup

/-! ## Whole scans -/

namespace Config

variable (c : Config)

/-- The next block that a store holds for the contract and the topic of a configuration. -/
def cursor? (s : Checkpoint.Store) : Option Nat :=
  match s.load c.contract.checksummed c.eventTopic.toText with
  | .ok (some mark) => some mark.nextBlock.toNat
  | _ => none

/-- The block at which a scan starts: the configured one, or that of a checkpoint beyond it. -/
def firstBlock (store : Option Checkpoint.Store) : Nat :=
  max c.fromBlock.toNat ((store.bind c.cursor?).getD 0)

theorem fromBlock_le_firstBlock (store : Option Checkpoint.Store) :
    c.fromBlock.toNat ≤ c.firstBlock store :=
  Nat.le_max_left _ _

theorem toBlock_le_lastBlock : c.toBlock.toNat ≤ lastBlock := by
  have hlt := c.toBlock.toNat_lt
  have hlast : lastBlock = 2 ^ 64 - 1 := by decide
  omega

/-- The windows of a scan. -/
def windows (store : Option Checkpoint.Store) : List Window :=
  Window.partition (c.firstBlock store) c.toBlock.toNat c.blockRange.toNat

/-- Move the checkpoint of a store to a block. -/
def mark (block : Nat) (s : Checkpoint.Store) : Checkpoint.Store :=
  s.save c.contract.checksummed c.eventTopic.toText (UInt64.ofNat block)

/-- A store can be read for the contract and the topic of a configuration. -/
def Readable (store : Option Checkpoint.Store) : Prop :=
  ∀ s, store = some s → ∃ m, s.load c.contract.checksummed c.eventTopic.toText = .ok m

/-- How many windows a scan has. -/
def windowCount (store : Option Checkpoint.Store) : Nat :=
  Window.count (c.firstBlock store) c.toBlock.toNat (max c.blockRange.toNat 1)

/-- The entries with which a scan begins: where it resumes, if it does, and what it scans. -/
def opening (store : Option Checkpoint.Store) : List Entry :=
  (if c.fromBlock.toNat < c.firstBlock store then [.resuming (c.firstBlock store)] else []) ++
    [.scanning c.contract (c.firstBlock store) c.toBlock.toNat c.blockRange.toNat]

/-- A scan that has made its opening entries, and nothing else. -/
def opened {σ : Type} (s : σ) (sink : Sink) (store : Option Checkpoint.Store) : Progress σ :=
  { Progress.start s sink store with journal := c.opening store }

end Config

/-- What comes of a scan whose windows have been gone through. -/
def Setup.close {σ : Type} : Progress σ × Except ScanProblem Unit →
    Progress σ × Except ScanProblem Report
  | (p, .error problem) => (p, .error problem)
  | (p, .ok ()) => ({ p with journal := p.journal ++ Setup.closing p.report }, .ok p.report)

@[simp] theorem Setup.close_exchanges {σ : Type} (r : Progress σ × Except ScanProblem Unit) :
    (Setup.close r).1.exchanges = r.1.exchanges := by
  obtain ⟨p, problem | _⟩ := r <;> rfl

@[simp] theorem Setup.close_sink {σ : Type} (r : Progress σ × Except ScanProblem Unit) :
    (Setup.close r).1.sink = r.1.sink := by
  obtain ⟨p, problem | _⟩ := r <;> rfl

@[simp] theorem Setup.close_store {σ : Type} (r : Progress σ × Except ScanProblem Unit) :
    (Setup.close r).1.store = r.1.store := by
  obtain ⟨p, problem | _⟩ := r <;> rfl

theorem Setup.close_of_error {σ : Type} {r : Progress σ × Except ScanProblem Unit}
    {problem : ScanProblem} (h : r.2 = .error problem) :
    (Setup.close r).2 = .error problem := by
  obtain ⟨p, result⟩ := r
  obtain rfl : result = .error problem := h
  rfl

/-- A scan reports exactly when its windows have come to their end, and then what was counted. -/
theorem Setup.close_eq_ok {σ : Type} {r : Progress σ × Except ScanProblem Unit}
    {report : Report} : (Setup.close r).2 = .ok report ↔ r.2 = .ok () ∧ r.1.report = report := by
  obtain ⟨p, problem | _⟩ := r <;> simp [close]

section Scan

variable {σ : Type} {c : Config} {explorer : Explorer σ}

/-- A scan begins with its opening entries, at its first block. -/
theorem Setup.startBlock_eq (explorer : Explorer σ) (s : σ) (sink : Sink)
    {store : Option Checkpoint.Store} (hr : c.Readable store) :
    ∃ j, (Setup.ofConfig c explorer).startBlock (Progress.start s sink store)
        = ({ Progress.start s sink store with journal := j }, .ok (c.firstBlock store)) ∧
      c.opening store = j ++
        [.scanning c.contract (c.firstBlock store) c.toBlock.toNat c.blockRange.toNat] := by
  cases store with
  | none =>
      refine ⟨[], ?_, ?_⟩
      · simp [startBlock, Setup.ofConfig, Config.firstBlock, Progress.start]
      · simp [Config.opening, Config.firstBlock]
  | some t =>
      obtain ⟨m, hm⟩ := hr t rfl
      cases m with
      | none =>
          refine ⟨[], ?_, ?_⟩
          · simp [startBlock, Setup.ofConfig, Config.firstBlock, Config.cursor?, hm,
              Progress.start]
          · simp [Config.opening, Config.firstBlock, Config.cursor?, hm]
      | some mark =>
          have hcursor : c.cursor? t = some mark.nextBlock.toNat := by
            simp [Config.cursor?, hm]
          by_cases hlt : c.fromBlock.toNat < mark.nextBlock.toNat
          · have hmax := Nat.max_eq_right (Nat.le_of_lt hlt)
            refine ⟨[.resuming mark.nextBlock.toNat], ?_, ?_⟩
            · simp [startBlock, Setup.ofConfig, Config.firstBlock, hcursor, hm, hlt, hmax,
                Progress.say, Progress.start]
            · simp [Config.opening, Config.firstBlock, hcursor, hlt, hmax]
          · have hmax := Nat.max_eq_left (Nat.le_of_not_lt hlt)
            refine ⟨[], ?_, ?_⟩
            · simp [startBlock, Setup.ofConfig, Config.firstBlock, hcursor, hm, hlt, hmax,
                Progress.start]
            · simp [Config.opening, Config.firstBlock, hcursor, hmax]

/-- **A scan is its windows**, between the entries with which it begins and those with which it
closes. -/
theorem scan_eq (hc : c.problem? = none) (explorer : Explorer σ)
    {store : Option Checkpoint.Store} (hr : c.Readable store) (s : σ) (sink : Sink) :
    scan c explorer (Progress.start s sink store)
      = Setup.close ((Setup.ofConfig c explorer).scanWindows (c.windowCount store)
          (c.firstBlock store) store.isSome (c.opened s sink store)) := by
  obtain ⟨j, hj, hopening⟩ := Setup.startBlock_eq explorer s sink hr
  rw [Config.opened, hopening]
  unfold scan
  rw [hc]
  simp only
  rw [hj]
  rfl

/-- **A scan goes through its windows.** What it leaves behind, its journal apart, is what the
windows leave behind. -/
theorem scan_swept {answers : Window → Nat → Envelope → Prop} (hc : c.problem? = none)
    (ha : ∀ w, (Setup.ofConfig c explorer).Answered w (answers w))
    {store : Option Checkpoint.Store} (hr : c.Readable store) (s : σ) (sink : Sink) :
    ∃ j j' p' result,
      (Setup.ofConfig c explorer).Swept answers (c.windows store) store.isSome
        { Progress.start s sink store with journal := j } p' result ∧
      scan c explorer (Progress.start s sink store)
        = ({ p' with journal := j' }, result.map fun _ => p'.report) := by
  have hmax : 0 < (Setup.ofConfig c explorer).template.maxPages :=
    (Config.fits_of_problem? hc).maxPages_pos
  have hswept := Setup.scanWindows_swept hmax ha (c.windowCount store) (c.firstBlock store)
    store.isSome (c.opened s sink store)
  rw [scan_eq hc explorer hr]
  generalize (Setup.ofConfig c explorer).scanWindows _ _ _ _ = r at hswept ⊢
  obtain ⟨p', result⟩ := r
  cases result with
  | error problem => exact ⟨_, p'.journal, p', .error problem, hswept, rfl⟩
  | ok _ => exact ⟨_, p'.journal ++ Setup.closing p'.report, p', .ok (), hswept, rfl⟩

end Scan

end DepositTrail
