import DepositTrail.Proofs.Cursor

set_option autoImplicit false

/-! # Scans over another store

What a scan does depends on its store only through the mark that it loads at its beginning. From
there on it moves the checkpoint past some windows, and which ones they are does not depend on
the store (`scan_overStore`).

A step of a scan is looked at with one store and with another: it comes to the same but for the
store (`Progress.overStore`), and of the steps only the one after a window changes it.
-/

namespace DepositTrail

/-! ## Another store -/

namespace Progress

variable {σ α : Type}

/-- The same progress with another store. -/
def withStore (p : Progress σ) (store : Option Checkpoint.Store) : Progress σ :=
  { p with store := store }

/-- An outcome with another store in its progress. -/
def overStore (store : Option Checkpoint.Store) (r : Progress σ × Except ScanProblem α) :
    Progress σ × Except ScanProblem α :=
  (r.1.withStore store, r.2)

@[simp] theorem exchanges_overStore (store : Option Checkpoint.Store)
    (r : Progress σ × Except ScanProblem α) : (overStore store r).1.exchanges = r.1.exchanges := rfl

@[simp] theorem sink_overStore (store : Option Checkpoint.Store)
    (r : Progress σ × Except ScanProblem α) : (overStore store r).1.sink = r.1.sink := rfl

theorem count_withStore (p : Progress σ) (store : Option Checkpoint.Store) (f : Report → Report) :
    (p.withStore store).count f = (p.count f).withStore store := rfl

theorem write_withStore (p : Progress σ) (store : Option Checkpoint.Store) (line : Text) :
    (p.withStore store).write line = overStore store (p.write line) := by
  unfold write withStore
  rcases p.sink.write line.utf8 with ⟨s, problem | _⟩ <;> rfl

theorem flush_withStore (p : Progress σ) (store : Option Checkpoint.Store) :
    (p.withStore store).flush = overStore store p.flush := by
  unfold flush withStore
  rcases p.sink.flush with ⟨s, problem | _⟩ <;> rfl

end Progress

/-! ## Pages and windows -/

namespace Setup

variable {σ : Type} {u : Setup σ}

section Pages

variable {store : Option Checkpoint.Store}

theorem takeEvent_overStore (e : Event) (p : Progress σ) :
    u.takeEvent e (p.withStore store) = Progress.overStore store (u.takeEvent e p) := by
  cases he : Event.line u.config.output e with
  | error entry =>
      rw [takeEvent_of_entry u he, takeEvent_of_entry u he]
      rfl
  | ok line =>
      rw [takeEvent_of_line u he, takeEvent_of_line u he, Progress.write_withStore]
      rcases p.write line with ⟨q, problem | _⟩ <;> rfl

theorem takeEvents_overStore (events : List Event) (p : Progress σ) :
    u.takeEvents events (p.withStore store) = Progress.overStore store (u.takeEvents events p) := by
  induction events generalizing p with
  | nil => rfl
  | cons e rest ih =>
      rw [takeEvents, takeEvents, takeEvent_overStore]
      rcases u.takeEvent e p with ⟨q, problem | _⟩
      · rfl
      · exact ih q

theorem takePage_overStore (batch : LogBatch) (p : Progress σ) :
    u.takePage batch (p.withStore store) = Progress.overStore store (u.takePage batch p) := by
  rw [takePage, takePage, takeEvents_overStore]
  rcases u.takeEvents (extract u.config.eventTopic batch.logs) p with ⟨q, problem | _⟩
  · rfl
  · cases batch <;> rfl

/-- The pages of a window do not see the store. -/
theorem scanPages_overStore (w : Window) (left page : Nat) (p : Progress σ) :
    u.scanPages w left page (p.withStore store)
      = Progress.overStore store (u.scanPages w left page p) := by
  induction left generalizing page p with
  | zero => rfl
  | succ left ih =>
      have hasked : u.query (u.template.request w page) (p.withStore store)
          = Progress.overStore store (u.query (u.template.request w page) p) := by
        rw [query_eq, query_eq]
        rfl
      rw [scanPages, scanPages, hasked]
      rcases u.query (u.template.request w page) p with ⟨q, problem | e⟩
      · rfl
      · -- what comes of the envelope, and of its page if it has one
        have hpage : u.takePage (LogBatch.classify e.result)
            ((q.withStore store).count fun r => { r with requests := r.requests + 1 })
              = Progress.overStore store (u.takePage (LogBatch.classify e.result)
                  (q.count fun r => { r with requests := r.requests + 1 })) := by
          rw [Progress.count_withStore, takePage_overStore]
        simp only [Progress.overStore] at hpage ⊢
        by_cases hempty : e.isEmpty
        · by_cases hsays : saysNoRecords e.message
          · simp only [if_pos hempty, if_pos hsays]
            rfl
          · simp only [if_pos hempty, if_neg hsays]
            rfl
        · simp only [if_neg hempty, hpage]
          rcases u.takePage (LogBatch.classify e.result)
            (q.count fun r => { r with requests := r.requests + 1 }) with ⟨q', problem | pageEnd⟩
          · rfl
          · cases pageEnd with
            | short => rfl
            | malformed => rfl
            | full =>
                by_cases hleft : left = 0
                · simp only [if_pos hleft]
                  rfl
                · simp only [if_neg hleft, Progress.count_withStore]
                  exact ih (page + 1) _

end Pages

/-- What is done about the checkpoint after a window does not depend on where it stands. -/
theorem settle_overStore (w : Window) (windowEnd : WindowEnd) (free : Bool) (p : Progress σ) :
    ∃ ws, ∀ store, u.settle w windowEnd free (p.withStore store)
      = Progress.overStore (store.map (u.config.marked ws)) (u.settle w windowEnd free p) := by
  have hstill : ∀ q : Progress σ, ∀ store,
      q.withStore store = q.withStore (store.map (u.config.marked [])) := fun q store => by simp
  cases free with
  | false =>
      refine ⟨[], fun store => ?_⟩
      cases windowEnd <;> exact congrArg (·, Except.ok false) (hstill p store)
  | true =>
      cases windowEnd with
      | completed => exact ⟨[w], fun store => rfl⟩
      | incomplete =>
          exact ⟨[], fun store => congrArg (·, Except.ok false) (hstill (p.say (.held w)) store)⟩

theorem scanWindow_overStore (w : Window) (free : Bool) (p : Progress σ) :
    ∃ ws, ∀ store, u.scanWindow w free (p.withStore store)
      = Progress.overStore (store.map (u.config.marked ws)) (u.scanWindow w free p) := by
  unfold scanWindow
  simp only [scanPages_overStore]
  rcases u.scanPages w u.template.maxPages 1 p with ⟨q, problem | windowEnd⟩
  · exact ⟨[], fun store => by simp [Progress.overStore]⟩
  · have hflush : ∀ store,
        ((q.withStore store).count fun r => { r with ranges := r.ranges + 1 }).flush
          = Progress.overStore store
              (q.count fun r => { r with ranges := r.ranges + 1 }).flush := by
      intro store
      rw [Progress.count_withStore, Progress.flush_withStore]
    simp only [Progress.overStore] at hflush ⊢
    simp only [hflush]
    rcases (q.count fun r => { r with ranges := r.ranges + 1 }).flush with ⟨q', problem | _⟩
    · exact ⟨[], fun store => by simp⟩
    · exact settle_overStore w windowEnd free q'

/-- **The windows of a scan do not see the store.** They move its checkpoint past some of them,
and these are the same for every store. -/
theorem scanWindows_overStore (left first : Nat) (free : Bool) (p : Progress σ) :
    ∃ ws, ∀ store, u.scanWindows left first free (p.withStore store)
      = Progress.overStore (store.map (u.config.marked ws)) (u.scanWindows left first free p) := by
  induction left generalizing first free p with
  | zero => exact ⟨[], fun store => by simp [scanWindows, Progress.overStore]⟩
  | succ left ih =>
      obtain ⟨ws, hws⟩ :=
        scanWindow_overStore (u := u) (Window.starting u.config.blockRange.toNat first) free p
      simp only [scanWindows_succ, hws]
      rcases u.scanWindow (Window.starting u.config.blockRange.toNat first) free p with
        ⟨q, problem | free'⟩
      · exact ⟨ws, fun store => rfl⟩
      · obtain ⟨ws', hws'⟩ := ih (first + max u.config.blockRange.toNat 1) free' q
        refine ⟨ws ++ ws', fun store => ?_⟩
        have hmoved : store.map (u.config.marked (ws ++ ws'))
            = (store.map (u.config.marked ws)).map (u.config.marked ws') := by
          rw [Option.map_map]
          exact congrArg (store.map ·) (funext (u.config.marked_append ws ws'))
        rw [hmoved]
        exact hws' _

theorem close_overStore (store : Option Checkpoint.Store)
    (r : Progress σ × Except ScanProblem Unit) :
    close (Progress.overStore store r) = Progress.overStore store (close r) := by
  obtain ⟨p, problem | _⟩ := r <;> rfl

end Setup

/-! ## Whole scans -/

/-- **A scan does not see its store**, but for the mark that it loads: over any store that gives
the same mark it does the same, and moves the checkpoint past the same windows. -/
theorem scan_overStore {σ : Type} (c : Config) (explorer : Explorer σ) (s : σ) (sink : Sink)
    (store : Checkpoint.Store) :
    ∃ ws, ∀ store' : Checkpoint.Store,
      store'.load c.contract.checksummed c.eventTopic.toText
          = store.load c.contract.checksummed c.eventTopic.toText →
        scan c explorer (Progress.start s sink (some store'))
          = Progress.overStore (some (c.marked ws store'))
              (scan c explorer (Progress.start s sink (some store))) := by
  cases hc : c.problem? with
  | some problem => exact ⟨[], fun store' _ => by simp [scan, hc]; rfl⟩
  | none =>
      cases hload : store.load c.contract.checksummed c.eventTopic.toText with
      | error problem =>
          -- neither of the two stores can be read, and the scan ends before it has begun
          refine ⟨[], fun store' hload' => ?_⟩
          simp [scan, hc, Setup.startBlock, Setup.ofConfig, Progress.start, hload, hload']
          rfl
      | ok m =>
          have hr : c.Readable (some store) := by
            rintro _ ⟨⟩
            exact ⟨m, hload⟩
          obtain ⟨ws, hws⟩ := Setup.scanWindows_overStore (u := Setup.ofConfig c explorer)
            (c.windowCount (some store)) (c.firstBlock (some store)) true
            (c.opened s sink (some store))
          refine ⟨ws, fun store' hload' => ?_⟩
          have hr' : c.Readable (some store') := by
            rintro _ ⟨⟩
            exact ⟨m, hload'⟩
          have hfirst : c.firstBlock (some store') = c.firstBlock (some store) :=
            Config.firstBlock_congr (by rw [Config.cursor?, Config.cursor?, hload, hload'])
          have hopened : c.opened s sink (some store')
              = (c.opened s sink (some store)).withStore (some store') := by
            rw [Config.opened, Config.opened, Config.opening, Config.opening, hfirst]
            rfl
          rw [scan_eq hc explorer hr', scan_eq hc explorer hr, hopened, Config.windowCount, hfirst]
          calc Setup.close ((Setup.ofConfig c explorer).scanWindows (c.windowCount (some store))
                (c.firstBlock (some store)) true
                ((c.opened s sink (some store)).withStore (some store')))
              = Setup.close (Progress.overStore (some (c.marked ws store'))
                  ((Setup.ofConfig c explorer).scanWindows (c.windowCount (some store))
                    (c.firstBlock (some store)) true (c.opened s sink (some store)))) := by
                rw [hws (some store')]
                rfl
            _ = Progress.overStore (some (c.marked ws store')) (Setup.close
                  ((Setup.ofConfig c explorer).scanWindows (c.windowCount (some store))
                    (c.firstBlock (some store)) true (c.opened s sink (some store)))) :=
                Setup.close_overStore _ _

end DepositTrail
