import DepositTrail.Proofs.WindowSweep

set_option autoImplicit false

/-! # Two scans abreast

Two scans ask explorers of their own, and their configurations differ at most in the key. What
they do with the envelopes they receive is the same. So if a relation between their trails (the
explorers, the exchanges, the journals) is kept by each question and by each entry that both of
them make, and if two questions for the same page read the same, the scans keep it to their end,
and come to the same result, the same bytes and the same checkpoint (`Abreast`,
`Abreast.scan`).

A question need only be looked at where the exchanges of the first scan are as they should be;
since no exchange is ever forgotten, it is enough that they are so at its end.
-/

namespace DepositTrail

/-- Whether an entry is about a failure after which another attempt was made. -/
def Entry.isRetry : Entry → Bool
  | .retrying _ _ _ _ _ => true
  | _ => false

/-- The entries about events are not about failures. -/
theorem Event.isRetry_of_line {format : OutputFormat} {e : Event} {entry : Entry}
    (h : Event.line format e = .error entry) : entry.isRetry = false := by
  rcases Event.line_eq_error h with ⟨problem, rfl⟩ | ⟨block, problem, rfl⟩ <;> rfl

/-- The closing entries are not about failures. -/
theorem Setup.isRetry_of_mem_closing (r : Report) :
    ∀ e ∈ Setup.closing r, e.isRetry = false := by
  unfold closing
  split_ifs <;> simp [Entry.isRetry]

/-- The configuration with another key. -/
def Config.withKey (c : Config) (key : Text) : Config := { c with apiKey := ⟨key⟩ }

/-- The part of a progress that its questions change. -/
structure Trail (σ : Type) where
  explorer : σ
  exchanges : List Exchange
  journal : List Entry

namespace Trail

variable {σ : Type}

/-- Make an entry in the journal. -/
def say (t : Trail σ) (e : Entry) : Trail σ := { t with journal := t.journal ++ [e] }

/-- The trail after a course of attempts for a request. -/
def after (t : Trail σ) (attempts : Nat) (r : PageRequest) (course : Course σ) : Trail σ where
  explorer := course.state
  exchanges := t.exchanges ++ course.exchanges r
  journal := t.journal ++ retryEntries attempts r 1 course.retried

end Trail

/-- The trail of a progress. -/
def Progress.trail {σ : Type} (p : Progress σ) : Trail σ := ⟨p.explorer, p.exchanges, p.journal⟩

/-- A relation between trails that two scans keep, as long as the exchanges of the first one are
as they should be. -/
structure Abreast {σ τ : Type} (c : Config) (key : Text) (explorer : Explorer σ)
    (explorer' : Explorer τ) (fine : List Exchange → Prop) (T : Trail σ → Trail τ → Prop) :
    Prop where
  shorter : ∀ {xs ys : List Exchange}, xs <+: ys → fine ys → fine xs
  say : ∀ {t : Trail σ} {t' : Trail τ}, T t t' → ∀ {e : Entry}, e.isRetry = false →
    T (t.say e) (t'.say e)
  ask : ∀ {t : Trail σ} {t' : Trail τ}, T t t' → ∀ (w : Window) (page : Nat),
    let client := Client.ofConfig c
    let r := (PageTemplate.ofConfig c).request w page
    let r' := (PageTemplate.ofConfig (c.withKey key)).request w page
    let course := client.ask explorer r t.explorer
    let course' := client.ask explorer' r' t'.explorer
    fine (t.exchanges ++ course.exchanges r) →
      T (t.after client.maxAttempts r course) (t'.after client.maxAttempts r' course') ∧
        course'.last.reading = course.last.reading

/-- Two progresses with related trails, and with the same in all else. -/
structure Along {σ τ : Type} (T : Trail σ → Trail τ → Prop) (p : Progress σ)
    (p' : Progress τ) : Prop where
  trail : T p.trail p'.trail
  sink : p'.sink = p.sink
  report : p'.report = p.report
  store : p'.store = p.store

/-- Two outcomes with the same result, and with progresses that go along with each other. -/
def Both {σ τ α : Type} (T : Trail σ → Trail τ → Prop) (r : Progress σ × Except ScanProblem α)
    (r' : Progress τ × Except ScanProblem α) : Prop :=
  Along T r.1 r'.1 ∧ r'.2 = r.2

section Both

variable {σ τ α : Type} {T : Trail σ → Trail τ → Prop} {p : Progress σ} {p' : Progress τ}

theorem Both.split {r : Progress σ × Except ScanProblem α}
    {r' : Progress τ × Except ScanProblem α} (h : Both T r r') {result : Except ScanProblem α}
    (hr : r = (p, result)) : ∃ p', r' = (p', result) ∧ Along T p p' := by
  subst hr
  exact ⟨r'.1, Prod.ext rfl h.2, h.1⟩

theorem Along.both (h : Along T p p') (result : Except ScanProblem α) :
    Both T (p, result) (p', result) :=
  ⟨h, rfl⟩

theorem Along.count (h : Along T p p') (f : Report → Report) :
    Along T (p.count f) (p'.count f) where
  trail := h.trail
  sink := h.sink
  report := congrArg f h.report
  store := h.store

theorem Along.write (h : Along T p p') (line : Text) : Both T (p.write line) (p'.write line) := by
  unfold Progress.write
  rw [h.sink]
  obtain ⟨s, problem | _⟩ := p.sink.write line.utf8
  · exact ⟨⟨h.trail, rfl, h.report, h.store⟩, rfl⟩
  · exact ⟨⟨h.trail, rfl, h.report, h.store⟩, rfl⟩

theorem Along.flush (h : Along T p p') : Both T p.flush p'.flush := by
  unfold Progress.flush
  rw [h.sink]
  obtain ⟨s, problem | _⟩ := p.sink.flush
  · exact ⟨⟨h.trail, rfl, h.report, h.store⟩, rfl⟩
  · exact ⟨⟨h.trail, rfl, h.report, h.store⟩, rfl⟩

end Both

namespace Abreast

variable {σ τ : Type} {c : Config} {key : Text} {explorer : Explorer σ}
  {explorer' : Explorer τ} {fine : List Exchange → Prop} {T : Trail σ → Trail τ → Prop}
  (h : Abreast c key explorer explorer' fine T) {p : Progress σ} {p' : Progress τ}

include h

theorem along_say (ha : Along T p p') {e : Entry} (he : e.isRetry = false) :
    Along T (p.say e) (p'.say e) where
  trail := h.say ha.trail he
  sink := ha.sink
  report := ha.report
  store := ha.store

theorem along_says (ha : Along T p p') {es es' : List Entry} (hsame : es' = es)
    (hes : ∀ e ∈ es, e.isRetry = false) :
    Along T { p with journal := p.journal ++ es } { p' with journal := p'.journal ++ es' } := by
  obtain rfl := hsame.symm
  induction es generalizing p p' with
  | nil => simpa using ha
  | cons e es ih =>
      have hfirst := h.along_say ha (hes e List.mem_cons_self)
      have hrest := ih hfirst fun e he => hes e (List.mem_cons_of_mem _ he)
      simpa [Progress.say] using hrest

/-! ## Pages -/

theorem takeEvent (e : Event) (ha : Along T p p') :
    Both T ((Setup.ofConfig c explorer).takeEvent e p)
      ((Setup.ofConfig (c.withKey key) explorer').takeEvent e p') := by
  cases he : Event.line c.output e with
  | error entry =>
      have hentry := Event.isRetry_of_line he
      rw [Setup.takeEvent_of_entry (Setup.ofConfig c explorer) he,
        Setup.takeEvent_of_entry (Setup.ofConfig (c.withKey key) explorer') he]
      exact ((h.along_say ha hentry).count _).both _
  | ok line =>
      rw [Setup.takeEvent_of_line (Setup.ofConfig c explorer) he,
        Setup.takeEvent_of_line (Setup.ofConfig (c.withKey key) explorer') he]
      cases hw : p.write line with
      | mk q result =>
          obtain ⟨q', hw', hq⟩ := (ha.write line).split hw
          rw [hw']
          cases result with
          | error problem => exact hq.both _
          | ok _ => exact (hq.count _).both _

theorem takeEvents (events : List Event) (ha : Along T p p') :
    Both T ((Setup.ofConfig c explorer).takeEvents events p)
      ((Setup.ofConfig (c.withKey key) explorer').takeEvents events p') := by
  induction events generalizing p p' with
  | nil => exact ha.both _
  | cons e rest ih =>
      unfold Setup.takeEvents
      cases hq : (Setup.ofConfig c explorer).takeEvent e p with
      | mk q result =>
          obtain ⟨q', hq', hqq⟩ := (h.takeEvent e ha).split hq
          rw [hq']
          cases result with
          | error problem => exact hqq.both _
          | ok _ => exact ih hqq

theorem takePage (batch : LogBatch) (ha : Along T p p') :
    Both T ((Setup.ofConfig c explorer).takePage batch p)
      ((Setup.ofConfig (c.withKey key) explorer').takePage batch p') := by
  have hevents := h.takeEvents (extract c.eventTopic batch.logs) ha
  unfold Setup.takePage
  cases hq : (Setup.ofConfig c explorer).takeEvents (extract c.eventTopic batch.logs) p with
  | mk q result =>
      obtain ⟨q', hq', hqq⟩ := hevents.split hq
      simp only [Setup.ofConfig, Config.withKey] at hq hq' ⊢
      rw [hq, hq']
      cases result with
      | error problem => exact hqq.both _
      | ok _ =>
          cases batch with
          | truncated logs malformed received => exact (h.along_say hqq rfl).both _
          | complete logs => exact hqq.both _

/-! ## Windows -/

/-- **The scan of a window** keeps what its questions keep. -/
theorem scanPages (w : Window) (left page : Nat) (ha : Along T p p')
    (hfine : fine ((Setup.ofConfig c explorer).scanPages w left page p).1.exchanges) :
    Both T ((Setup.ofConfig c explorer).scanPages w left page p)
      ((Setup.ofConfig (c.withKey key) explorer').scanPages w left page p') := by
  induction left generalizing page p p' with
  | zero => exact ha.both _
  | succ left ih =>
      have hasked := h.shorter ((Setup.scanPages_keeps w (left + 1) page p).2 left.succ_pos) hfine
      obtain ⟨htrail, hreading⟩ := h.ask ha.trail w page hasked
      have hq : Along T ((Setup.ofConfig c explorer).askedFor w page p)
          ((Setup.ofConfig (c.withKey key) explorer').askedFor w page p') :=
        ⟨htrail, ha.sink, ha.report, ha.store⟩
      unfold Setup.scanPages at hfine ⊢
      rw [Setup.query_eq] at hfine ⊢
      rw [Setup.query_eq]
      change ((Setup.ofConfig (c.withKey key) explorer').courseOf w page p').last.reading
        = ((Setup.ofConfig c explorer).courseOf w page p).last.reading at hreading
      rw [hreading]
      cases hr : ((Setup.ofConfig c explorer).courseOf w page p).last.reading with
      | error problem => exact hq.both _
      | ok e =>
          rw [hr] at hfine
          simp only at hfine ⊢
          have hcounted := hq.count fun r => { r with requests := r.requests + 1 }
          by_cases hempty : e.isEmpty
          · simp only [if_pos hempty]
            by_cases hsays : Setup.saysNoRecords e.message
            · simp only [if_pos hsays]
              exact hcounted.both _
            · simp only [if_neg hsays]
              exact ((h.along_say hcounted rfl).count _).both _
          · simp only [if_neg hempty] at hfine ⊢
            cases hp : (Setup.ofConfig c explorer).takePage (LogBatch.classify e.result)
                (((Setup.ofConfig c explorer).askedFor w page p).count
                  fun r => { r with requests := r.requests + 1 }) with
            | mk q result =>
                obtain ⟨q', hq', hqq⟩ := (h.takePage _ hcounted).split hp
                rw [hp] at hfine
                rw [hq']
                cases result with
                | error problem => exact hqq.both _
                | ok pageEnd =>
                    cases pageEnd with
                    | short => exact hqq.both _
                    | malformed => exact (hqq.count _).both _
                    | full =>
                        simp only at hfine ⊢
                        by_cases hleft : left = 0
                        · simp only [if_pos hleft]
                          exact ((h.along_say hqq rfl).count _).both _
                        · simp only [if_neg hleft] at hfine ⊢
                          exact ih (page + 1) (hqq.count _) hfine

theorem settle (w : Window) (windowEnd : WindowEnd) (free : Bool) (ha : Along T p p') :
    Both T ((Setup.ofConfig c explorer).settle w windowEnd free p)
      ((Setup.ofConfig (c.withKey key) explorer').settle w windowEnd free p') := by
  cases free with
  | false => cases windowEnd <;> exact ha.both _
  | true =>
      cases windowEnd with
      | completed =>
          have hmoved : Along T ((Setup.ofConfig c explorer).moveCheckpoint w p)
              ((Setup.ofConfig (c.withKey key) explorer').moveCheckpoint w p') :=
            ⟨ha.trail, ha.sink, ha.report, congrArg (Option.map _) ha.store⟩
          exact hmoved.both _
      | incomplete => exact (h.along_say ha rfl).both _

theorem scanWindow (w : Window) (free : Bool) (ha : Along T p p')
    (hfine : fine ((Setup.ofConfig c explorer).scanWindow w free p).1.exchanges) :
    Both T ((Setup.ofConfig c explorer).scanWindow w free p)
      ((Setup.ofConfig (c.withKey key) explorer').scanWindow w free p') := by
  rw [(Setup.scanWindow_pages w free p).1.exchanges] at hfine
  have hpages : Both T
      ((Setup.ofConfig c explorer).scanPages w (Setup.ofConfig c explorer).template.maxPages 1 p)
      ((Setup.ofConfig (c.withKey key) explorer').scanPages w
        (Setup.ofConfig (c.withKey key) explorer').template.maxPages 1 p') :=
    h.scanPages w c.maxPages 1 ha hfine
  unfold Setup.scanWindow
  cases hq : (Setup.ofConfig c explorer).scanPages w
      (Setup.ofConfig c explorer).template.maxPages 1 p with
  | mk q result =>
      obtain ⟨q', hq', hqq⟩ := hpages.split hq
      rw [hq']
      cases result with
      | error problem => exact hqq.both _
      | ok windowEnd =>
          simp only
          have hcounted := hqq.count fun r => { r with ranges := r.ranges + 1 }
          cases hf : (q.count fun r => { r with ranges := r.ranges + 1 }).flush with
          | mk p₁ flushed =>
              obtain ⟨p₁', hf', hpp⟩ := hcounted.flush.split hf
              rw [hf']
              cases flushed with
              | error problem => exact hpp.both _
              | ok _ => exact h.settle w windowEnd free hpp

/-- **The scan of a row of windows** keeps what its questions keep. -/
theorem scanWindows (left first : Nat) (free : Bool) (ha : Along T p p')
    (hfine : fine ((Setup.ofConfig c explorer).scanWindows left first free p).1.exchanges) :
    Both T ((Setup.ofConfig c explorer).scanWindows left first free p)
      ((Setup.ofConfig (c.withKey key) explorer').scanWindows left first free p') := by
  induction left generalizing first free p p' with
  | zero => exact ha.both _
  | succ left ih =>
      have hwindow : Both T _ ((Setup.ofConfig (c.withKey key) explorer').scanWindow
          (Window.starting (Setup.ofConfig (c.withKey key) explorer').config.blockRange.toNat first)
          free p') :=
        h.scanWindow (Window.starting c.blockRange.toNat first) free ha
        (h.shorter ((Setup.scanWindows_keeps (left + 1) first free p).2 left.succ_pos) hfine)
      rw [Setup.scanWindows_succ] at hfine ⊢
      rw [Setup.scanWindows_succ]
      cases hq : (Setup.ofConfig c explorer).scanWindow
          (Window.starting (Setup.ofConfig c explorer).config.blockRange.toNat first) free p with
      | mk q result =>
          obtain ⟨q', hq', hqq⟩ := hwindow.split hq
          rw [hq] at hfine
          rw [hq']
          cases result with
          | error problem => exact hqq.both _
          | ok free' => exact ih _ free' hqq hfine

/-! ## Whole scans -/

theorem startBlock (ha : Along T p p') :
    Both T ((Setup.ofConfig c explorer).startBlock p)
      ((Setup.ofConfig (c.withKey key) explorer').startBlock p') := by
  unfold Setup.startBlock
  rw [ha.store]
  dsimp only [Setup.ofConfig, Config.withKey]
  cases p.store with
  | none => exact ha.both _
  | some s =>
      simp only
      cases s.load c.contract.checksummed c.eventTopic.toText with
      | error problem => exact ha.both _
      | ok mark =>
          cases mark with
          | none => exact ha.both _
          | some mark =>
              by_cases hlt : c.fromBlock.toNat < mark.nextBlock.toNat
              · simp only [if_pos hlt]
                exact (h.along_say ha rfl).both _
              · simp only [if_neg hlt]
                exact ha.both _

theorem close {r : Progress σ × Except ScanProblem Unit}
    {r' : Progress τ × Except ScanProblem Unit} (hboth : Both T r r') :
    Both T (Setup.close r) (Setup.close r') := by
  obtain ⟨q, result⟩ := r
  obtain ⟨q', rfl, hqq⟩ := hboth.split rfl
  cases result with
  | error problem => exact hqq.both _
  | ok _ =>
      exact ⟨h.along_says hqq (congrArg Setup.closing hqq.report)
        (Setup.isRetry_of_mem_closing q.report), congrArg Except.ok hqq.report⟩

theorem scanFrom (first : Nat) (ha : Along T p p')
    (hfine : fine ((Setup.ofConfig c explorer).scanFrom first p).1.exchanges) :
    Both T ((Setup.ofConfig c explorer).scanFrom first p)
      ((Setup.ofConfig (c.withKey key) explorer').scanFrom first p') := by
  have hsaid := h.along_say ha
    (e := .scanning c.contract first c.toBlock.toNat c.blockRange.toNat) rfl
  apply h.close
  show Both T _ ((Setup.ofConfig (c.withKey key) explorer').scanWindows _ first p'.store.isSome _)
  rw [ha.store]
  refine h.scanWindows _ first _ hsaid ?_
  rw [← Setup.close_exchanges]
  exact hfine

/-- **Two scans abreast** keep the relation between their trails to their end, and come to the
same result. -/
theorem scan (ha : Along T p p') (hfine : fine (scan c explorer p).1.exchanges) :
    Both T (scan c explorer p) (scan (c.withKey key) explorer' p') := by
  have hsame : (c.withKey key).problem? = c.problem? := rfl
  unfold DepositTrail.scan at hfine ⊢
  rw [hsame]
  cases hc : c.problem? with
  | some problem => exact ha.both _
  | none =>
      rw [hc] at hfine
      simp only at hfine ⊢
      cases hq : (Setup.ofConfig c explorer).startBlock p with
      | mk q result =>
          obtain ⟨q', hq', hqq⟩ := (h.startBlock ha).split hq
          rw [hq] at hfine
          rw [hq']
          cases result with
          | error problem => exact hqq.both _
          | ok first => exact h.scanFrom first hqq hfine

end Abreast

end DepositTrail
