import DepositTrail.Proofs.Cursor
import DepositTrail.Proofs.Output

set_option autoImplicit false

/-! # Sinks with bounds

A sink with room for some bytes only cuts a scan short. If all that the scan writes fits, nothing
is different. If not, the scan ends where the first byte does not fit: the sink holds as many
bytes of the output as it has room for, no request is made that would not have been made without
the bounds, and the checkpoint stands where it stood when the scan began the window whose line
was cut (`scan_confined`).

A scan and the same scan with bounds are compared page by page and window by window
(`Confined`). As long as the output fits they differ in the room that is left, and in nothing
else.
-/

namespace DepositTrail

/-- The progress into a sink with room for `n` bytes in all. -/
def Progress.confined {σ : Type} (n : Nat) (p : Progress σ) : Progress σ :=
  { p with sink := p.sink.confined n }

/-- The outcomes of the same scan without bounds and with room for `n` bytes. `held` says which
store the second may leave behind if its sink has refused. -/
structure Confined {σ α : Type} (n : Nat) (held : Option Checkpoint.Store → Prop)
    (r r' : Progress σ × Except ScanProblem α) : Prop where
  fits : r.1.sink.taken.length ≤ n → r' = (r.1.confined n, r.2)
  cut : n < r.1.sink.taken.length →
    r'.2 = .error (.output .full) ∧ r'.1.sink.taken = r.1.sink.taken.take n ∧
      r'.1.exchanges <+: r.1.exchanges ∧ held r'.1.store

section Confined

variable {σ α : Type} {n : Nat} {held held' : Option Checkpoint.Store → Prop}

theorem confined_of_fits {p : Progress σ} (hn : p.sink.taken.length ≤ n)
    (result : Except ScanProblem α) :
    Confined n held (p, result) (p.confined n, result) where
  fits := fun _ => rfl
  cut := fun h => absurd hn (Nat.not_le.mpr h)

/-- The first bytes are the same, whatever was written after them. -/
theorem take_of_isPrefix {bytes bytes' : List UInt8} (h : bytes <+: bytes')
    (hn : n ≤ bytes.length) : bytes'.take n = bytes.take n := by
  obtain ⟨rest, rfl⟩ := h
  exact List.take_append_of_le_length hn

theorem Confined.mono {r r' : Progress σ × Except ScanProblem α} (h : Confined n held r r')
    (hheld : ∀ store, held store → held' store) : Confined n held' r r' where
  fits := h.fits
  cut := fun hn =>
    have ⟨hresult, htaken, hexchanges, hstore⟩ := h.cut hn
    ⟨hresult, htaken, hexchanges, hheld _ hstore⟩

end Confined

namespace Setup

variable {σ : Type} {u : Setup σ} {n : Nat} {p : Progress σ}

/-! ## Pages -/

/-- Nothing that was written is taken back, and a sink without bounds stays without. -/
theorem scanPages_grows (w : Window) (left page : Nat) (hroom : p.sink.room = none) :
    (u.scanPages w left page p).1.sink.room = none ∧
      p.sink.taken <+: (u.scanPages w left page p).1.sink.taken := by
  cases left with
  | zero => exact ⟨hroom, List.prefix_refl _⟩
  | succ left =>
      rcases scanPages_cases (u.answered_any w) left.succ_pos page p with
        ⟨p', xs, ending, hp, hs⟩ | ⟨p', xs, problem, hp, hb⟩
      · have hsink := hs.sink
        rw [Sink.write_unlimited hroom, Prod.mk.injEq] at hsink
        rw [hp, ← hsink.1]
        exact ⟨hroom, List.prefix_append _ _⟩
      · rw [hp, hb.sink, Sink.write_unlimited hroom]
        exact ⟨hroom, List.prefix_append _ _⟩

/-- Without bounds the lines of a page are written. -/
theorem received_sink (w : Window) (page : Nat) (e : Envelope) (hroom : p.sink.room = none) :
    (u.received w page e (u.askedFor w page p)).sink
      = { p.sink with taken := p.sink.taken ++ u.config.bytes [e] } :=
  congrArg Prod.fst (Sink.write_unlimited hroom _)

/-- What a page writes stays, whatever comes after it. -/
theorem received_grows (w : Window) (left page : Nat) (hroom : p.sink.room = none) {e : Envelope}
    (h : (u.courseOf w page p).last.envelope? = some e) :
    p.sink.taken ++ u.config.bytes [e] <+: (u.scanPages w (left + 1) page p).1.sink.taken := by
  have hwritten := received_sink (u := u) w page e hroom
  have htaken : (u.received w page e (u.askedFor w page p)).sink.taken
      = p.sink.taken ++ u.config.bytes [e] := congrArg Sink.taken hwritten
  rw [scanPages_received left h (by rw [Sink.write_unlimited hroom]), ← htaken]
  cases e.ending? u.template.pageSize with
  | some ending => exact List.prefix_refl _
  | none =>
      simp only
      split
      · exact List.prefix_refl _
      · exact (scanPages_grows (p := (u.received w page e (u.askedFor w page p)).count _) w left
          (page + 1) ((congrArg Sink.room hwritten).trans hroom)).2

/-- **A page whose lines do not fit** is cut, and ends the scan. -/
theorem scanPages_overflow (w : Window) (left page : Nat) (hroom : p.sink.room = none)
    (hn : p.sink.taken.length ≤ n) {e : Envelope}
    (h : (u.courseOf w page p).last.envelope? = some e)
    (hcut : n < (p.sink.taken ++ u.config.bytes [e]).length) :
    Confined n (· = p.store) (u.scanPages w (left + 1) page p)
      (u.scanPages w (left + 1) page (p.confined n)) := by
  obtain ⟨s, hs, htaken⟩ := Sink.write_confined_full hn hcut
  obtain ⟨p', hp', hs', hx, hst⟩ := scanPages_refused (p := p.confined n) left h hs
  have hgrown := received_grows w left page hroom h
  have hlength := hgrown.length_le
  refine ⟨fun hfits => by omega, fun _ => ?_⟩
  rw [hp']
  refine ⟨rfl, ?_, ?_, hst⟩
  · rw [hs', htaken, take_of_isPrefix hgrown (Nat.le_of_lt hcut)]
  · show p'.exchanges <+: _
    rw [hx]
    exact (scanPages_keeps w (left + 1) page p).2 left.succ_pos

/-- **The scan of a window** with room for some bytes, beside the same scan without bounds. -/
theorem scanPages_confined (w : Window) (left page : Nat) (hroom : p.sink.room = none)
    (hn : p.sink.taken.length ≤ n) :
    Confined n (· = p.store) (u.scanPages w left page p)
      (u.scanPages w left page (p.confined n)) := by
  induction left generalizing page p with
  | zero => exact confined_of_fits hn _
  | succ left ih =>
      cases hr : (u.courseOf w page p).last.reading with
      | error problem =>
          have hr' : (u.courseOf w page (p.confined n)).last.reading = .error problem := hr
          rw [scanPages_of_error left hr, scanPages_of_error left hr']
          exact confined_of_fits (p := u.askedFor w page p) hn _
      | ok e =>
          have h := Attempt.reading_eq_ok.mp hr
          by_cases hfits : (p.sink.taken ++ u.config.bytes [e]).length ≤ n
          · -- the page fits, and the two scans go on from progresses that differ in the room
            have hw := Sink.write_confined hroom hfits
            have hreceived : u.received w page e (u.askedFor w page (p.confined n))
                = (u.received w page e (u.askedFor w page p)).confined n :=
              congrArg (fun s => { u.received w page e (u.askedFor w page p) with sink := s })
                (congrArg Prod.fst hw)
            have hwritten := received_sink (u := u) w page e hroom
            have htaken : (u.received w page e (u.askedFor w page p)).sink.taken.length ≤ n := by
              rw [hwritten]
              exact hfits
            rw [scanPages_received left h (by rw [Sink.write_unlimited hroom]),
              scanPages_received (p := p.confined n) left h (congrArg Prod.snd hw), hreceived]
            cases e.ending? u.template.pageSize with
            | some ending => exact confined_of_fits htaken _
            | none =>
                simp only
                by_cases hleft : left = 0
                · simp only [if_pos hleft]
                  exact confined_of_fits (p := ((u.received w page e (u.askedFor w page p)).say
                    _).count _) htaken _
                · simp only [if_neg hleft]
                  exact ih (page + 1) (p := (u.received w page e (u.askedFor w page p)).count _)
                    ((congrArg Sink.room hwritten).trans hroom) htaken
          · exact scanPages_overflow w left page hroom hn h (Nat.lt_of_not_le hfits)

/-! ## Windows -/

theorem scanWindow_grows (w : Window) (free : Bool) (hroom : p.sink.room = none) :
    (u.scanWindow w free p).1.sink.room = none ∧
      p.sink.taken <+: (u.scanWindow w free p).1.sink.taken := by
  obtain ⟨hsame, -⟩ := scanWindow_pages (u := u) w free p
  rw [hsame.taken, hsame.room]
  exact scanPages_grows w _ 1 hroom

theorem scanWindows_grows (left first : Nat) (free : Bool) (hroom : p.sink.room = none) :
    p.sink.taken <+: (u.scanWindows left first free p).1.sink.taken ∧
      (0 < left →
        (u.scanWindow (Window.starting u.config.blockRange.toNat first) free p).1.sink.taken
          <+: (u.scanWindows left first free p).1.sink.taken) := by
  induction left generalizing first free p with
  | zero => exact ⟨List.prefix_refl _, fun h => absurd h (Nat.lt_irrefl 0)⟩
  | succ left ih =>
      have hwindow := scanWindow_grows (u := u)
        (Window.starting u.config.blockRange.toNat first) free hroom
      rw [scanWindows_succ]
      cases hq : u.scanWindow (Window.starting u.config.blockRange.toNat first) free p with
      | mk q result =>
          rw [hq] at hwindow
          cases result with
          | error problem => exact ⟨hwindow.2, fun _ => List.prefix_refl _⟩
          | ok free' =>
              have hrest := (ih (first + max u.config.blockRange.toNat 1) free' hwindow.1).1
              exact ⟨hwindow.2.trans hrest, fun _ => hrest⟩

/-- A flush does not depend on the room of the sink. -/
theorem flush_confined (q : Progress σ) :
    (q.confined n).flush = (q.flush.1.confined n, q.flush.2) := by
  unfold Progress.flush Progress.confined Sink.confined Sink.flush
  by_cases h : q.sink.failingFlush = some q.sink.flushes <;> simp [h]

theorem settle_confined (w : Window) (windowEnd : WindowEnd) (free : Bool) (q : Progress σ) :
    u.settle w windowEnd free (q.confined n)
      = ((u.settle w windowEnd free q).1.confined n, (u.settle w windowEnd free q).2) := by
  cases windowEnd <;> cases free <;> rfl

theorem scanWindow_confined (w : Window) (free : Bool) (hroom : p.sink.room = none)
    (hn : p.sink.taken.length ≤ n) :
    Confined n (· = p.store) (u.scanWindow w free p) (u.scanWindow w free (p.confined n)) := by
  have hpages := scanPages_confined (u := u) w u.template.maxPages 1 hroom hn
  obtain ⟨hsame, -⟩ := scanWindow_pages (u := u) w free p
  constructor
  · intro hfits
    rw [hsame.taken] at hfits
    unfold scanWindow
    rw [hpages.fits hfits]
    obtain ⟨q, problem | windowEnd⟩ := u.scanPages w u.template.maxPages 1 p
    · rfl
    · simp only
      have hcounted : (q.confined n).count (fun r => { r with ranges := r.ranges + 1 })
          = (q.count fun r => { r with ranges := r.ranges + 1 }).confined n := rfl
      rw [hcounted, flush_confined]
      obtain ⟨q', problem | _⟩ := (q.count fun r => { r with ranges := r.ranges + 1 }).flush
      · rfl
      · exact settle_confined w windowEnd free q'
  · intro hcut
    rw [hsame.taken] at hcut ⊢
    rw [hsame.exchanges]
    obtain ⟨hresult, hcut⟩ := hpages.cut hcut
    cases hp' : u.scanPages w u.template.maxPages 1 (p.confined n) with
    | mk p' result =>
        rw [hp'] at hresult hcut
        obtain rfl : result = .error (.output .full) := hresult
        unfold scanWindow
        rw [hp']
        exact ⟨rfl, hcut⟩

/-- **The scan of a row of windows** with room for some bytes, beside the same scan without
bounds. Where it is cut, the checkpoint stands where it stood when the scan without bounds began
the window in which the bytes do not fit any more. -/
theorem scanWindows_confined (left first : Nat) (free : Bool) (hroom : p.sink.room = none)
    (hn : p.sink.taken.length ≤ n) :
    Confined n
      (fun store => ∃ i w q, (Window.row u.config.blockRange.toNat left first)[i]? = some w ∧
        u.scanWindows i first free p = (q, .ok ()) ∧ q.sink.taken.length ≤ n ∧
        n < (u.scanPages w u.template.maxPages 1 q).1.sink.taken.length ∧
        q.sink.taken <+: (u.scanWindows left first free p).1.sink.taken ∧ store = q.store)
      (u.scanWindows left first free p) (u.scanWindows left first free (p.confined n)) := by
  induction left generalizing first free p with
  | zero => exact confined_of_fits hn _
  | succ left ih =>
      have hwindow := scanWindow_confined (u := u)
        (Window.starting u.config.blockRange.toNat first) free hroom hn
      by_cases hfits : (u.scanWindow (Window.starting u.config.blockRange.toNat first) free
          p).1.sink.taken.length ≤ n
      · -- the first window fits, and the others are scanned from progresses that differ in the room
        have hgrows := scanWindow_grows (u := u)
          (Window.starting u.config.blockRange.toNat first) free hroom
        rw [scanWindows_succ, scanWindows_succ, hwindow.fits hfits]
        cases hq : u.scanWindow (Window.starting u.config.blockRange.toNat first) free p with
        | mk q result =>
            rw [hq] at hfits hgrows
            cases result with
            | error problem => exact confined_of_fits hfits _
            | ok free' =>
                refine (ih _ free' hgrows.1 hfits).mono ?_
                rintro store ⟨i, w, q', hw, hq', hheld⟩
                refine ⟨i + 1, w, q', hw, ?_, hheld⟩
                rw [scanWindows_succ, hq]
                exact hq'
      · have hcut := Nat.lt_of_not_le hfits
        have hgrown := (scanWindows_grows (u := u) (left + 1) first free hroom).2 left.succ_pos
        have hprefix := (scanWindows_keeps (u := u) (left + 1) first free p).2 left.succ_pos
        have hlength := hgrown.length_le
        obtain ⟨hresult, htaken, hexchanges, hstore⟩ := hwindow.cut hcut
        refine ⟨fun h => by omega, fun _ => ?_⟩
        rw [scanWindows_succ (p := p.confined n)]
        cases hp' : u.scanWindow (Window.starting u.config.blockRange.toNat first) free
            (p.confined n) with
        | mk p' result =>
            rw [hp'] at hresult htaken hexchanges hstore
            obtain rfl : result = .error (.output .full) := hresult
            refine ⟨rfl, ?_, hexchanges.trans hprefix, 0, _, p, rfl, rfl, hn, ?_,
              (scanWindows_grows (left + 1) first free hroom).1, hstore⟩
            · rw [htaken, take_of_isPrefix hgrown (Nat.le_of_lt hcut)]
            · rw [← (scanWindow_pages _ free p).1.taken]
              exact hcut

/-- What comes of a scan when its windows have been gone through does not depend on the room. -/
theorem close_confined (r : Progress σ × Except ScanProblem Unit) :
    close (r.1.confined n, r.2) = ((close r).1.confined n, (close r).2) := by
  obtain ⟨q, problem | _⟩ := r <;> rfl

/-- After some windows the checkpoint was moved past some of them, if it has moved at all. -/
theorem scanWindows_marked (hsize : u.template.pageSize = u.config.pageSize.toNat)
    (hmax : 0 < u.template.maxPages) (left first : Nat) (free : Bool) (p : Progress σ) :
    ∃ k ≤ left, (u.scanWindows left first free p).1.store
      = if free then
          p.store.map (u.config.marked ((Window.row u.config.blockRange.toNat left first).take k))
        else p.store := by
  have hswept := scanWindows_swept hmax u.answered_any left first free p
  obtain ⟨xs, k, -, -, hk, hstore⟩ := hswept.unbroken hsize (Window.row_nodup _ _ _)
  have hle := Config.Unbroken.le_length hk.1
  rw [Window.row_length] at hle
  exact ⟨k, hle, hstore⟩

end Setup

/-! ## Whole scans -/

/-- **A full sink only cuts a scan short.** Let `o` be what a scan writes into a sink without
bounds. If a sink has room for it, nothing is different but the room. If it has room for `n`
bytes only, the scan ends because the sink refuses, the sink holds the first `n` bytes of `o`,
and the requests are the first of those that were made without bounds. There is then one window
in which the bytes do not fit any more; the store is the one that the scan without bounds had
when it began this window, so the checkpoint was moved past windows before it only, and all that
had been written by then is in the sink. -/
theorem scan_confined {σ : Type} (c : Config) (explorer : Explorer σ) (s : σ)
    (failingFlush : Option Nat) (n : Nat) (store : Option Checkpoint.Store) :
    let r := scan c explorer (Progress.start s (Sink.empty none failingFlush) store)
    let r' := scan c explorer (Progress.start s (Sink.empty (some n) failingFlush) store)
    let u := Setup.ofConfig c explorer
    let o := r.1.sink.taken
    (o.length ≤ n →
        r'.2 = r.2 ∧
          r'.1 = { r.1 with sink := { r.1.sink with room := some (n - o.length) } }) ∧
      (n < o.length →
        r'.2 = .error (.output .full) ∧ r'.1.sink.taken = o.take n ∧
          r'.1.exchanges <+: r.1.exchanges ∧ r'.1.targets c <+: r.1.targets c ∧
          ∃ i w q, (c.windows store)[i]? = some w ∧
            u.scanWindows i (c.firstBlock store) store.isSome
              (c.opened s (Sink.empty none failingFlush) store) = (q, .ok ()) ∧
            q.sink.taken.length ≤ n ∧
            n < (u.scanPages w c.maxPages 1 q).1.sink.taken.length ∧
            r'.1.store = q.store ∧ q.sink.taken <+: r'.1.sink.taken ∧
            ∃ k ≤ i, r'.1.store = store.map (c.marked ((c.windows store).take k))) := by
  intro r r' u o
  by_cases hopened : c.problem? = none ∧ c.Readable store
  · obtain ⟨hc, hread⟩ := hopened
    have hfits := Config.fits_of_problem? hc
    have hrun := Setup.scanWindows_confined (u := u) (n := n)
      (p := c.opened s (Sink.empty none failingFlush) store) (c.windowCount store)
      (c.firstBlock store) store.isSome rfl (Nat.zero_le n)
    have hr : r = Setup.close _ := scan_eq hc explorer hread s (Sink.empty none failingFlush)
    have hr' : r' = Setup.close (u.scanWindows (c.windowCount store) (c.firstBlock store)
        store.isSome ((c.opened s (Sink.empty none failingFlush) store).confined n)) :=
      scan_eq hc explorer hread s (Sink.empty (some n) failingFlush)
    have ho : o = (u.scanWindows (c.windowCount store) (c.firstBlock store) store.isSome
        (c.opened s (Sink.empty none failingFlush) store)).1.sink.taken := by
      show r.1.sink.taken = _
      rw [hr, Setup.close_sink]
    constructor
    · intro hle
      rw [ho] at hle
      have hsame : r' = (r.1.confined n, r.2) := by
        rw [hr', hrun.fits hle, Setup.close_confined, hr]
      rw [hsame]
      exact ⟨rfl, rfl⟩
    · intro hcut
      rw [ho] at hcut
      obtain ⟨hresult, htaken, hexchanges, i, w, q, hw, hq, hle, hlt, hgrown, hstore⟩ :=
        hrun.cut hcut
      have htaken' : r'.1.sink.taken = o.take n := by
        rw [hr', Setup.close_sink, htaken, ho]
      have hexchanges' : r'.1.exchanges <+: r.1.exchanges := by
        rw [hr', hr, Setup.close_exchanges, Setup.close_exchanges]
        exact hexchanges
      have hstore' : r'.1.store = q.store := by
        rw [hr', Setup.close_store, hstore]
      have hi : i < c.windowCount store := by
        have hlt := (List.getElem?_eq_some_iff.mp hw).1
        rwa [Window.row_length] at hlt
      obtain ⟨k, hk, hmarked⟩ := Setup.scanWindows_marked (u := u) rfl hfits.maxPages_pos i
        (c.firstBlock store) store.isSome (c.opened s (Sink.empty none failingFlush) store)
      refine ⟨?_, htaken', hexchanges', ?_, i, w, q, hw, hq, hle, hlt, hstore', ?_, k, hk, ?_⟩
      · rw [hr']
        exact Setup.close_of_error hresult
      · exact (hexchanges'.filter _).filterMap _
      · rw [htaken', ho, List.prefix_take_iff]
        exact ⟨hgrown, hle⟩
      · rw [hq] at hmarked
        rw [hstore', hmarked]
        have hrow : Window.row c.blockRange.toNat i (c.firstBlock store)
            = (c.windows store).take i := (Window.row_take (Nat.le_of_lt hi)).symm
        show (if store.isSome then store.map (c.marked
          ((Window.row c.blockRange.toNat i (c.firstBlock store)).take k)) else store) = _
        rw [hrow, List.take_take, Nat.min_eq_left hk]
        cases store <;> rfl
  · obtain ⟨problem, hproblem⟩ := scan_unopened explorer hopened
    have hr : r = (Progress.start s (Sink.empty none failingFlush) store, .error problem) :=
      hproblem _ _
    have hr' : r' = (Progress.start s (Sink.empty (some n) failingFlush) store, .error problem) :=
      hproblem _ _
    have ho : o = [] := by
      show r.1.sink.taken = []
      rw [hr]
      rfl
    rw [ho, hr, hr']
    exact ⟨fun _ => ⟨rfl, rfl⟩, fun h => absurd h (Nat.not_lt_zero n)⟩

/-- Two windows with one deposit each, and a sink that is full in the middle of the second line. -/
theorem scan_confined_second_line :
    let c : Config := { Config.default [] with fromBlock := 0, toBlock := 20, blockRange := 10 }
    let log : Text := "\x7b\"topics\":[\"".toList ++ c.eventTopic.toText
      ++ "\"],\"blockNumber\":\"0x1\",\"data\":\"0x".toList ++ List.replicate 320 '0'
      ++ "\"\x7d".toList
    let body : Text := "\x7b\"status\":\"1\",\"message\":\"OK\",\"result\":[".toList ++ log
      ++ "]\x7d".toList
    let explorer : Explorer Unit := fun s _ => (.ok body, s)
    let r := scan c explorer (Progress.start () (Sink.empty none none) (some []))
    let r' := scan c explorer (Progress.start () (Sink.empty (some 20) none) (some []))
    let o := r.1.sink.taken
    20 < o.length ∧ r'.2 = .error (.output .full) ∧ r'.1.sink.taken = o.take 20 ∧
      r'.1.targets c <+: r.1.targets c ∧
      r'.1.store.map (List.map Checkpoint.Row.next) = some [.whole 10] := by
  intro c log body explorer r r' o
  have hcut : 20 < o.length := by decide +kernel
  have hrow : r'.1.store.map (List.map Checkpoint.Row.next) = some [.whole 10] := by
    decide +kernel
  -- from here on nothing depends on what the scan is like
  clear_value c explorer
  obtain ⟨hresult, htaken, -, htargets, -⟩ :=
    (scan_confined c explorer () none 20 (some [])).2 hcut
  exact ⟨hcut, hresult, htaken, htargets, hrow⟩

end DepositTrail
