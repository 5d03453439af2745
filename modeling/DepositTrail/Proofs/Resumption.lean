import DepositTrail.Proofs.CheckpointAdvance
import DepositTrail.Proofs.IdealExplorer
import DepositTrail.Proofs.ScansOverStores
import DepositTrail.Proofs.SteadyExplorers

set_option autoImplicit false

/-! # Failed scans resumed

A scan that has ended early may be begun again with the store that it has left behind. Between
them the two write all that one scan would have written that had not failed, and in the same
order, except that the second one writes some windows again of which the first one had already
written lines (`scan_resumed`).

The windows of the second scan are what is left of the windows of the first, because a
checkpoint that was moved stands at the first block of a window
(`Config.windows_marked_of_lowered`). This takes that the row in which the checkpoint is found is
the one that is moved. A row that was put into the table with capitals in its key is found but
stays as it is, and the second scan begins where the first one began
(`Config.windows_marked_of_not_lowered`).
-/

namespace DepositTrail

/-! ## Windows after a moved checkpoint -/

namespace Config

variable {c : Config}

/-- **A scan from a moved checkpoint** has the windows after those that the checkpoint was moved
past. -/
theorem windows_marked_of_lowered (hc : c.problem? = none) {store : Checkpoint.Store}
    (hs : c.Lowered store) (hw : ∀ w ∈ c.windows (some store), w.stop < 2 ^ 63) {k : Nat}
    (hk : k ≤ (c.windows (some store)).length) :
    c.windows (some (c.marked ((c.windows (some store)).take k) store))
      = (c.windows (some store)).drop k := by
  rcases Nat.eq_zero_or_pos k with rfl | hpos
  · rfl
  · have hfits := Config.fits_of_problem? hc
    have hlt : k - 1 < (c.windows (some store)).length := by omega
    have hget : (c.windows (some store))[k - 1]?
        = some (Window.starting c.blockRange.toNat
            (c.firstBlock (some store) + (k - 1) * c.blockRange.toNat)) := by
      have hrow : (c.windows (some store))[k - 1] = Window.starting c.blockRange.toNat
          (c.firstBlock (some store) + (k - 1) * max c.blockRange.toNat 1) :=
        Window.row_getElem hlt
      rw [List.getElem?_eq_getElem hlt, hrow, hfits.max_blockRange]
    have hstop := hw _ (List.mem_of_getElem? hget)
    have hend : (Window.starting c.blockRange.toNat
        (c.firstBlock (some store) + (k - 1) * c.blockRange.toNat)).stop
          = c.firstBlock (some store) + k * c.blockRange.toNat := by
      have hmul : k * c.blockRange.toNat
          = (k - 1) * c.blockRange.toNat + c.blockRange.toNat := by
        calc k * c.blockRange.toNat = (k - 1 + 1) * c.blockRange.toNat := by
              rw [Nat.sub_add_cancel hpos]
          _ = (k - 1) * c.blockRange.toNat + c.blockRange.toNat := by
              rw [Nat.add_mul, Nat.one_mul]
      rw [Window.starting_stop (Nat.lt_trans hstop (by decide)), hmul, Nat.add_assoc]
    -- the checkpoint stands where window `k` begins, which is not before the first block
    have hcursor : c.cursor? (c.marked ((c.windows (some store)).take k) store)
        = some (c.firstBlock (some store) + k * c.blockRange.toNat) := by
      rw [marked_take c hpos hget, c.cursor?_mark_of_lowered hs
        (Window.stop_le_of_mem_row (List.mem_of_getElem? hget)), if_pos hstop, hend]
    have hfrom := c.fromBlock_le_firstBlock (some store)
    have hfirst : c.firstBlock (some (c.marked ((c.windows (some store)).take k) store))
        = c.firstBlock (some store) + k * max c.blockRange.toNat 1 := by
      rw [hfits.max_blockRange]
      exact firstBlock_of_cursor? hcursor (by omega)
    rw [windows, hfirst, Window.partition_drop]
    rfl

/-- Where another row is found than the one that is moved, a scan begins where the first began. -/
theorem windows_marked_of_not_lowered {store : Checkpoint.Store} (hs : ¬ c.Lowered store)
    (ws : List Window) :
    c.windows (some (c.marked ws store)) = c.windows (some store) := by
  rw [windows, firstBlock_congr (c.cursor?_marked_of_not_lowered hs ws)]
  rfl

/-- **Where a scan goes on** after the checkpoint was moved past the first `k` windows: behind
them, or at the first one again, by the row that is found. -/
theorem exists_windows_marked (hc : c.problem? = none) {store : Checkpoint.Store}
    (hw : ∀ w ∈ c.windows (some store), w.stop < 2 ^ 63) {k : Nat}
    (hk : k ≤ (c.windows (some store)).length) :
    ∃ i ≤ k, (c.Lowered store → i = k) ∧ (¬ c.Lowered store → i = 0) ∧
      c.windows (some (c.marked ((c.windows (some store)).take k) store))
        = (c.windows (some store)).drop i := by
  by_cases hs : c.Lowered store
  · exact ⟨k, Nat.le_refl k, fun _ => rfl, fun h => absurd hs h,
      windows_marked_of_lowered hc hs hw hk⟩
  · exact ⟨0, Nat.zero_le k, fun h => absurd h hs, fun _ => rfl,
      windows_marked_of_not_lowered hs _⟩

end Config

/-- The windows with a property at the front of the first `j` are the first `i`, and the one
after them has not the property, unless they are all `j`. -/
theorem takeWhile_take_eq (d : Window → Bool) (ws : List Window) (j : Nat) :
    ∃ i, i ≤ j ∧ i ≤ ws.length ∧ (ws.take j).takeWhile d = ws.take i ∧
      (∀ w ∈ ws.take i, d w = true) ∧ ∀ w, i < j → ws[i]? = some w → d w = false := by
  induction j generalizing ws with
  | zero => exact ⟨0, Nat.le_refl 0, Nat.zero_le _, by simp, by simp, by simp⟩
  | succ j ih =>
      cases ws with
      | nil => exact ⟨0, Nat.zero_le _, Nat.le_refl 0, by simp, by simp, by simp⟩
      | cons w ws =>
          by_cases hd : d w = true
          · obtain ⟨i, hij, hilen, htake, hall, hnext⟩ := ih ws
            refine ⟨i + 1, by omega, by simpa using hilen, ?_, ?_, ?_⟩
            · rw [List.take_succ_cons, List.takeWhile_cons, if_pos hd, htake, List.take_succ_cons]
            · intro w' hw'
              rw [List.take_succ_cons] at hw'
              rcases List.mem_cons.mp hw' with rfl | hw'
              · exact hd
              · exact hall w' hw'
            · intro w' hlt hw'
              exact hnext w' (by omega) (by simpa using hw')
          · refine ⟨0, Nat.zero_le _, Nat.zero_le _, ?_, by simp, ?_⟩
            · rw [List.take_succ_cons, List.takeWhile_cons, if_neg hd, List.take_zero]
            · intro w' _ hw'
              obtain rfl : w = w' := by simpa using hw'
              exact Bool.eq_false_iff.mpr hd

/-- A beginning of a row of windows, in two parts: what the first `i` windows write, and a
beginning of what the windows from `i` to `j` write. -/
theorem flatMap_take_append (writes : Window → List UInt8) {ws : List Window} {i j : Nat}
    {w : Window} {t : List UInt8} (hij : i ≤ j) (hj : ws[j]? = some w) (ht : t <+: writes w) :
    ∃ d, d <+: ((ws.drop i).take (j + 1 - i)).flatMap writes ∧
      (ws.take j).flatMap writes ++ t = (ws.take i).flatMap writes ++ d := by
  have hlast : (ws.drop i)[j - i]? = some w := by
    rw [List.getElem?_drop, Nat.add_sub_cancel' hij]
    exact hj
  have hrow : (ws.drop i).take (j + 1 - i) = (ws.take j).drop i ++ [w] := by
    rw [show j + 1 - i = j - i + 1 by omega, List.take_add_one, hlast, List.drop_take]
    rfl
  have hfront : (ws.take j).flatMap writes
      = (ws.take i).flatMap writes ++ ((ws.take j).drop i).flatMap writes := by
    calc (ws.take j).flatMap writes
        = ((ws.take j).take i ++ (ws.take j).drop i).flatMap writes := by
          rw [List.take_append_drop]
      _ = (ws.take i).flatMap writes ++ ((ws.take j).drop i).flatMap writes := by
          rw [List.flatMap_append, List.take_take, Nat.min_eq_left hij]
  refine ⟨((ws.take j).drop i).flatMap writes ++ t, ?_, ?_⟩
  · rw [hrow, List.flatMap_append, List.flatMap_singleton]
    exact (List.prefix_append_right_inj _).mpr ht
  · rw [hfront, List.append_assoc]

/-! ## Three scans -/

/-- An explorer fails at times, but answers, when it does, as a function says. -/
def Explorer.AtTimes {σ : Type} (explorer : Explorer σ) (f : PageRequest → Attempt) : Prop :=
  ∀ s r, (explorer s r).1 = f r ∨ (explorer s r).1.envelope? = none

/-- What such an explorer answers is what the steady one answers. -/
theorem Explorer.AtTimes.answered {σ : Type} {explorer : Explorer σ} {f : PageRequest → Attempt}
    (h : explorer.AtTimes f) (c : Config) (w : Window) :
    (Setup.ofConfig c explorer).Answered w
      ((Setup.ofConfig c (Explorer.answering f)).tells w) := by
  intro page s e he
  unfold Setup.tells
  have hclient : ∀ {τ : Type} (x : Explorer τ), (Setup.ofConfig c x).client = Client.ofConfig c :=
    fun _ => rfl
  have htemplate : ∀ {τ : Type} (x : Explorer τ),
      (Setup.ofConfig c x).template = PageTemplate.ofConfig c := fun _ => rfl
  rw [hclient, htemplate] at he ⊢
  unfold Client.send at he ⊢
  cases hend : (Client.ofConfig c).endpoint with
  | none =>
      rw [hend] at he
      cases he
  | some endpoint =>
      rw [hend] at he
      rcases h s ((PageTemplate.ofConfig c).request w page) with hsame | hnone
      · show (f ((PageTemplate.ofConfig c).request w page)).envelope? = some e
        rw [← hsame]
        exact he
      · have hnone' : some e = none := he.symm.trans hnone
        cases hnone'

section Scans

variable {c : Config} {store : Checkpoint.Store} {f : PageRequest → Attempt}

/-- A scan of a steady explorer that comes to its end shows what each window writes, and has
written it. -/
theorem scan_steady_ok {sink : Sink} {report : Report}
    (h : (scan c (Explorer.answering f) (Progress.start () sink (some store))).2 = .ok report) :
    let u := Setup.ofConfig c (Explorer.answering f)
    let p := (scan c (Explorer.answering f) (Progress.start () sink (some store))).1
    let ws := c.windows (some store)
    u.Foretold u.tells u.writes u.exhausts ws ∧
      p.sink.taken = sink.taken ++ ws.flatMap u.writes ∧
      p.store = some (c.marked (ws.takeWhile u.exhausts) store) ∧
      report.ranges = ws.length ∧
      ∀ w, w ∈ ws ↔ ∃ x ∈ p.exchanges, x.isAbout w = true := by
  intro u p ws
  have hc := problem?_of_scan_ok h
  have hmax : 0 < u.template.maxPages := (Config.fits_of_problem? hc).maxPages_pos
  obtain ⟨j, j', p', result, hswept, hscan⟩ := scan_swept hc
    (Setup.answered_tells (u := u)) (readable_of_scan_ok h) () sink
  have hp : p = { p' with journal := j' } := congrArg Prod.fst hscan
  rw [hscan] at h
  cases result with
  | error problem => cases h
  | ok _ =>
      have hreport : p'.report = report := Except.ok.inj h
      obtain ⟨hranges, xs, hxs, hpages⟩ := hswept.pages rfl
      obtain ⟨ys, hys, habout⟩ := hswept.exchanges
      have hforetold : u.Foretold u.tells u.writes u.exhausts ws := by
        intro w hw
        obtain ⟨⟨es, ending, hes⟩, -⟩ := hpages w hw
        exact ⟨es, ending, hes, Setup.alone_of_pages hmax hes⟩
      have hreached := (hswept.reached Setup.tells_unique hforetold).1 rfl
      have htaken := hreached.taken
      have hstore := hreached.store
      rw [List.take_length, List.append_nil] at htaken
      rw [List.take_length] at hstore
      rw [hp]
      refine ⟨hforetold, htaken, hstore, ?_, fun w => ?_⟩
      · rw [← hreport, hranges]
        exact Nat.zero_add _
      · constructor
        · intro hw
          obtain ⟨-, x, hx, hxw⟩ := hpages w hw
          exact ⟨x, hxs ▸ List.mem_append_right _ hx, hxw⟩
        · rintro ⟨x, hx, hxw⟩
          have hmem : x ∈ ys := by
            have hall : p'.exchanges = ys := hys
            rw [← hall]
            exact hx
          obtain ⟨w', hw', hxw'⟩ := habout x hmem
          exact Exchange.isAbout_unique hxw hxw' ▸ hw'

/-- A scan of a steady explorer into a healthy sink comes to its end where it is foretold what
its windows do. It scans and writes all of them. -/
theorem scan_steady_healthy (hc : c.problem? = none) (hr : c.Readable (some store))
    {writes : Window → List UInt8} {exhausts : Window → Bool}
    (hws : (Setup.ofConfig c (Explorer.answering f)).Foretold
      (Setup.ofConfig c (Explorer.answering f)).tells writes exhausts (c.windows (some store))) :
    let u := Setup.ofConfig c (Explorer.answering f)
    let ws := c.windows (some store)
    let r := scan c (Explorer.answering f) (Progress.start () Sink.unlimited (some store))
    ∃ report, r.2 = .ok report ∧ report.ranges = ws.length ∧
      r.1.sink.taken = ws.flatMap u.writes ∧
      r.1.store = some (c.marked (ws.takeWhile u.exhausts) store) ∧
      ∀ w, w ∈ ws ↔ ∃ x ∈ r.1.exchanges, x.isAbout w = true := by
  intro u ws r
  obtain ⟨j, j', p', result, hswept, hscan⟩ := scan_swept hc
    (Setup.answered_tells (u := u)) hr () Sink.unlimited
  have hok : result = .ok () := by
    refine hswept.ok (fun w hw => ?_) Sink.healthy_unlimited
    obtain ⟨es, ending, hes, -⟩ := hws w hw
    exact Setup.serves_of_pages hes
  have hr : r.2 = .ok p'.report := by
    show (scan c (Explorer.answering f) (Progress.start () Sink.unlimited (some store))).2 = _
    rw [hscan, hok]
    rfl
  obtain ⟨-, htaken, hstore, hranges, habout⟩ := scan_steady_ok hr
  exact ⟨p'.report, hr, hranges, htaken, hstore, habout⟩

/-- A scan that fails has written what the windows before the one in which it stops write, and a
beginning of what this one writes; and the checkpoint stands behind the windows at the front
of those that were completed. -/
theorem scan_failed {σ : Type} (hc : c.problem? = none) (hr : c.Readable (some store))
    {explorer : Explorer σ} (hx : explorer.AtTimes f) {s : σ} {sink : Sink}
    {problem : ScanProblem}
    (h : (scan c explorer (Progress.start s sink (some store))).2 = .error problem)
    {writes : Window → List UInt8} {exhausts : Window → Bool}
    (hws : (Setup.ofConfig c (Explorer.answering f)).Foretold
      (Setup.ofConfig c (Explorer.answering f)).tells writes exhausts (c.windows (some store))) :
    let p := (scan c explorer (Progress.start s sink (some store))).1
    let ws := c.windows (some store)
    ∃ j w t, ws[j]? = some w ∧ t <+: writes w ∧
      (∃ x, p.exchanges.getLast? = some x ∧ x.isAbout w = true) ∧
      p.sink.taken = sink.taken ++ ((ws.take j).flatMap writes ++ t) ∧
      p.store = some (c.marked ((ws.take j).takeWhile exhausts) store) ∧
      ∀ i w', i < j → ws[i]? = some w' →
        (c.Completed p.exchanges w' ↔ exhausts w' = true) := by
  intro p ws
  obtain ⟨j₀, j', p', result, hswept, hscan⟩ := scan_swept hc (hx.answered c) hr s sink
  have hp : p = { p' with journal := j' } := congrArg Prod.fst hscan
  rw [hscan] at h
  cases result with
  | ok _ => cases h
  | error problem' =>
      obtain ⟨j, w, t, hw, ht, hlast, hreached⟩ :=
        (hswept.reached Setup.tells_unique hws).2 problem' rfl
      obtain ⟨xs, hxs, -, hcompleted⟩ :=
        hswept.completed_iff rfl Setup.tells_unique (Window.partition_nodup _ _ _) hws
      have hexchanges : p'.exchanges = xs := hxs
      rw [hp]
      refine ⟨j, w, t, hw, ht, hlast, hreached.taken, hreached.store, fun i w' hij hw' => ?_⟩
      simp only [hexchanges]
      exact hcompleted i w' hw' ((hreached.flushed i).mpr hij)

end Scans

/-- **Where another row is found than the one that is moved**, a scan of the store that another
scan has left behind does what it would have done before that one. -/
theorem scan_again_of_not_lowered {σ τ : Type} {c : Config} (hc : c.problem? = none)
    {store : Checkpoint.Store} (hs : ¬ c.Lowered store) (explorer : Explorer σ) (s : σ)
    (sink : Sink) (explorer' : Explorer τ) (s' : τ) (sink' : Sink) :
    ∃ store', scan c explorer' (Progress.start s' sink'
        (scan c explorer (Progress.start s sink (some store))).1.store)
      = Progress.overStore store' (scan c explorer' (Progress.start s' sink' (some store))) := by
  obtain ⟨k, -, hstore⟩ := scan_store hc explorer s sink store
  obtain ⟨ws, hws⟩ := scan_overStore c explorer' s' sink' store
  rw [hstore]
  exact ⟨_, hws _ (c.load_marked_of_not_lowered hs _)⟩

/-- **A failed scan resumed gives what an uninterrupted scan gives.** `A` is a scan of a steady
explorer that comes to its end; `B` is one from the same store that fails, because the explorer
at times does not answer or the sink refuses; and `C` is one of the steady explorer, into a
healthy sink, from the store that `B` has left behind. With windows counted from zero, `B` stops
in window `j` and has written what the windows before it write, and a beginning of what window
`j` writes. `C` scans the windows from `i` on. Where the row that is found in the store is the one
that is moved, `i` is the first window before `j` that was not completed, or else `j`; otherwise
it is the first window. `C` writes what these windows write, and it leaves the same store as `A`.
So what `A` writes is what `C` writes behind a beginning of what `B` wrote, and what else `B` wrote
is a beginning of what the windows from `i` to `j` write. -/
theorem scan_resumed {σ : Type} (c : Config) (hc : c.problem? = none) (store : Checkpoint.Store)
    (hw : ∀ w ∈ c.windows (some store), w.stop < 2 ^ 63)
    (f : PageRequest → Attempt) (sinkA : Sink) (report : Report)
    (hA : (scan c (Explorer.answering f) (Progress.start () sinkA (some store))).2 = .ok report)
    (explorer : Explorer σ) (hx : explorer.AtTimes f) (s : σ) (sinkB : Sink)
    (problem : ScanProblem)
    (hB : (scan c explorer (Progress.start s sinkB (some store))).2 = .error problem) :
    let ws := c.windows (some store)
    let writes := (Setup.ofConfig c (Explorer.answering f)).writes
    let A := (scan c (Explorer.answering f) (Progress.start () sinkA (some store))).1
    let B := (scan c explorer (Progress.start s sinkB (some store))).1
    let C := scan c (Explorer.answering f) (Progress.start () Sink.unlimited B.store)
    ∃ i j w, i ≤ j ∧ ws[j]? = some w ∧
      A.sink.taken = sinkA.taken ++ ws.flatMap writes ∧
      (∃ x, B.exchanges.getLast? = some x ∧ x.isAbout w = true) ∧
      (∃ t, t <+: writes w ∧
        B.sink.taken = sinkB.taken ++ ((ws.take j).flatMap writes ++ t)) ∧
      (∀ w' ∈ ws.take i, c.Completed B.exchanges w') ∧
      (c.Lowered store → ∀ w', i < j → ws[i]? = some w' → ¬ c.Completed B.exchanges w') ∧
      (¬ c.Lowered store → i = 0) ∧
      c.windows B.store = ws.drop i ∧
      (∃ reportC, C.2 = .ok reportC ∧ reportC.ranges = ws.length - i) ∧
      (∀ w', w' ∈ ws.drop i ↔ ∃ x ∈ C.1.exchanges, x.isAbout w' = true) ∧
      C.1.sink.taken = (ws.drop i).flatMap writes ∧
      C.1.store = A.store ∧
      A.sink.taken = sinkA.taken ++ ((ws.take i).flatMap writes ++ C.1.sink.taken) ∧
      ∃ d, d <+: ((ws.drop i).take (j + 1 - i)).flatMap writes ∧
        B.sink.taken = sinkB.taken ++ ((ws.take i).flatMap writes ++ d) := by
  intro ws writes A B C
  let u := Setup.ofConfig c (Explorer.answering f)
  have hr : c.Readable (some store) := readable_of_scan_ok hA
  -- `A` shows what each window writes, and `B` does a part of it
  obtain ⟨hforetold, htakenA, hstoreA, -, -⟩ := scan_steady_ok hA
  obtain ⟨j, w, t, hj, ht, hlast, htakenB, hstoreB, hcompleted⟩ :=
    scan_failed hc hr hx hB hforetold
  obtain ⟨k, hkj, hklen, htake, hall, hnext⟩ := takeWhile_take_eq u.exhausts ws j
  rw [htake] at hstoreB
  -- `B` has moved the checkpoint past `k` windows, and `C` begins at window `i`
  obtain ⟨i, hik, hlow, hnotlow, hwindows⟩ := Config.exists_windows_marked hc hw hklen
  have hwindowsB : c.windows B.store = ws.drop i := by
    rw [hstoreB]
    exact hwindows
  have hforetoldC : u.Foretold u.tells u.writes u.exhausts
      (c.windows (some (c.marked (ws.take k) store))) := by
    rw [hwindows]
    exact fun w hw => hforetold w (List.mem_of_mem_drop hw)
  obtain ⟨reportC, hC, hrangesC, htakenC, hstoreC, haboutC⟩ :=
    scan_steady_healthy hc (c.readable_marked hr (ws.take k)) hforetoldC
  rw [hwindows] at hrangesC htakenC hstoreC haboutC
  rw [← hstoreB] at hC htakenC hstoreC haboutC
  rw [List.length_drop] at hrangesC
  have hsplit : ws.flatMap writes
      = (ws.take i).flatMap writes ++ (ws.drop i).flatMap writes := by
    rw [← List.flatMap_append, List.take_append_drop]
  have hsub : ∀ w' ∈ ws.take i, w' ∈ ws.take k := fun w' hw' =>
    (List.take_prefix_take_left hik).subset hw'
  refine ⟨i, j, w, by omega, hj, htakenA, hlast, ⟨t, ht, htakenB⟩, ?_, ?_, hnotlow, hwindowsB,
    ⟨reportC, hC, hrangesC⟩, haboutC, htakenC, ?_, ?_, ?_⟩
  · intro w' hw'
    obtain ⟨n, hn, hget⟩ := List.getElem_of_mem (hsub w' hw')
    rw [List.length_take] at hn
    have hn' : ws[n]? = some w' := by
      rw [← List.getElem?_take_of_lt (show n < k by omega)]
      exact List.getElem?_eq_some_iff.mpr ⟨_, hget⟩
    exact (hcompleted n w' (by omega) hn').mpr (hall w' (hsub w' hw'))
  · intro hs w' hlt hget hcomplete
    have hexhausts := (hcompleted i w' hlt hget).mp hcomplete
    obtain rfl := hlow hs
    rw [hnext w' hlt hget] at hexhausts
    cases hexhausts
  · -- the checkpoint moves on from where it was held, as if it had not been
    have hlead : ws.takeWhile u.exhausts
        = ws.take k ++ (ws.drop k).takeWhile u.exhausts := by
      calc ws.takeWhile u.exhausts
          = (ws.take k ++ ws.drop k).takeWhile u.exhausts := by rw [List.take_append_drop]
        _ = ws.take k ++ (ws.drop k).takeWhile u.exhausts :=
          List.takeWhile_append_of_pos hall
    have hmoved : c.marked ((ws.drop i).takeWhile u.exhausts) (c.marked (ws.take k) store)
        = c.marked (ws.takeWhile u.exhausts) store := by
      by_cases hs : c.Lowered store
      · rw [hlow hs, hlead, c.marked_append]
      · rw [hnotlow hs, List.drop_zero, hlead, c.marked_marked]
    rw [← hmoved] at hstoreA
    exact hstoreC.trans hstoreA.symm
  · show A.sink.taken = sinkA.taken ++ ((ws.take i).flatMap writes ++ C.1.sink.taken)
    rw [htakenC, ← hsplit]
    exact htakenA
  · obtain ⟨d, hd, hsurplus⟩ := flatMap_take_append writes (show i ≤ j by omega) hj ht
    refine ⟨d, hd, ?_⟩
    rw [← hsurplus]
    exact htakenB

/-- Three windows with deposits, of which the second one is given up after its first log; and a
sink that is full in the second line of the third. The second scan begins with the second
window. -/
theorem scan_resumed_third_window :
    let c : Config := { Config.default [] with fromBlock := 0, toBlock := 30, blockRange := 10 }
    let deposit : Text → RawLog := .emptyDeposit c.eventTopic
    let f : PageRequest → Attempt := fun r =>
      (if r.fromBlock = 0 then Reply.ofLogs [deposit "0x3".toList]
        else if r.fromBlock = 10 then
          .saying ⟨['1'], "OK".toList, .arr [(deposit "0xc".toList).toJson, .null]⟩
        else .ofLogs [deposit "0x15".toList, deposit "0x16".toList]).attempt
    let A := scan c (Explorer.answering f) (Progress.start () Sink.unlimited (some []))
    let B := scan c (Explorer.answering f) (Progress.start () (Sink.empty (some 50) none) (some []))
    let C := scan c (Explorer.answering f) (Progress.start () Sink.unlimited B.1.store)
    c.problem? = none ∧ c.Lowered [] ∧ (∀ w ∈ c.windows (some []), w.stop < 2 ^ 63) ∧
      (Explorer.answering f).AtTimes f ∧
      A.2 = .ok ⟨3, 3, 4, 0, 0, 0, 1⟩ ∧ (∃ problem, B.2 = .error problem) ∧
      A.1.sink.taken = Text.utf8 ("3 0x 0x - 0x -\n12 0x 0x - 0x -\n" ++
        "21 0x 0x - 0x -\n22 0x 0x - 0x -\n").toList ∧
      B.1.sink.taken = Text.utf8 ("3 0x 0x - 0x -\n12 0x 0x - 0x -\n" ++
        "21 0x 0x - 0x -\n22 ").toList ∧
      c.windows B.1.store = [⟨10, 20⟩, ⟨20, 30⟩] ∧
      C.1.sink.taken
        = Text.utf8 "12 0x 0x - 0x -\n21 0x 0x - 0x -\n22 0x 0x - 0x -\n".toList ∧
      C.1.store = A.1.store := by
  intro c deposit f A B C
  have hc : c.problem? = none := by decide
  have hlow : c.Lowered [] := Checkpoint.Store.written_nil.lowered _ _
  have hw : ∀ w ∈ c.windows (some []), w.stop < 2 ^ 63 := by decide
  have hws : c.windows (some []) = [⟨0, 10⟩, ⟨10, 20⟩, ⟨20, 30⟩] := by decide
  have hx : (Explorer.answering f).AtTimes f := fun _ _ => Or.inl rfl
  have hruns : A.2.toOption = some ⟨3, 3, 4, 0, 0, 0, 1⟩ ∧ B.2.toOption = none ∧
      A.1.sink.taken = Text.utf8 ("3 0x 0x - 0x -\n12 0x 0x - 0x -\n" ++
        "21 0x 0x - 0x -\n22 0x 0x - 0x -\n").toList ∧
      B.1.sink.taken = Text.utf8 ("3 0x 0x - 0x -\n12 0x 0x - 0x -\n" ++
        "21 0x 0x - 0x -\n22 ").toList ∧
      B.1.exchanges.getLast?.map (Exchange.isAbout ⟨20, 30⟩) = some true ∧
      c.Completed B.1.exchanges ⟨0, 10⟩ ∧ ¬ c.Completed B.1.exchanges ⟨10, 20⟩ := by
    decide +kernel
  have hwrites : (Setup.ofConfig c (Explorer.answering f)).writes ⟨0, 10⟩
      = Text.utf8 "3 0x 0x - 0x -\n".toList := by decide +kernel
  -- from here on nothing depends on what the scans are like
  clear_value c f
  obtain ⟨hokA, hfailsB, htakenA, htakenB, hlast, hfirst, hsecond⟩ := hruns
  have hA : A.2 = .ok ⟨3, 3, 4, 0, 0, 0, 1⟩ := eq_ok_of_toOption hokA
  obtain ⟨problem, hB⟩ : ∃ problem, B.2 = .error problem := exists_error_of_toOption hfailsB
  obtain ⟨i, j, w, -, hj, -, ⟨x, hx', hxw⟩, -, hcompleted, hstop, -, hwindows, -, -, -, hstore,
    hall, -⟩ :=
    scan_resumed c hc [] hw f Sink.unlimited _ hA (Explorer.answering f) hx ()
      (Sink.empty (some 50) none) problem hB
  rw [hws] at hj hcompleted hstop hwindows hall
  -- the last question was about the third window
  rw [hx', Option.map_some, Option.some.injEq] at hlast
  obtain rfl : w = ⟨20, 30⟩ := Exchange.isAbout_unique hxw hlast
  obtain rfl : j = 2 := by
    rcases j with - | - | - | j
    · cases hj
    · cases hj
    · rfl
    · cases hj
  -- the first window was completed and the second one was not
  obtain rfl : i = 1 := by
    rcases i with - | - | i
    · exact absurd hfirst (hstop hlow _ (by decide) rfl)
    · rfl
    · exact absurd (hcompleted ⟨10, 20⟩ (by simp)) hsecond
  refine ⟨hc, hlow, hw, hx, hA, ⟨problem, hB⟩, htakenA, htakenB, hwindows, ?_, hstore⟩
  have hsplit : Text.utf8 "3 0x 0x - 0x -\n".toList ++ C.1.sink.taken = A.1.sink.taken := by
    have hnone : Sink.unlimited.taken = [] := rfl
    rw [hnone, List.nil_append, List.take_succ_cons, List.take_zero, List.flatMap_singleton,
      hwrites] at hall
    exact hall.symm
  rw [htakenA] at hsplit
  exact List.append_cancel_left hsplit

/-- A row for the contract that is configured by default, with capitals in its key. -/
theorem Config.capitals_of_default {c : Config}
    (hcontract : c.contract = (Config.default []).contract) :
    let store : Checkpoint.Store := [⟨"0x0B98057eA310F4d31F2a452B414647007d1645d9".toList,
      c.eventTopic.toText, .whole 0, .stated []⟩]
    c.cursor? store = some 0 ∧ ¬ c.Lowered store := by
  intro store
  have hkey : Text.lower "0x0B98057eA310F4d31F2a452B414647007d1645d9".toList
        = c.contract.toText ∧
      "0x0B98057eA310F4d31F2a452B414647007d1645d9".toList ≠ c.contract.toText := by
    rw [hcontract]
    decide +kernel
  exact ⟨Config.cursor?_singleton (m := ⟨0, none⟩) hkey.1 (Octets.lower_toText _) rfl,
    Config.not_lowered_singleton hkey.1 (Octets.lower_toText _) hkey.2⟩

/-- Where the row of the store has capitals in its key, the second scan begins with the first
window again, though it was completed: the checkpoint was moved in another row than the one that
is found. -/
theorem scan_resumed_from_the_start :
    let c : Config := { Config.default [] with fromBlock := 0, toBlock := 20, blockRange := 10 }
    let store : Checkpoint.Store := [⟨"0x0B98057eA310F4d31F2a452B414647007d1645d9".toList,
      c.eventTopic.toText, .whole 0, .stated []⟩]
    let f : PageRequest → Attempt := fun r => (Reply.ofLogs [.emptyDeposit c.eventTopic
      (if r.fromBlock = 0 then "0x3".toList else "0xc".toList)]).attempt
    let explorer : Explorer Unit := fun s r =>
      (if r.fromBlock = 0 then f r else .error (.status 404 "Not Found".toList), s)
    let A := scan c (Explorer.answering f) (Progress.start () Sink.unlimited (some store))
    let B := scan c explorer (Progress.start () Sink.unlimited (some store))
    let C := scan c (Explorer.answering f) (Progress.start () Sink.unlimited B.1.store)
    c.problem? = none ∧ c.windows (some store) = [⟨0, 10⟩, ⟨10, 20⟩] ∧ explorer.AtTimes f ∧
      A.2.toOption = some ⟨2, 2, 2, 0, 0, 0, 0⟩ ∧ B.2.toOption = none ∧
      A.1.sink.taken = Text.utf8 "3 0x 0x - 0x -\n12 0x 0x - 0x -\n".toList ∧
      B.1.sink.taken = Text.utf8 "3 0x 0x - 0x -\n".toList ∧
      c.Completed B.1.exchanges ⟨0, 10⟩ ∧
      B.1.exchanges.getLast?.map (Exchange.isAbout ⟨10, 20⟩) = some true ∧
      C.1.exchanges.head?.map (Exchange.isAbout ⟨0, 10⟩) = some true ∧
      C.1.sink.taken = Text.utf8 "3 0x 0x - 0x -\n12 0x 0x - 0x -\n".toList := by
  intro c store f explorer A B C
  have hc : c.problem? = none := by decide
  have hx : explorer.AtTimes f := by
    intro s r
    by_cases h : r.fromBlock = 0
    · exact Or.inl (if_pos h)
    · right
      simp only [explorer, if_neg h]
      exact Attempt.envelope?_error _
  -- the row is found, and it is not the one that is moved
  obtain ⟨hcursor, hlow⟩ : c.cursor? store = some 0 ∧ ¬ c.Lowered store :=
    Config.capitals_of_default rfl
  have hA : A = _ := scan_eq_of_cursor hc hcursor (Nat.le_refl 0) (Explorer.answering f) () _
  have hB : B = _ := scan_eq_of_cursor hc hcursor (Nat.le_refl 0) explorer () _
  -- so the second scan does what the uninterrupted one does
  obtain ⟨store', hC⟩ : ∃ store', C = Progress.overStore store' A :=
    scan_again_of_not_lowered hc hlow explorer () Sink.unlimited (Explorer.answering f) ()
      Sink.unlimited
  have hws : c.windows (some store) = [⟨0, 10⟩, ⟨10, 20⟩] := by
    rw [Config.windows, Config.firstBlock_some, hcursor]
    decide
  have hruns : A.2.toOption = some ⟨2, 2, 2, 0, 0, 0, 0⟩ ∧ B.2.toOption = none ∧
      A.1.sink.taken = Text.utf8 "3 0x 0x - 0x -\n12 0x 0x - 0x -\n".toList ∧
      B.1.sink.taken = Text.utf8 "3 0x 0x - 0x -\n".toList ∧
      c.Completed B.1.exchanges ⟨0, 10⟩ ∧
      B.1.exchanges.getLast?.map (Exchange.isAbout ⟨10, 20⟩) = some true ∧
      A.1.exchanges.head?.map (Exchange.isAbout ⟨0, 10⟩) = some true := by
    rw [hA, hB]
    decide +kernel
  clear_value A B C
  obtain ⟨hokA, hfailsB, htakenA, htakenB, hcompleted, hlast, hfirst⟩ := hruns
  rw [hC, Progress.exchanges_overStore, Progress.sink_overStore]
  refine ⟨hc, hws, hx, hokA, hfailsB, htakenA, htakenB, hcompleted, hlast, hfirst, htakenA⟩
end DepositTrail
