import DepositTrail.Proofs.Checkpoint
import DepositTrail.Proofs.WindowSweep
import Mathlib.Order.Bounds.Defs

set_option autoImplicit false

/-! # Where the checkpoint stands

After a scan, however it has ended, the checkpoint stands at the end of the last window of the
unbroken run of completed windows with which the scan began (`scan_cursor`). What is completed
is read off the exchanges (`Config.Completed`), and not off what the scan itself believed: the
last thing received about the window says that there is no more. And a window counts only if the
sink was flushed after it.

The invariant is about any row of windows, with any store before them (`Swept.unbroken`). One
window more at the front of the row makes the run one longer if the window is exhausted, and
makes it empty otherwise.
-/

namespace DepositTrail

/-! ## Completed windows -/

namespace Config

variable (c : Config)

/-- The last thing received about a window says that there is no more for it. -/
def Completed (xs : List Exchange) (w : Window) : Prop :=
  ∃ x e, (xs.filter (Exchange.isAbout w)).getLast? = some x ∧ x.envelope? = some e ∧
    e.Exhausts c.pageSize.toNat

/-- Whether a window was completed can be read off the exchanges. -/
instance decidableCompleted (xs : List Exchange) (w : Window) :
    Decidable (c.Completed xs w) :=
  decidable_of_iff
    (((xs.filter (Exchange.isAbout w)).getLast?.bind Exchange.envelope?).bind
      (Envelope.ending? c.pageSize.toNat) = some .exhausted)
    (by
      simp only [Option.bind_eq_some_iff, Envelope.ending?_eq_exhausted, Completed]
      constructor
      · rintro ⟨e, ⟨x, hx, he⟩, hexhausts⟩
        exact ⟨x, e, hx, he, hexhausts⟩
      · rintro ⟨x, e, hx, he, hexhausts⟩
        exact ⟨e, ⟨x, hx, he⟩, hexhausts⟩)

/-- The first `k` windows were all completed, and the sink was flushed after each of them.
`flushes` is the number of flushes before the first window. -/
def Unbroken (ws : List Window) (xs : List Exchange) (sink : Sink) (flushes k : Nat) : Prop :=
  ∀ i < k, ∃ w, ws[i]? = some w ∧ c.Completed xs w ∧ sink.Flushed (flushes + i)

/-- The store with the checkpoint moved past some windows. -/
def marked (ws : List Window) (s : Checkpoint.Store) : Checkpoint.Store :=
  match ws.getLast? with
  | none => s
  | some w => c.mark w.stop s

section Unbroken

variable {c} {w : Window} {ws : List Window} {xs ys : List Exchange} {sink : Sink}
  {flushes k : Nat}

theorem unbroken_zero : c.Unbroken ws xs sink flushes 0 := by
  intro i hi
  omega

/-- There are at least as many windows as have been completed. -/
theorem Unbroken.le_length (h : c.Unbroken ws xs sink flushes k) : k ≤ ws.length := by
  cases k with
  | zero => exact Nat.zero_le _
  | succ k =>
      obtain ⟨w, hw, -⟩ := h k (Nat.lt_succ_self k)
      exact (List.getElem?_eq_some_iff.mp hw).1

/-- One window more at the front. -/
theorem unbroken_succ :
    c.Unbroken (w :: ws) xs sink flushes (k + 1)
      ↔ (c.Completed xs w ∧ sink.Flushed flushes) ∧ c.Unbroken ws xs sink (flushes + 1) k := by
  constructor
  · intro h
    constructor
    · obtain ⟨w', hw', hcompleted, hflushed⟩ := h 0 (Nat.succ_pos k)
      obtain rfl : w = w' := by simpa using hw'
      exact ⟨hcompleted, hflushed⟩
    · intro i hi
      obtain ⟨w', hw', hcompleted, hflushed⟩ := h (i + 1) (by omega)
      refine ⟨w', by simpa using hw', hcompleted, ?_⟩
      rw [Nat.add_assoc, Nat.add_comm 1]
      exact hflushed
  · rintro ⟨⟨hcompleted, hflushed⟩, h⟩ i hi
    cases i with
    | zero => exact ⟨w, rfl, hcompleted, hflushed⟩
    | succ i =>
        obtain ⟨w', hw', hcompleted', hflushed'⟩ := h i (by omega)
        refine ⟨w', by simpa using hw', hcompleted', ?_⟩
        rw [Nat.add_comm i, ← Nat.add_assoc]
        exact hflushed'

/-- Exchanges about another window do not complete a window. -/
theorem completed_append_of_ne {w' : Window} (hxs : ∀ x ∈ xs, x.isAbout w = true)
    (hne : w ≠ w') : c.Completed (xs ++ ys) w' ↔ c.Completed ys w' := by
  unfold Completed
  rw [filter_isAbout_append_of_ne ys hxs hne]

/-- Exchanges about a window that is not in the row change nothing. -/
theorem unbroken_append (hxs : ∀ x ∈ xs, x.isAbout w = true) (hw : w ∉ ws) :
    c.Unbroken ws (xs ++ ys) sink flushes k ↔ c.Unbroken ws ys sink flushes k := by
  have hcompleted : ∀ w' ∈ ws, (c.Completed (xs ++ ys) w' ↔ c.Completed ys w') := by
    intro w' hw'
    apply completed_append_of_ne hxs
    rintro rfl
    exact hw hw'
  constructor
  · intro h i hi
    obtain ⟨w', hw', hc, hf⟩ := h i hi
    exact ⟨w', hw', (hcompleted w' (List.mem_of_getElem? hw')).mp hc, hf⟩
  · intro h i hi
    obtain ⟨w', hw', hc, hf⟩ := h i hi
    exact ⟨w', hw', (hcompleted w' (List.mem_of_getElem? hw')).mpr hc, hf⟩

/-- Where the first window is not completed or not flushed, the run is empty. -/
theorem isGreatest_unbroken_zero (h : ¬ (c.Completed xs w ∧ sink.Flushed flushes)) :
    IsGreatest {k | c.Unbroken (w :: ws) xs sink flushes k} 0 := by
  constructor
  · exact unbroken_zero
  · intro k hk
    cases k with
    | zero => exact Nat.le_refl 0
    | succ k => exact absurd (unbroken_succ.mp hk).1 h

/-- Where the first window is completed and flushed, the run is one longer than without it. -/
theorem isGreatest_unbroken_succ (h : c.Completed xs w ∧ sink.Flushed flushes)
    (hk : IsGreatest {k | c.Unbroken ws xs sink (flushes + 1) k} k) :
    IsGreatest {k | c.Unbroken (w :: ws) xs sink flushes k} (k + 1) := by
  constructor
  · exact unbroken_succ.mpr ⟨h, hk.1⟩
  · intro j hj
    cases j with
    | zero => exact Nat.zero_le _
    | succ j => exact Nat.succ_le_succ (hk.2 (unbroken_succ.mp hj).2)

end Unbroken

/-! ## The first block -/

section FirstBlock

variable {c}

theorem firstBlock_some (s : Checkpoint.Store) :
    c.firstBlock (some s) = max c.fromBlock.toNat ((c.cursor? s).getD 0) := rfl

theorem firstBlock_congr {s s' : Checkpoint.Store} (h : c.cursor? s = c.cursor? s') :
    c.firstBlock (some s) = c.firstBlock (some s') := by
  rw [firstBlock_some, firstBlock_some, h]

end FirstBlock

/-! ## The moved checkpoint -/

@[simp] theorem marked_nil : c.marked [] = id := rfl

/-- Moving past the first window and then past others leaves no trace of the first. -/
theorem marked_cons (w : Window) (ws : List Window) (s : Checkpoint.Store) :
    c.marked (w :: ws) s = c.marked ws (c.mark w.stop s) := by
  unfold marked
  cases h : ws.getLast? with
  | none =>
      have hnil : ws = [] := List.getLast?_eq_none_iff.mp h
      rw [hnil]
      rfl
  | some w' =>
      have hne : ws ≠ [] := by
        rintro rfl
        cases h
      rw [List.getLast?_cons_of_ne_nil hne, h]
      exact (Checkpoint.Store.save_save s _ _ _ _).symm

theorem marked_append (ws ws' : List Window) (s : Checkpoint.Store) :
    c.marked (ws ++ ws') s = c.marked ws' (c.marked ws s) := by
  induction ws generalizing s with
  | nil => rfl
  | cons w ws ih => rw [List.cons_append, marked_cons, marked_cons, ih]

/-- Moving past some windows first, and then past these and others, is moving past all of them. -/
theorem marked_marked (ws ws' : List Window) (s : Checkpoint.Store) :
    c.marked (ws ++ ws') (c.marked ws s) = c.marked (ws ++ ws') s := by
  have hself : c.marked ws (c.marked ws s) = c.marked ws s := by
    unfold marked
    cases ws.getLast? with
    | none => rfl
    | some w => exact Checkpoint.Store.save_save s _ _ _ _
  rw [marked_append, marked_append, hself]

theorem written_marked (ws : List Window) {s : Checkpoint.Store} (hs : s.Written) :
    (c.marked ws s).Written := by
  unfold marked
  cases ws.getLast? with
  | none => exact hs
  | some w => exact hs.save _ _ _

theorem marked_of_getLast? {ws : List Window} {w : Window} (h : ws.getLast? = some w)
    (s : Checkpoint.Store) : c.marked ws s = c.mark w.stop s := by
  rw [marked, h]

/-- Past at least one window, the checkpoint stands at the end of the last of them. -/
theorem marked_take {ws : List Window} {k : Nat} {w : Window} (hk : 0 < k)
    (hw : ws[k - 1]? = some w) (s : Checkpoint.Store) :
    c.marked (ws.take k) s = c.mark w.stop s := by
  have hlast : (ws.take k).getLast? = some w := by
    obtain ⟨hlt, rfl⟩ := List.getElem?_eq_some_iff.mp hw
    rw [List.getLast?_eq_getElem?, List.length_take, Nat.min_eq_left (by omega),
      List.getElem?_take_of_lt (by omega), hw]
  exact c.marked_of_getLast? hlast s

/-- The row that is found for the contract and the topic of a configuration, if there is one, is
the one that moving the checkpoint replaces. -/
def Lowered (s : Checkpoint.Store) : Prop :=
  s.Lowered c.contract.checksummed c.eventTopic.toText

/-- **Where a marked store stands**: at the block that was marked, if it has 63 bits, and
otherwise at the first block of all. -/
theorem cursor?_mark_of_lowered {s : Checkpoint.Store} (hs : c.Lowered s) {block : Nat}
    (h : block ≤ lastBlock) :
    c.cursor? (c.mark block s) = some (if block < 2 ^ 63 then block else 0) := by
  have hlast : lastBlock < UInt64.size := by decide
  have hmod : (UInt64.ofNat block).toNat = block := UInt64.toNat_ofNat_of_lt (by omega)
  have hload : (s.save c.contract.checksummed c.eventTopic.toText (UInt64.ofNat block)).load
      c.contract.checksummed c.eventTopic.toText
        = .ok (some ⟨Checkpoint.unsigned (Checkpoint.signed (UInt64.ofNat block)), none⟩) :=
    Checkpoint.Store.load_save_of_lowered hs _
  unfold cursor? mark
  rw [hload]
  simp only [Checkpoint.toNat_unsigned_signed, hmod]

/-- Where another row is found than the one that is replaced, a store does not move. -/
theorem cursor?_mark_of_not_lowered {s : Checkpoint.Store} (hs : ¬ c.Lowered s) (block : Nat) :
    c.cursor? (c.mark block s) = c.cursor? s := by
  unfold cursor? mark
  rw [Checkpoint.Store.load_save_of_not_lowered hs]

/-- A store that can be read can be read after its checkpoint has been moved, whichever row is
found. -/
theorem readable_marked {s : Checkpoint.Store} (hr : c.Readable (some s)) (ws : List Window) :
    c.Readable (some (c.marked ws s)) := by
  unfold marked
  cases ws.getLast? with
  | none => exact hr
  | some w =>
      rintro _ ⟨⟩
      by_cases hs : c.Lowered s
      · exact ⟨_, Checkpoint.Store.load_save_of_lowered hs _⟩
      · obtain ⟨m, hm⟩ := hr s rfl
        exact ⟨m, (Checkpoint.Store.load_save_of_not_lowered hs _).trans hm⟩

/-- A block of 63 bits that was marked is the one at which the store stands. -/
theorem cursor?_mark {s : Checkpoint.Store} (hs : s.Written) {block : Nat}
    (h : block < 2 ^ 63) : c.cursor? (c.mark block s) = some block := by
  have hlast : 2 ^ 63 ≤ lastBlock := by decide
  rw [c.cursor?_mark_of_lowered (hs.lowered _ _) (by omega), if_pos h]

theorem readable_of_written {s : Checkpoint.Store} (hs : s.Written) : c.Readable (some s) := by
  intro s' hs'
  obtain rfl := Option.some.inj hs'
  exact hs.load_ok _ _

/-- Where another row is found than the one that is replaced, nothing is seen of the moves. -/
theorem load_marked_of_not_lowered {s : Checkpoint.Store} (hs : ¬ c.Lowered s)
    (ws : List Window) :
    (c.marked ws s).load c.contract.checksummed c.eventTopic.toText
      = s.load c.contract.checksummed c.eventTopic.toText := by
  unfold marked
  cases ws.getLast? with
  | none => rfl
  | some w => exact Checkpoint.Store.load_save_of_not_lowered hs _

theorem cursor?_marked_of_not_lowered {s : Checkpoint.Store} (hs : ¬ c.Lowered s)
    (ws : List Window) : c.cursor? (c.marked ws s) = c.cursor? s := by
  rw [cursor?, cursor?, c.load_marked_of_not_lowered hs]

/-! ## A row with capitals -/

section Capitals

variable {c} {r : Checkpoint.Row}

theorem isFor_of_lower (hcontract : r.contract.lower = c.contract.toText)
    (htopic : r.topic.lower = c.eventTopic.toText) :
    r.isFor c.contract.checksummed c.eventTopic.toText = true := by
  simp [Checkpoint.Row.isFor, hcontract, htopic]

/-- A row is found by its key in small letters. -/
theorem cursor?_singleton (hcontract : r.contract.lower = c.contract.toText)
    (htopic : r.topic.lower = c.eventTopic.toText) {m : Checkpoint.Mark} (hm : r.mark = .ok m) :
    c.cursor? [r] = some m.nextBlock.toNat := by
  rw [cursor?, Checkpoint.Store.load_singleton (isFor_of_lower hcontract htopic) hm]

/-- But if there are capitals in it, the row is not the one that is replaced. -/
theorem not_lowered_singleton (hcontract : r.contract.lower = c.contract.toText)
    (htopic : r.topic.lower = c.eventTopic.toText) (hkey : r.contract ≠ c.contract.toText) :
    ¬ c.Lowered [r] := by
  refine Checkpoint.Store.not_lowered_singleton (isFor_of_lower hcontract htopic) fun h => hkey ?_
  rw [h.1, Address.lower_checksummed]

end Capitals

end Config

/-! ## The invariant -/

namespace Setup

variable {σ : Type} {u : Setup σ}

/-- A finished window was completed, by the exchanges about it, exactly when it is exhausted. -/
theorem Finished.completed_iff {answers : Nat → Envelope → Prop} {w : Window} {free : Bool}
    {p p' : Progress σ} {xs ys : List Exchange} {ending : Ending}
    (hsize : u.template.pageSize = u.config.pageSize.toNat)
    (h : u.Finished answers w free p p' xs ending) (hys : ∀ x ∈ ys, x.isAbout w = false) :
    u.config.Completed (xs ++ ys) w ↔ ending = .exhausted := by
  rw [h.pages.exhausted_iff, ← h.last, hsize]
  unfold Config.Completed
  rw [filter_isAbout_append h.about hys]
  constructor
  · rintro ⟨x, e, hx, he, hexhausts⟩
    exact ⟨e, by rw [hx]; exact he, hexhausts⟩
  · rintro ⟨e, he, hexhausts⟩
    obtain ⟨x, hx, hxe⟩ := Option.bind_eq_some_iff.mp he
    exact ⟨x, e, hx, hxe, hexhausts⟩

/-- **A row that comes to its end is completed** if its windows cannot end but exhausted. -/
theorem Swept.completed {answers : Window → Nat → Envelope → Prop} {ws : List Window}
    {free : Bool} {p p' : Progress σ} {result : Except ScanProblem Unit}
    (hsize : u.template.pageSize = u.config.pageSize.toNat)
    (h : u.Swept answers ws free p p' result) (hresult : result = .ok ()) (hws : ws.Nodup)
    (hall : ∀ w ∈ ws, ∀ es ending,
      Pages (answers w) u.template.pageSize u.template.maxPages 1 es ending →
        ending = .exhausted) :
    ∃ xs, p'.exchanges = p.exchanges ++ xs ∧ (∀ x ∈ xs, ∃ w ∈ ws, x.isAbout w = true) ∧
      ∀ w ∈ ws, u.config.Completed xs w := by
  induction h with
  | done => exact ⟨[], (List.append_nil _).symm, by simp, by simp⟩
  | halt halted => cases hresult
  | @next w ws free p p₁ p' xs ending result finished rest ih =>
      obtain ⟨hw, hnodup⟩ := List.nodup_cons.mp hws
      obtain ⟨ys, hys, habout, hcompleted⟩ :=
        ih hresult hnodup fun w' hw' => hall w' (List.mem_cons_of_mem _ hw')
      have hending := hall w List.mem_cons_self _ _ finished.pages
      refine ⟨xs ++ ys, ?_, about_append finished.about habout, fun w' hw' => ?_⟩
      · rw [hys, finished.exchanges, List.append_assoc]
      · rcases List.mem_cons.mp hw' with rfl | hw'
        · exact (finished.completed_iff hsize (not_about_of_notMem hw habout)).mpr hending
        · refine (Config.completed_append_of_ne finished.about ?_).mpr (hcompleted w' hw')
          rintro rfl
          exact hw hw'

/-- **Where the checkpoint stands after a row of windows**: where it stood, moved past the
unbroken run of completed windows at the front of the row, or not moved at all if it was held
from the beginning. -/
theorem Swept.unbroken {answers : Window → Nat → Envelope → Prop} {ws : List Window}
    {free : Bool} {p p' : Progress σ} {result : Except ScanProblem Unit}
    (hsize : u.template.pageSize = u.config.pageSize.toNat)
    (h : u.Swept answers ws free p p' result) (hws : ws.Nodup) :
    ∃ xs k, p'.exchanges = p.exchanges ++ xs ∧ (∀ x ∈ xs, ∃ w ∈ ws, x.isAbout w = true) ∧
      IsGreatest {k | u.config.Unbroken ws xs p'.sink p.sink.flushes k} k ∧
      p'.store = if free then p.store.map (u.config.marked (ws.take k)) else p.store := by
  induction h with
  | @done free p =>
      refine ⟨[], 0, (List.append_nil _).symm, by simp, ⟨Config.unbroken_zero, ?_⟩, ?_⟩
      · intro k hk
        exact Config.Unbroken.le_length hk
      · cases free <;> simp
  | @halt w ws free p p' xs problem halted =>
      refine ⟨xs, 0, halted.exchanges, ?_, ?_, ?_⟩
      · exact fun x hx => ⟨w, List.mem_cons_self, halted.about x hx⟩
      · exact Config.isGreatest_unbroken_zero fun hflushed => halted.not_flushed 0 hflushed.2
      · rw [halted.store]
        cases free <;> simp
  | @next w ws free p p₁ p' xs ending result finished rest ih =>
      obtain ⟨hw, hnodup⟩ := List.nodup_cons.mp hws
      obtain ⟨ys, k, hys, habout, hk, hstore⟩ := ih hnodup
      have hcompleted := finished.completed_iff hsize (not_about_of_notMem hw habout)
      have hflushed := finished.flushed_of_rest rest
      have hexchanges : p'.exchanges = p.exchanges ++ (xs ++ ys) := by
        rw [hys, finished.exchanges, List.append_assoc]
      have hall := about_append finished.about habout
      by_cases hending : ending = .exhausted
      · -- the window is exhausted, so the run behind it is one longer
        refine ⟨xs ++ ys, k + 1, hexchanges, hall, ?_, ?_⟩
        · apply Config.isGreatest_unbroken_succ ⟨hcompleted.mpr hending, hflushed⟩
          rw [← finished.flushes]
          simpa only [Config.unbroken_append finished.about hw] using hk
        · have hfirst := finished.store
          rw [hstore, hfirst]
          cases free with
          | false => simp
          | true =>
              simp only [hending, decide_true, Bool.and_true, and_self, if_true, moveCheckpoint,
                Option.map_map]
              congr 1
              funext s
              exact (u.config.marked_cons w (ws.take k) s).symm
      · -- the window is not, so the run is empty and the checkpoint held from here on
        refine ⟨xs ++ ys, 0, hexchanges, hall, ?_, ?_⟩
        · exact Config.isGreatest_unbroken_zero fun h => hending (hcompleted.mp h.1)
        · have hfirst := finished.store
          rw [hstore, hfirst]
          cases free <;> simp [hending]

end Setup

/-! ## Whole scans -/

/-- A store stands at no block after the first one of a scan that begins with it. -/
theorem Config.cursor?_le_firstBlock {c : Config} {s : Checkpoint.Store} {n : Nat}
    (h : c.cursor? s = some n) : n ≤ c.firstBlock (some s) := by
  unfold firstBlock
  show n ≤ max c.fromBlock.toNat ((c.cursor? s).getD 0)
  rw [h]
  exact Nat.le_max_right _ _

/-- **Where the checkpoint stands after a scan**, whatever the explorer has answered and the
sink has taken, and whether the scan has come to its end or not. It stands at the end of window
`k`, where `k` is the greatest number such that each of the first `k` windows was completed and
flushed; for `k = 0` the store is as it was. No window after these lies before the
checkpoint. -/
theorem scan_cursor {σ : Type} (c : Config) (hc : c.problem? = none) (explorer : Explorer σ)
    (s : σ) (sink : Sink) (store : Checkpoint.Store) (hs : store.Written)
    (hw : ∀ w ∈ c.windows (some store), w.stop < 2 ^ 63) :
    let p := (scan c explorer (Progress.start s sink (some store))).1
    ∃ k store',
      IsGreatest
          {k | c.Unbroken (c.windows (some store)) p.exchanges p.sink sink.flushes k} k ∧
        p.store = some store' ∧
        (k = 0 → store' = store) ∧
        (0 < k → ∃ w, (c.windows (some store))[k - 1]? = some w ∧
          c.cursor? store' = some w.stop) ∧
        ∀ i w n, k ≤ i → (c.windows (some store))[i]? = some w → c.cursor? store' = some n →
          n ≤ w.first := by
  have hfits := Config.fits_of_problem? hc
  obtain ⟨j, j', p', result, hswept, hscan⟩ :=
    scan_swept hc (Setup.ofConfig c explorer).answered_any (c.readable_of_written hs) s sink
  obtain ⟨xs, k, hxs, -, hk, hstore⟩ := hswept.unbroken rfl (Window.partition_nodup _ _ _)
  rw [hscan]
  have hexchanges : p'.exchanges = xs := by
    rw [hxs]
    rfl
  refine ⟨k, c.marked ((c.windows (some store)).take k) store, ?_, hstore, ?_, ?_, ?_⟩
  · simp only [hexchanges]
    exact hk
  · rintro rfl
    rw [List.take_zero, Config.marked_nil, id]
  · intro hpos
    obtain ⟨w, hkw, -⟩ := hk.1 (k - 1) (by omega)
    refine ⟨w, hkw, ?_⟩
    rw [c.marked_take hpos hkw]
    exact c.cursor?_mark hs (hw w (List.mem_of_getElem? hkw))
  · -- the checkpoint stands at the end of an earlier window, or where it stood before the scan
    intro i w n hki hiw hn
    rcases Nat.eq_zero_or_pos k with rfl | hpos
    · rw [List.take_zero, Config.marked_nil, id] at hn
      obtain ⟨hi, rfl⟩ := List.getElem?_eq_some_iff.mp hiw
      exact Nat.le_trans (Config.cursor?_le_firstBlock hn)
        (Window.first_le_of_mem_row (List.getElem_mem hi))
    · obtain ⟨w', hkw, -⟩ := hk.1 (k - 1) (by omega)
      rw [c.marked_take hpos hkw,
        c.cursor?_mark hs (hw w' (List.mem_of_getElem? hkw)), Option.some.injEq] at hn
      rw [← hn]
      exact Window.stop_le_first hfits.blockRange_pos (by omega) hkw hiw

/-- Three windows without logs, of which the explorer refuses the second one. -/
theorem scan_cursor_three_windows :
    let c : Config := { Config.default [] with fromBlock := 0, toBlock := 30, blockRange := 10 }
    let refusal : Text := "[\"0\",\"Max rate limit reached\"]".toList
    let explorer : Explorer Unit := fun s r =>
      (if r.fromBlock = 10 then .ok refusal else Reply.noRecords.attempt, s)
    let p := (scan c explorer (Progress.start () Sink.unlimited (some []))).1
    c.problem? = none ∧ Checkpoint.Store.Written [] ∧
      (∀ w ∈ c.windows (some []), w.stop < 2 ^ 63) ∧
      ∃ k store',
        IsGreatest {k | c.Unbroken (c.windows (some [])) p.exchanges p.sink 0 k} k ∧
          p.store = some store' ∧ store'.map Checkpoint.Row.next = [.whole 10] := by
  intro c refusal explorer p
  have hc : c.problem? = none := by decide
  have hs : Checkpoint.Store.Written [] := Checkpoint.Store.written_nil
  have hw : ∀ w ∈ c.windows (some []), w.stop < 2 ^ 63 := by decide
  have hrow : p.store.map (List.map Checkpoint.Row.next) = some [.whole 10] := by
    decide +kernel
  -- from here on nothing depends on what the scan is like
  clear_value c explorer
  obtain ⟨k, store', hk, hstore, -⟩ := scan_cursor c hc explorer () Sink.unlimited [] hs hw
  refine ⟨hc, hs, hw, k, store', hk, hstore, ?_⟩
  have hp : p.store = some store' := hstore
  rw [hp] at hrow
  exact Option.some.inj hrow

end DepositTrail
