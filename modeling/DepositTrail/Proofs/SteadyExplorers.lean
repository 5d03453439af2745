import DepositTrail.Proofs.Cursor
import DepositTrail.Proofs.Output

set_option autoImplicit false

/-! # Steady explorers

An explorer is steady if what it answers depends on the request alone. From such an explorer a
window always has the same envelopes, so that it can be said beforehand what a window writes and
whether it is exhausted: by scanning it alone (`Setup.writes`, `Setup.exhausts`).

This also tells how far a row of windows comes (`Swept.reached`), even if the explorer does not
always answer. The windows that are finished write what they write alone; of the one in which
the scan halts there is a beginning; and the checkpoint moves past the exhausted windows at the
front of the finished ones.
-/

namespace DepositTrail

/-- The explorer without a state that answers as a function says. -/
def Explorer.answering (f : PageRequest → Attempt) : Explorer Unit := fun s r => (f r, s)

namespace Setup

/-! ## One window alone -/

section Alone

variable (u : Setup Unit)

/-- What the explorer answers for a page of a window. -/
def tells (w : Window) (page : Nat) (e : Envelope) : Prop :=
  (u.client.send u.explorer (u.template.request w page) ()).1.envelope? = some e

/-- The scan of a window alone, into a healthy sink. -/
def alone (w : Window) : Progress Unit × Except ScanProblem WindowEnd :=
  u.scanPages w u.template.maxPages 1 (Progress.start () Sink.unlimited none)

/-- What a window writes when it is scanned alone. -/
def writes (w : Window) : List UInt8 := (u.alone w).1.sink.taken

/-- Whether a window is exhausted when it is scanned alone. -/
def exhausts (w : Window) : Bool :=
  match (u.alone w).2 with
  | .ok .completed => true
  | _ => false

variable {u}

theorem answered_tells (w : Window) : u.Answered w (u.tells w) := fun _ _ _ he => he

theorem tells_unique (w : Window) (page : Nat) (e e' : Envelope) (h : u.tells w page e)
    (h' : u.tells w page e') : e = e' :=
  Option.some.inj (h.symm.trans h')

/-- Where the pages of a window have their answers, the explorer serves them. -/
theorem serves_of_pages {w : Window} {left page : Nat} {es : List Envelope} {ending : Ending}
    (h : Pages (u.tells w) u.template.pageSize left page es ending) : u.Serves w left page := by
  induction h with
  | last answer decided =>
      intro s
      refine ⟨_, answer, fun full => ?_⟩
      rw [decided] at full
      cases full
  | ceiling answer full => exact fun s => ⟨_, answer, fun _ => trivial⟩
  | next answer full rest ih => exact fun s => ⟨_, answer, fun _ => ih⟩

/-- **A window alone** writes the lines of its envelopes, and is exhausted if they are. -/
theorem alone_of_pages (hmax : 0 < u.template.maxPages) {w : Window} {es : List Envelope}
    {ending : Ending} (h : Pages (u.tells w) u.template.pageSize u.template.maxPages 1 es ending) :
    u.writes w = u.config.bytes es ∧ u.exhausts w = decide (ending = .exhausted) := by
  -- the window is not broken off, and it has no other pages than the given ones
  rcases scanPages_cases (answered_tells w) hmax 1 (Progress.start () Sink.unlimited none) with
    ⟨p', xs, ending', hp, hs⟩ | ⟨p', xs, problem, hp, hb⟩
  · obtain ⟨hes, hending⟩ := hs.pages.functional (tells_unique w) h
    have halone : u.alone w = (p', .ok ending.windowEnd) := by
      rw [← hending]
      exact hp
    constructor
    · have htaken := Sink.taken_of_write_ok hs.sink
      rw [writes, halone, ← hes]
      exact htaken
    · rw [exhausts, halone]
      cases ending <;> rfl
  · exact absurd rfl (hb.cause (serves_of_pages h))

end Alone

/-! ## Rows of windows -/

section Rows

variable {σ : Type} {u : Setup σ} {answers : Window → Nat → Envelope → Prop}

/-- Every window of a row that comes to its end has its pages, and was asked about. -/
theorem Swept.pages {ws : List Window} {free : Bool} {p p' : Progress σ}
    {result : Except ScanProblem Unit} (h : u.Swept answers ws free p p' result)
    (hresult : result = .ok ()) :
    p'.report.ranges = p.report.ranges + ws.length ∧
      ∃ xs, p'.exchanges = p.exchanges ++ xs ∧
        ∀ w ∈ ws, (∃ es ending,
            Pages (answers w) u.template.pageSize u.template.maxPages 1 es ending) ∧
          ∃ x ∈ xs, x.isAbout w = true := by
  induction h with
  | done => exact ⟨rfl, [], (List.append_nil _).symm, by simp⟩
  | halt halted => cases hresult
  | @next w ws free p p₁ p' xs ending result finished rest ih =>
      obtain ⟨hranges, ys, hys, hall⟩ := ih hresult
      have hone : p₁.report.ranges = p.report.ranges + 1 := by
        rw [finished.report]
        rfl
      refine ⟨?_, xs ++ ys, ?_, fun w' hw' => ?_⟩
      · rw [hranges, hone, List.length_cons]
        omega
      · rw [hys, finished.exchanges, List.append_assoc]
      · rcases List.mem_cons.mp hw' with rfl | hw'
        · have hne : xs ≠ [] := by
            rintro rfl
            exact finished.pages.ne_nil rfl
          obtain ⟨x, hx⟩ := List.exists_mem_of_ne_nil xs hne
          exact ⟨⟨_, _, finished.pages⟩, x, List.mem_append_left _ hx, finished.about x hx⟩
        · obtain ⟨hpages, x, hx, habout⟩ := hall w' hw'
          exact ⟨hpages, x, List.mem_append_right _ hx, habout⟩

variable (u) (answers)

/-- A function says of each window of a row what it writes, and another one whether it is
exhausted. -/
def Foretold (writes : Window → List UInt8) (exhausts : Window → Bool) (ws : List Window) : Prop :=
  ∀ w ∈ ws, ∃ es ending,
    Pages (answers w) u.template.pageSize u.template.maxPages 1 es ending ∧
      writes w = u.config.bytes es ∧ exhausts w = decide (ending = .exhausted)

/-- A row of windows is scanned up to the one with number `j`, and `t` was written of it. -/
structure Reached (writes : Window → List UInt8) (exhausts : Window → Bool) (ws : List Window)
    (free : Bool) (p p' : Progress σ) (j : Nat) (t : List UInt8) : Prop where
  taken : p'.sink.taken = p.sink.taken ++ ((ws.take j).flatMap writes ++ t)
  store : p'.store
    = if free then p.store.map (u.config.marked ((ws.take j).takeWhile exhausts)) else p.store
  flushed : ∀ i, p'.sink.Flushed (p.sink.flushes + i) ↔ i < j

variable {u} {answers} {writes : Window → List UInt8} {exhausts : Window → Bool}

/-- A finished window does what was foretold of it. -/
theorem Finished.foretold {w : Window} {ws : List Window} {free : Bool} {p p' : Progress σ}
    {xs : List Exchange} {ending : Ending}
    (hf : ∀ w page e e', answers w page e → answers w page e' → e = e')
    (h : u.Finished (answers w) w free p p' xs ending)
    (hw : u.Foretold answers writes exhausts (w :: ws)) :
    writes w = u.config.bytes (envelopes xs) ∧ exhausts w = decide (ending = .exhausted) := by
  obtain ⟨es, ending', hpages, hwrites, hexhausts⟩ := hw w List.mem_cons_self
  obtain ⟨hes, hending⟩ := hpages.functional (hf w) h.pages
  rw [← hes, ← hending]
  exact ⟨hwrites, hexhausts⟩

/-- One finished window more at the front of a row. -/
theorem Reached.cons {w : Window} {ws : List Window} {free : Bool} {p p₁ p' : Progress σ}
    {xs : List Exchange} {ending : Ending} {j : Nat} {t : List UInt8}
    (finished : u.Finished (answers w) w free p p₁ xs ending)
    (hwrites : writes w = u.config.bytes (envelopes xs))
    (hexhausts : exhausts w = decide (ending = .exhausted))
    (hframe : p₁.sink.flushes ≤ p'.sink.flushes ∧
      p'.sink.failingFlush = p₁.sink.failingFlush)
    (h : u.Reached writes exhausts ws (free && ending = .exhausted) p₁ p' j t) :
    u.Reached writes exhausts (w :: ws) free p p' (j + 1) t := by
  have hone := finished.flushes
  refine ⟨?_, ?_, fun i => ?_⟩
  · have hfirst : p₁.sink.taken = p.sink.taken ++ writes w := by
      rw [finished.sink, Sink.flush_taken, Sink.taken_of_write_ok finished.write_eq, hwrites]
    rw [h.taken, hfirst, List.take_succ_cons, List.flatMap_cons]
    simp only [List.append_assoc]
  · rw [h.store, finished.store, List.take_succ_cons, List.takeWhile_cons, hexhausts]
    cases free with
    | false => simp
    | true =>
        by_cases hending : ending = .exhausted
        · simp only [hending, decide_true, Bool.and_true, and_self, if_true, moveCheckpoint,
            Option.map_map]
          congr 1
          funext s
          exact (u.config.marked_cons w _ s).symm
        · simp [hending]
  · -- the first flush is the one after the window, the others are those of the rest
    cases i with
    | zero =>
        have hflushed : p'.sink.Flushed p.sink.flushes := by
          refine ⟨by omega, ?_⟩
          rw [hframe.2, finished.failingFlush]
          exact finished.flushed
        exact ⟨fun _ => Nat.succ_pos j, fun _ => hflushed⟩
    | succ i =>
        have hiff := h.flushed i
        rw [hone, Nat.add_assoc, Nat.add_comm 1] at hiff
        rw [hiff]
        omega

/-- **How far a row of windows comes.** If it comes to its end, all of its windows are scanned.
Otherwise all windows before the one in which it halts are scanned, and of this one a beginning
of its lines was written. -/
theorem Swept.reached {ws : List Window} {free : Bool} {p p' : Progress σ}
    {result : Except ScanProblem Unit}
    (hf : ∀ w page e e', answers w page e → answers w page e' → e = e')
    (h : u.Swept answers ws free p p' result) (hws : u.Foretold answers writes exhausts ws) :
    (result = .ok () → u.Reached writes exhausts ws free p p' ws.length []) ∧
      ∀ problem, result = .error problem → ∃ j w t, ws[j]? = some w ∧ t <+: writes w ∧
        (∃ x, p'.exchanges.getLast? = some x ∧ x.isAbout w = true) ∧
        u.Reached writes exhausts ws free p p' j t := by
  induction h with
  | @done free p =>
      refine ⟨fun _ => ⟨by simp, by cases free <;> simp, fun i => ?_⟩, nofun⟩
      constructor
      · rintro ⟨hlt, -⟩
        omega
      · intro hi
        exact absurd hi (Nat.not_lt_zero i)
  | @halt w ws free p p' xs problem halted =>
      refine ⟨nofun, fun _ _ => ?_⟩
      -- what was written is a beginning of what came, and this of what the window writes
      obtain ⟨es, ending, hpages, hwrites, -⟩ := hws w List.mem_cons_self
      obtain ⟨t, ht, htaken⟩ := Sink.taken_write p.sink (u.config.bytes (envelopes xs))
      have hbegun : u.config.bytes (envelopes xs) <+: writes w := by
        rw [hwrites]
        exact u.config.bytes_prefix (halted.begun.isPrefix (hf w) hpages)
      refine ⟨0, w, t, rfl, ht.trans hbegun, ?_, ?_, ?_, fun i => ?_⟩
      · have hlast := List.getLast?_eq_some_getLast halted.nonempty
        refine ⟨_, ?_, halted.about _ (List.mem_of_getLast? hlast)⟩
        rw [halted.exchanges, List.getLast?_append_of_ne_nil _ halted.nonempty, hlast]
      · rw [halted.taken, htaken]
        simp
      · rw [halted.store]
        cases free <;> simp
      · constructor
        · exact fun hflushed => absurd hflushed (halted.not_flushed i)
        · exact fun hi => absurd hi (Nat.not_lt_zero i)
  | @next w ws free p p₁ p' xs ending result finished rest ih =>
      obtain ⟨hwrites, hexhausts⟩ := finished.foretold hf hws
      obtain ⟨hok, herror⟩ := ih fun w' hw' => hws w' (List.mem_cons_of_mem _ hw')
      refine ⟨fun hresult => ?_, fun problem hresult => ?_⟩
      · exact (hok hresult).cons finished hwrites hexhausts rest.flushes
      · obtain ⟨j, w', t, hw', ht, hlast, hreached⟩ := herror problem hresult
        exact ⟨j + 1, w', t, by simpa using hw', ht, hlast,
          hreached.cons finished hwrites hexhausts rest.flushes⟩

/-- Of the windows after which the sink was flushed, those are completed of which it was
foretold that they are exhausted. -/
theorem Swept.completed_iff {ws : List Window} {free : Bool} {p p' : Progress σ}
    {result : Except ScanProblem Unit}
    (hsize : u.template.pageSize = u.config.pageSize.toNat)
    (hf : ∀ w page e e', answers w page e → answers w page e' → e = e')
    (h : u.Swept answers ws free p p' result) (hnodup : ws.Nodup)
    (hws : u.Foretold answers writes exhausts ws) :
    ∃ xs, p'.exchanges = p.exchanges ++ xs ∧ (∀ x ∈ xs, ∃ w ∈ ws, x.isAbout w = true) ∧
      ∀ i w, ws[i]? = some w → p'.sink.Flushed (p.sink.flushes + i) →
        (u.config.Completed xs w ↔ exhausts w = true) := by
  induction h with
  | done => exact ⟨[], (List.append_nil _).symm, by simp, by simp⟩
  | @halt w ws free p p' xs problem halted =>
      refine ⟨xs, halted.exchanges, fun x hx => ⟨w, List.mem_cons_self, halted.about x hx⟩, ?_⟩
      exact fun i w' _ hflushed => absurd hflushed (halted.not_flushed i)
  | @next w ws free p p₁ p' xs ending result finished rest ih =>
      obtain ⟨hw, hnodup'⟩ := List.nodup_cons.mp hnodup
      obtain ⟨-, hexhausts⟩ := finished.foretold hf hws
      obtain ⟨ys, hys, habout, hall⟩ := ih hnodup' fun w' hw' => hws w' (List.mem_cons_of_mem _ hw')
      refine ⟨xs ++ ys, ?_, about_append finished.about habout, ?_⟩
      · rw [hys, finished.exchanges, List.append_assoc]
      · intro i w' hw' hflushed
        cases i with
        | zero =>
            obtain rfl : w = w' := by simpa using hw'
            rw [finished.completed_iff hsize (not_about_of_notMem hw habout), hexhausts,
              decide_eq_true_eq]
        | succ i =>
            have hmem : ws[i]? = some w' := by simpa using hw'
            have hne : w ≠ w' := by
              rintro rfl
              exact hw (List.mem_of_getElem? hmem)
            have hrest := hall i w' hmem (by
              rw [finished.flushes, Nat.add_assoc, Nat.add_comm 1]
              exact hflushed)
            exact (Config.completed_append_of_ne finished.about hne).trans hrest

end Rows

end Setup

end DepositTrail
