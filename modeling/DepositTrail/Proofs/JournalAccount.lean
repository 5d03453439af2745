import DepositTrail.Proofs.JournalLines
import DepositTrail.Proofs.QuestionOrder
import DepositTrail.Proofs.Resumption

set_option autoImplicit false

/-! # The journal, the counts and the checkpoint

What a scan says in its journal, what it counts, and where it leaves the checkpoint are told by
one and the same course of events, but each is written down in another place. They agree
(`scan_accounted`). What counts is what is printed: lines are told apart by their level and their
wording, which show what the entry is about (`Entry.shows_iff`).

The entries of a journal account for some counts and for some windows at which the checkpoint was
held (`Account`). Accounts can be put together (`Account.append`), so it is enough to look at
what each step of a scan adds (`Progress.Adds`): a question adds nothing to the account, an
envelope what its logs and its ending add, and a window that was not completed that the
checkpoint was held, if it was free.
-/

namespace DepositTrail

/-! ## Accounts -/

/-- Some entries account for some counts and for the windows at which the checkpoint was held.
None of them closes the scan. -/
structure Account (es : List Entry) (d : Report) (ws : List Window) : Prop where
  undecodable : (Entry.ofKind .undecodable es).length = d.undecodable
  ceilings : (Entry.ofKind .ceiling es).length = d.ceilings
  abandoned : (Entry.ofKind .refused es).length + (Entry.ofKind .malformed es).length = d.abandoned
  held : Entry.ofKind .held es = ws.map Entry.held
  unclosed : Entry.ofKind .closing es = []

namespace Account

variable {es es' : List Entry} {d d' : Report} {ws ws' : List Window}

/-- **Accounts can be put together.** -/
theorem append (h : Account es d ws) (h' : Account es' d' ws') :
    Account (es ++ es') (d.plus d') (ws ++ ws') where
  undecodable := by
    rw [Entry.ofKind_append, List.length_append, h.undecodable, h'.undecodable]
    rfl
  ceilings := by
    rw [Entry.ofKind_append, List.length_append, h.ceilings, h'.ceilings]
    rfl
  abandoned := by
    have hsum := h.abandoned
    have hsum' := h'.abandoned
    rw [Entry.ofKind_append, Entry.ofKind_append, List.length_append, List.length_append]
    show _ = d.abandoned + d'.abandoned
    omega
  held := by rw [Entry.ofKind_append, h.held, h'.held, List.map_append]
  unclosed := by rw [Entry.ofKind_append, h.unclosed, h'.unclosed, List.append_nil]

/-- The account of entries of one kind, of which the checkpoint and the closing are none, or of
entries about something else. -/
theorem of_forall {o : Option Entry.Kind} (h : ∀ e ∈ es, e.kind? = o) (hheld : o ≠ some .held)
    (hopen : o ≠ some .closing)
    (hundecodable : d.undecodable = if o = some .undecodable then es.length else 0)
    (hceilings : d.ceilings = if o = some .ceiling then es.length else 0)
    (habandoned : d.abandoned = if o = some .refused ∨ o = some .malformed then es.length else 0) :
    Account es d [] where
  undecodable := by
    rw [Entry.ofKind_of_forall h, hundecodable]
    split <;> rfl
  ceilings := by
    rw [Entry.ofKind_of_forall h, hceilings]
    split <;> rfl
  abandoned := by
    rw [Entry.ofKind_of_forall h, Entry.ofKind_of_forall h, habandoned]
    by_cases hrefused : o = some .refused
    · simp [hrefused]
    · by_cases hmalformed : o = some .malformed <;> simp [hrefused, hmalformed]
  held := by rw [Entry.ofKind_of_forall h, if_neg hheld, List.map_nil]
  unclosed := by rw [Entry.ofKind_of_forall h, if_neg hopen]

theorem congr (h : Account es d ws) (hundecodable : d'.undecodable = d.undecodable)
    (hceilings : d'.ceilings = d.ceilings) (habandoned : d'.abandoned = d.abandoned) :
    Account es d' ws where
  undecodable := h.undecodable.trans hundecodable.symm
  ceilings := h.ceilings.trans hceilings.symm
  abandoned := h.abandoned.trans habandoned.symm
  held := h.held
  unclosed := h.unclosed

/-- Entries about something else account for nothing. -/
theorem of_none (h : ∀ e ∈ es, e.kind? = none)
    (hd : d.undecodable = 0 ∧ d.ceilings = 0 ∧ d.abandoned = 0) : Account es d [] :=
  of_forall h (by decide) (by decide) hd.1 hd.2.1 hd.2.2

end Account

namespace Progress

variable {σ : Type}

/-- One progress has more entries than another, and counts more; and what it has more accounts
for what it counts more, and for the windows at which the checkpoint was held. -/
def Adds (p p' : Progress σ) (ws : List Window) : Prop :=
  ∃ es d, p'.journal = p.journal ++ es ∧ p'.report = p.report.plus d ∧ Account es d ws

variable {p q r : Progress σ} {ws ws' : List Window}

theorem Adds.trans (h : p.Adds q ws) (h' : q.Adds r ws') : p.Adds r (ws ++ ws') := by
  obtain ⟨es, d, hjournal, hreport, haccount⟩ := h
  obtain ⟨es', d', hjournal', hreport', haccount'⟩ := h'
  refine ⟨es ++ es', d.plus d', ?_, ?_, haccount.append haccount'⟩
  · rw [hjournal', hjournal, List.append_assoc]
  · rw [hreport', hreport]
    simp [Report.plus, Nat.add_assoc]

/-- Where no entry was made and nothing was counted of what is accounted for. -/
theorem Adds.of_count {d : Report} (hjournal : q.journal = p.journal)
    (hreport : q.report = p.report.plus d)
    (hd : d.undecodable = 0 ∧ d.ceilings = 0 ∧ d.abandoned = 0) : p.Adds q [] :=
  ⟨[], d, by rw [hjournal, List.append_nil], hreport, Account.of_none (by simp) hd⟩

theorem Adds.refl (p : Progress σ) : p.Adds p [] :=
  Adds.of_count rfl (d := Report.zero) rfl ⟨rfl, rfl, rfl⟩

end Progress

/-! ## Pages -/

theorem Event.kind?_of_line {format : OutputFormat} {e : Event} {entry : Entry}
    (h : Event.line format e = .error entry) : entry.kind? = some .undecodable := by
  rcases Event.line_eq_error h with ⟨problem, rfl⟩ | ⟨block, problem, rfl⟩ <;> rfl

theorem Config.kind?_of_mem_unread {c : Config} {es : List Envelope} :
    ∀ e ∈ c.unread es, e.kind? = some .undecodable := by
  intro e he
  obtain ⟨event, -, hevent⟩ := List.mem_filterMap.mp he
  split at hevent
  · rename_i entry hline
    obtain rfl := Option.some.inj hevent
    exact Event.kind?_of_line hline
  · cases hevent

namespace Setup

variable {σ : Type} {u : Setup σ}

/-- **What an envelope adds** is accounted for: its logs that cannot be read, and the window
being given up. -/
theorem account_pageEntries (w : Window) (page : Nat) (e : Envelope) :
    Account (u.pageEntries w page e) (Report.ofEnvelope u.config u.template.pageSize e) [] := by
  have hread : Account (u.config.unread [e])
      { Report.zero with undecodable := (u.config.unread [e]).length } [] :=
    Account.of_forall Config.kind?_of_mem_unread (by decide) (by decide) rfl rfl rfl
  by_cases h0 : e.status = ['0']
  · have hempty : e.isEmpty = true := by simp [Envelope.isEmpty, h0]
    have hlines := lines_of_empty u.config h0
    by_cases hm : saysNoRecords e.message = true
    · have hend : e.ending? u.template.pageSize = some .exhausted :=
        Envelope.ending?_of_noRecords h0 (Envelope.saysNoRecords_iff.mp hm)
      rw [pageEntries, if_pos hempty, if_pos hm]
      exact Account.of_none (by simp) (by simp [Report.ofEnvelope, hend, hlines])
    · have hend : e.ending? u.template.pageSize = some .abandoned :=
        Envelope.ending?_of_refused h0 (mt Envelope.saysNoRecords_iff.mpr hm)
      rw [pageEntries, if_pos hempty, if_neg hm]
      exact Account.of_forall (o := some .refused) (by simp [Entry.kind?]) (by decide) (by decide)
        (by simp [Report.ofEnvelope, hlines]) rfl (by simp [Report.ofEnvelope, hend])
  · have hempty : e.isEmpty = false := by simp [Envelope.isEmpty, h0]
    rw [pageEntries, hempty]
    simp only [Bool.false_eq_true, if_false]
    cases hc : LogBatch.classify e.result with
    | truncated logs malformed received =>
        have hend : e.ending? u.template.pageSize = some .abandoned := by
          simp [Envelope.ending?, hempty, hc]
        have hmalformed : Account [.malformed malformed] { Report.zero with abandoned := 1 } [] :=
          Account.of_forall (o := some .malformed) (by simp [Entry.kind?]) (by decide) (by decide)
            rfl rfl rfl
        refine (hread.append hmalformed).congr rfl rfl ?_
        simp [Report.ofEnvelope, hend, Report.plus, Report.zero]
    | complete logs =>
        have hend : e.ending? u.template.pageSize ≠ some .abandoned := by
          simp only [Envelope.ending?, hempty, hc, Bool.false_eq_true, if_false]
          split <;> simp
        rw [List.append_nil]
        exact hread.congr rfl rfl (if_neg hend)

/-! ## Steps of a scan -/

section Steps

variable {w : Window} {left page first : Nat} {free : Bool} {p p' : Progress σ}

/-- A question says at most that it was asked again. -/
theorem adds_asked (r : PageRequest) (p : Progress σ) : p.Adds (u.asked r p) [] := by
  refine ⟨_, Report.zero, rfl, rfl, Account.of_none (fun e he => ?_) ⟨rfl, rfl, rfl⟩⟩
  obtain ⟨i, f, rfl⟩ := eq_retrying_of_mem_retryEntries he
  rfl

theorem adds_received (w : Window) (page : Nat) (e : Envelope) (p : Progress σ) :
    p.Adds (u.received w page e p) [] :=
  ⟨_, _, rfl, rfl, account_pageEntries w page e⟩

/-- **The pages of a window** that comes to its end add what they are counted for. -/
theorem adds_scanPages {windowEnd : WindowEnd}
    (h : u.scanPages w left page p = (p', .ok windowEnd)) : p.Adds p' [] := by
  induction left generalizing page p with
  | zero =>
      obtain ⟨rfl, -⟩ := Prod.mk.inj h
      exact Progress.Adds.refl p
  | succ left ih =>
      -- a window that comes to its end has an envelope, and the sink has taken its lines
      cases he : (u.courseOf w page p).last.envelope? with
      | none =>
          obtain ⟨problem, hp⟩ := scanPages_unanswered left he
          rw [hp] at h
          cases h
      | some e =>
          cases hw : (p.sink.write (u.config.bytes [e])).2 with
          | error problem =>
              obtain ⟨q, hp, -⟩ := scanPages_refused left he (Prod.ext rfl hw)
              rw [hp] at h
              cases h
          | ok _ =>
              have hstep : p.Adds (u.received w page e (u.askedFor w page p)) [] :=
                (adds_asked _ p).trans (adds_received w page e _)
              rw [scanPages_received left he hw] at h
              cases hend : e.ending? u.template.pageSize with
              | some ending =>
                  rw [hend] at h
                  obtain ⟨rfl, -⟩ := Prod.mk.inj h
                  exact hstep
              | none =>
                  rw [hend] at h
                  simp only at h
                  split at h
                  · obtain ⟨rfl, -⟩ := Prod.mk.inj h
                    have hceiling : Account [.ceiling w u.config.maxResults.toNat]
                        ⟨0, 0, 0, 0, 0, 1, 0⟩ [] :=
                      Account.of_forall (o := some .ceiling) (by simp [Entry.kind?]) (by decide)
                        (by decide) rfl rfl rfl
                    exact hstep.trans ⟨_, _, rfl, rfl, hceiling⟩
                  · have hthrottle : (u.received w page e (u.askedFor w page p)).Adds
                        ((u.received w page e (u.askedFor w page p)).count
                          fun r => { r with throttles := r.throttles + 1 }) [] :=
                      Progress.Adds.of_count (d := ⟨0, 0, 0, 0, 1, 0, 0⟩) rfl rfl ⟨rfl, rfl, rfl⟩
                    exact (hstep.trans hthrottle).trans (ih h)

/-- After a window, an entry says that the checkpoint is held there, if it was free so far and
is no longer so. -/
theorem adds_settle {windowEnd : WindowEnd} {free' : Bool}
    (h : u.settle w windowEnd free p = (p', .ok free')) :
    p.Adds p' (if free = true ∧ free' = false then [w] else []) := by
  cases free with
  | false =>
      obtain ⟨rfl, -⟩ : p = p' ∧ _ := by
        cases windowEnd <;> exact Prod.mk.inj h
      exact Progress.Adds.refl p
  | true =>
      cases windowEnd with
      | completed =>
          obtain ⟨rfl, hfree⟩ := Prod.mk.inj h
          obtain rfl := Except.ok.inj hfree
          exact Progress.Adds.of_count (d := Report.zero) rfl rfl ⟨rfl, rfl, rfl⟩
      | incomplete =>
          obtain ⟨rfl, hfree⟩ := Prod.mk.inj h
          obtain rfl := Except.ok.inj hfree
          exact ⟨[.held w], Report.zero, rfl, rfl, rfl, rfl, rfl, rfl, rfl⟩

theorem adds_scanWindow {free' : Bool} (h : u.scanWindow w free p = (p', .ok free')) :
    p.Adds p' (if free = true ∧ free' = false then [w] else []) := by
  cases hq : u.scanPages w u.template.maxPages 1 p with
  | mk q result =>
      cases result with
      | error problem =>
          rw [scanWindow, hq] at h
          cases h
      | ok windowEnd =>
          by_cases hf : q.sink.failingFlush = some q.sink.flushes
          · rw [scanWindow_flush_failed free hq hf] at h
            cases h
          · rw [scanWindow_flushed free hq hf] at h
            have hflushed : q.Adds (flushed q) [] :=
              Progress.Adds.of_count (d := ⟨1, 0, 0, 0, 0, 0, 0⟩) rfl rfl ⟨rfl, rfl, rfl⟩
            exact ((adds_scanPages hq).trans hflushed).trans (adds_settle h)

/-- **The windows of a scan** that comes to its end add what they are counted for; and if the
checkpoint is free before them, an entry that it is held at the first of them that was not
completed. -/
theorem adds_scanWindows (hmax : 0 < u.template.maxPages)
    (hsize : u.template.pageSize = u.config.pageSize.toNat)
    (h : u.scanWindows left first free p = (p', .ok ())) :
    let ws := Window.row u.config.blockRange.toNat left first
    ∃ xs, p'.exchanges = p.exchanges ++ xs ∧ (∀ x ∈ xs, ∃ w ∈ ws, x.isAbout w = true) ∧
      p.Adds p'
        (if free then (ws.filter fun w => ¬ u.config.Completed xs w).take 1 else []) := by
  intro ws
  induction left generalizing first free p with
  | zero =>
      obtain ⟨rfl, -⟩ := Prod.mk.inj h
      refine ⟨[], (List.append_nil _).symm, by simp, ?_⟩
      have hnil : (if free then (ws.filter fun w => ¬ u.config.Completed [] w).take 1 else [])
          = [] := by
        split <;> rfl
      rw [hnil]
      exact Progress.Adds.refl p
  | succ left ih =>
      let w := Window.starting u.config.blockRange.toNat first
      rw [scanWindows_succ] at h
      rcases scanWindow_cases hmax (u.answered_any w) free p with
        ⟨p₁, xs, ending, hp, hf⟩ | ⟨p₁, xs, problem, hp, -⟩
      · rw [hp] at h
        obtain ⟨ys, hys, habout, hrest⟩ := ih h
        obtain ⟨hw, -⟩ := List.nodup_cons.mp
          (Window.row_nodup u.config.blockRange.toNat (left + 1) first)
        have hcompleted := hf.completed_iff hsize (not_about_of_notMem hw habout)
        refine ⟨xs ++ ys, ?_, about_append hf.about habout, ?_⟩
        · rw [hys, hf.exchanges, List.append_assoc]
        · have hfilter : ws.filter (fun w' => ¬ u.config.Completed (xs ++ ys) w')
              = (if ending = .exhausted then [] else [w]) ++
                (Window.row u.config.blockRange.toNat left
                  (first + max u.config.blockRange.toNat 1)).filter
                    fun w' => ¬ u.config.Completed ys w' := by
            rw [← filter_not_completed hf.about hw]
            by_cases hending : ending = .exhausted
            · rw [if_pos hending, List.nil_append]
              exact List.filter_cons_of_neg (by simpa using hcompleted.mpr hending)
            · rw [if_neg hending, List.singleton_append]
              exact List.filter_cons_of_pos (by simpa using mt hcompleted.mp hending)
          rw [hfilter]
          have hadds := (adds_scanWindow hp).trans hrest
          -- the checkpoint is held here, or behind this window if it is still free there
          cases free with
          | false => simpa using hadds
          | true => by_cases hending : ending = .exhausted <;> simpa [hending] using hadds
      · rw [hp] at h
        cases h

end Steps

/-- A row with a window asks about this window first. -/
theorem Swept.first_about {answers : Window → Nat → Envelope → Prop} {w : Window}
    {ws : List Window} {free : Bool} {p p' : Progress σ} {result : Except ScanProblem Unit}
    (h : u.Swept answers (w :: ws) free p p' result) :
    ∃ x xs, p'.exchanges = p.exchanges ++ x :: xs ∧ x.isAbout w = true := by
  cases h with
  | @halt _ _ _ _ _ xs problem halted =>
      obtain ⟨x, xs, rfl⟩ := List.exists_cons_of_ne_nil halted.nonempty
      exact ⟨x, xs, halted.exchanges, halted.about x List.mem_cons_self⟩
  | @next _ _ _ _ p₁ _ xs ending _ finished rest =>
      have hne : xs ≠ [] := by
        rintro rfl
        exact finished.pages.ne_nil rfl
      obtain ⟨x, xs, rfl⟩ := List.exists_cons_of_ne_nil hne
      obtain ⟨ys, hys, -⟩ := rest.exchanges
      refine ⟨x, xs ++ ys, ?_, finished.about x List.mem_cons_self⟩
      rw [hys, finished.exchanges, List.append_assoc, List.cons_append]

end Setup

/-! ## Whole scans -/

namespace Setup

theorem kind?_of_mem_closing {r : Report} {e : Entry} (h : e ∈ closing r) :
    e.kind? = none ∨ e.kind? = some .closing := by
  rcases List.mem_cons.mp h with rfl | h
  · exact Or.inl rfl
  · right
    rw [List.mem_append, List.mem_append] at h
    rcases h with (h | h) | h
    all_goals
      split at h
      · rw [List.mem_singleton.mp h]
        rfl
      · cases h

/-- What is counted while a scan goes on is not counted again at its end. -/
theorem ofKind_closing {k : Entry.Kind} (hopen : k ≠ .closing) (r : Report) :
    Entry.ofKind k (closing r) = [] := by
  refine List.filter_eq_nil_iff.mpr fun e he => ?_
  rw [decide_eq_true_eq]
  intro hk
  rcases kind?_of_mem_closing he with h | h
  · cases hk.symm.trans h
  · exact hopen (Option.some.inj (hk.symm.trans h))

/-- **The closing warnings** are those about the counts that are not zero. -/
theorem linesOf_closing (r : Report) :
    Entry.linesOf .closing (closing r)
      = (if 0 < r.undecodable then
          [(Level.warn, (toString r.undecodable ++ " deposit logs could not be decoded").toList)]
        else []) ++
        (if 0 < r.ceilings then
          [(Level.warn, (toString r.ceilings
            ++ " windows hit the result ceiling and may be incomplete").toList)]
        else []) ++
        (if 0 < r.abandoned then
          [(Level.warn,
            (toString r.abandoned ++ " windows were refused or malformed and were skipped").toList)]
        else []) := by
  rw [Entry.linesOf_eq]
  unfold closing
  split_ifs <;> rfl

end Setup

/-- The opening entries account for nothing. -/
theorem Config.account_opening (c : Config) (store : Option Checkpoint.Store) :
    Account (c.opening store) Report.zero [] := by
  refine Account.of_none (fun e he => ?_) ⟨rfl, rfl, rfl⟩
  unfold opening at he
  split at he
  · simp only [List.cons_append, List.nil_append, List.mem_cons, List.not_mem_nil, or_false] at he
    rcases he with rfl | rfl <;> rfl
  · simp only [List.nil_append, List.mem_singleton] at he
    subst he
    rfl

section Scan

variable {σ : Type} {c : Config} {explorer : Explorer σ} {s : σ} {sink : Sink}
  {store : Option Checkpoint.Store} {report : Report}

/-- **The journal of a scan** that comes to its end accounts for its report, and says that the
checkpoint is held at the first window that was not completed, if a store is used. -/
theorem scan_account (h : (scan c explorer (Progress.start s sink store)).2 = .ok report) :
    let p := (scan c explorer (Progress.start s sink store)).1
    ∃ es, p.journal = es ++ Setup.closing report ∧
      Account es report (if store.isSome then
        ((c.windows store).filter fun w => ¬ c.Completed p.exchanges w).take 1 else []) := by
  intro p
  have hc := problem?_of_scan_ok h
  have hmax : 0 < (Setup.ofConfig c explorer).template.maxPages :=
    (Config.fits_of_problem? hc).maxPages_pos
  have hscan := scan_eq hc explorer (readable_of_scan_ok h) s sink
  rcases hr : (Setup.ofConfig c explorer).scanWindows (c.windowCount store)
    (c.firstBlock store) store.isSome (c.opened s sink store) with ⟨q, problem | _⟩
  · rw [hscan, hr] at h
    cases h
  · rw [hr] at hscan
    have hp : p = { q with journal := q.journal ++ Setup.closing q.report } :=
      congrArg Prod.fst hscan
    rw [hscan] at h
    obtain rfl : q.report = report := Except.ok.inj h
    obtain ⟨xs, hxs, -, es, d, hjournal, hreport, haccount⟩ :=
      Setup.adds_scanWindows hmax rfl hr
    have hexchanges : q.exchanges = xs := hxs
    refine ⟨c.opening store ++ es, ?_, ?_⟩
    · rw [hp]
      show q.journal ++ _ = _
      rw [hjournal]
      rfl
    · rw [hp]
      simp only [hexchanges]
      rw [hreport]
      exact (c.account_opening store).append haccount

/-- A scan that comes to its end leaves the checkpoint behind the windows before the first one
that was not completed. -/
theorem scan_store_held {store : Checkpoint.Store} {k : Nat} {w : Window}
    (h : (scan c explorer (Progress.start s sink (some store))).2 = .ok report)
    (hall : ∀ w' ∈ (c.windows (some store)).take k,
      c.Completed (scan c explorer (Progress.start s sink (some store))).1.exchanges w')
    (hw : (c.windows (some store))[k]? = some w)
    (hno : ¬ c.Completed (scan c explorer (Progress.start s sink (some store))).1.exchanges w) :
    (scan c explorer (Progress.start s sink (some store))).1.store
      = some (c.marked ((c.windows (some store)).take k) store) := by
  have hc := problem?_of_scan_ok h
  obtain ⟨n, hn, hstore⟩ := scan_store hc explorer s sink store
  have hlength : k < (c.windows (some store)).length := (List.getElem?_eq_some_iff.mp hw).1
  have hle : k ≤ n := by
    apply hn.2
    intro i hi
    have hget := List.getElem?_eq_getElem (l := c.windows (some store)) (show i < _ by omega)
    refine ⟨_, hget, hall _ ?_, scan_flushed hc h i (by omega)⟩
    exact List.mem_of_getElem? ((List.getElem?_take_of_lt hi).trans hget)
  have hge : n ≤ k := by
    by_contra hlt
    obtain ⟨w', hw', hcompleted, -⟩ := hn.1 k (by omega)
    obtain rfl := Option.some.inj (hw.symm.trans hw')
    exact hno hcompleted
  obtain rfl : n = k := Nat.le_antisymm hge hle
  exact hstore

/-- A scan that begins at a window asks about it first. -/
theorem scan_first_about (hc : c.problem? = none) (explorer : Explorer σ) (s : σ) (sink : Sink)
    (hr : c.Readable store) {w : Window} {ws : List Window} (hws : c.windows store = w :: ws) :
    ∃ x, (scan c explorer (Progress.start s sink store)).1.exchanges.head? = some x ∧
      x.isAbout w = true := by
  obtain ⟨j, j', p', result, hswept, hscan⟩ :=
    scan_swept hc (Setup.ofConfig c explorer).answered_any hr s sink
  rw [hws] at hswept
  obtain ⟨x, xs, hxs, hx⟩ := hswept.first_about
  have hexchanges : p'.exchanges = x :: xs := hxs
  rw [hscan]
  exact ⟨x, congrArg List.head? hexchanges, hx⟩

/-- **Where the next scan begins** after one that has held the checkpoint at window `k`: with this
window, or with the first one again, by the row that is found. -/
theorem scan_goes_on {store : Checkpoint.Store} {k : Nat} {w : Window}
    (h : (scan c explorer (Progress.start s sink (some store))).2 = .ok report)
    (hall : ∀ w' ∈ (c.windows (some store)).take k,
      c.Completed (scan c explorer (Progress.start s sink (some store))).1.exchanges w')
    (hw : (c.windows (some store))[k]? = some w)
    (hno : ¬ c.Completed (scan c explorer (Progress.start s sink (some store))).1.exchanges w)
    (hbits : ∀ w' ∈ c.windows (some store), w'.stop < 2 ^ 63) :
    let p := (scan c explorer (Progress.start s sink (some store))).1
    ∃ i w₁, (c.Lowered store → i = k) ∧ (¬ c.Lowered store → i = 0) ∧
      (c.windows (some store))[i]? = some w₁ ∧
      c.windows p.store = (c.windows (some store)).drop i ∧
      ∀ {τ : Type} (explorer' : Explorer τ) (s' : τ) (sink' : Sink),
        ∃ x, (scan c explorer' (Progress.start s' sink' p.store)).1.exchanges.head? = some x ∧
          x.isAbout w₁ = true := by
  intro p
  have hc := problem?_of_scan_ok h
  have hk : k < (c.windows (some store)).length := (List.getElem?_eq_some_iff.mp hw).1
  obtain ⟨i, hik, hlow, hnotlow, hwindows⟩ :=
    Config.exists_windows_marked hc hbits (Nat.le_of_lt hk)
  have hstore : p.store = some (c.marked ((c.windows (some store)).take k) store) :=
    scan_store_held h hall hw hno
  have hr : c.Readable p.store := by
    rw [hstore]
    exact c.readable_marked (readable_of_scan_ok h) _
  rw [← hstore] at hwindows
  -- there is a window at which it begins, since window `k` is left
  have hi : i < (c.windows (some store)).length := by omega
  refine ⟨i, _, hlow, hnotlow, List.getElem?_eq_getElem hi, hwindows, fun explorer' s' sink' => ?_⟩
  rw [List.drop_eq_getElem_cons hi] at hwindows
  exact scan_first_about hc explorer' s' sink' hr hwindows

end Scan

/-- The first entry with a property stands behind others that have it not. -/
theorem exists_first_of_mem_take {α : Type*} {d : α → Bool} {l : List α} {a : α}
    (h : a ∈ (l.filter d).take 1) :
    ∃ k, l[k]? = some a ∧ (∀ b ∈ l.take k, d b = false) ∧ d a = true := by
  have hhead : l.find? d = some a := by
    rw [← List.head?_filter]
    cases hl : l.filter d with
    | nil => simp [hl] at h
    | cons b rest =>
        obtain rfl : a = b := by simpa [hl] using h
        rfl
  obtain ⟨ha, front, back, rfl, hfront⟩ := List.find?_eq_some_iff_append.mp hhead
  refine ⟨front.length, by simp, fun b hb => ?_, ha⟩
  rw [List.take_left] at hb
  simpa using hfront b hb

/-- **The journal, the report and the checkpoint of a scan tell the same.** Of a scan that comes
to its end the report counts the lines about logs that were undecodable, about windows at the
ceiling, and about windows that were refused or malformed; and the lines with which the scan
closes are a warning for each of these counts that is not zero, with its value.

If a store is used and a window was not completed, one line says that the checkpoint is held, and
otherwise none does. The block and the window that it names are those of the first window that was
not completed. As long as the ends of the windows have 63 bits, the next scan with the store goes
on with this window and asks about it first, if the row that is found in the store is the one that
is moved. If it is not, the next scan begins with the first window again. -/
theorem scan_accounted {σ : Type} (c : Config) (explorer : Explorer σ) (s : σ) (sink : Sink)
    (store : Option Checkpoint.Store) (report : Report)
    (hok : (scan c explorer (Progress.start s sink store)).2 = .ok report) :
    let p := (scan c explorer (Progress.start s sink store)).1
    let ws := c.windows store
    (Entry.linesOf .undecodable p.journal).length = report.undecodable ∧
      (Entry.linesOf .ceiling p.journal).length = report.ceilings ∧
      (Entry.linesOf .refused p.journal).length + (Entry.linesOf .malformed p.journal).length
        = report.abandoned ∧
      Entry.linesOf .closing p.journal
        = (if 0 < report.undecodable then
            [(Level.warn,
              (toString report.undecodable ++ " deposit logs could not be decoded").toList)]
          else []) ++
          (if 0 < report.ceilings then
            [(Level.warn, (toString report.ceilings
              ++ " windows hit the result ceiling and may be incomplete").toList)]
          else []) ++
          (if 0 < report.abandoned then
            [(Level.warn, (toString report.abandoned
              ++ " windows were refused or malformed and were skipped").toList)]
          else []) ∧
      (¬ (store.isSome ∧ 0 < report.ceilings + report.abandoned) →
        Entry.linesOf .held p.journal = []) ∧
      ∀ t ∈ store, 0 < report.ceilings + report.abandoned → ∃ k w, ws[k]? = some w ∧
        (∀ w' ∈ ws.take k, c.Completed p.exchanges w') ∧ ¬ c.Completed p.exchanges w ∧
        Entry.linesOf .held p.journal
          = [(Level.warn, ("Checkpoint held at block " ++ toString w.first ++ ": window "
              ++ (toString w.first ++ "-" ++ toString w.stop)
              ++ " was not fully scanned").toList)] ∧
        ((∀ w' ∈ ws, w'.stop < 2 ^ 63) → ∃ i w₁,
          (c.Lowered t → i = k) ∧ (¬ c.Lowered t → i = 0) ∧ ws[i]? = some w₁ ∧
            c.windows p.store = ws.drop i ∧
            ∀ {τ : Type} (explorer' : Explorer τ) (s' : τ) (sink' : Sink),
              ∃ x, (scan c explorer' (Progress.start s' sink' p.store)).1.exchanges.head? = some x ∧
                x.isAbout w₁ = true) := by
  intro p ws
  have hc := problem?_of_scan_ok hok
  obtain ⟨es, hjournal, haccount⟩ := scan_account hok
  change p.journal = es ++ Setup.closing report at hjournal
  obtain ⟨-, -, hlost⟩ := scan_counts hc explorer s sink store report hok
  change _ = (ws.filter fun w => ¬ c.Completed p.exchanges w).length at hlost
  -- what is counted, and where the checkpoint is held, is said before the closing entries
  have hlines : ∀ k : Entry.Kind, k ≠ .closing →
      Entry.linesOf k p.journal = (Entry.ofKind k es).map Entry.line := by
    intro k hopen
    rw [hjournal, Entry.linesOf_eq, Entry.ofKind_append, Setup.ofKind_closing hopen,
      List.append_nil]
  have hlength : ∀ k : Entry.Kind, k ≠ .closing →
      (Entry.linesOf k p.journal).length = (Entry.ofKind k es).length := by
    intro k hopen
    rw [hlines k hopen, List.length_map]
  have hclosing : Entry.linesOf .closing p.journal
      = Entry.linesOf .closing (Setup.closing report) := by
    rw [hjournal, Entry.linesOf_append, Entry.linesOf_eq .closing es, haccount.unclosed,
      List.map_nil, List.nil_append]
  refine ⟨?_, ?_, ?_, hclosing.trans (Setup.linesOf_closing report), ?_, ?_⟩
  · exact (hlength .undecodable (by decide)).trans haccount.undecodable
  · exact (hlength .ceiling (by decide)).trans haccount.ceilings
  · rw [hlength .refused (by decide), hlength .malformed (by decide)]
    exact haccount.abandoned
  · intro hnone
    rw [hlines .held (by decide), haccount.held]
    by_cases hstore : store.isSome
    · have hzero : (ws.filter fun w => ¬ c.Completed p.exchanges w).length = 0 := by
        rw [← hlost]
        exact Nat.eq_zero_of_not_pos fun hpos => hnone ⟨hstore, hpos⟩
      rw [if_pos hstore, List.length_eq_zero_iff.mp hzero]
      rfl
    · rw [if_neg hstore]
      rfl
  · intro t ht hpos
    obtain rfl : store = some t := ht
    rw [hlost] at hpos
    obtain ⟨w, rest, hfirst⟩ := List.exists_cons_of_length_pos hpos
    have hmem : w ∈ (ws.filter fun w => ¬ c.Completed p.exchanges w).take 1 := by
      rw [hfirst]
      exact List.mem_cons_self
    obtain ⟨k, hk, hall, hno⟩ := exists_first_of_mem_take hmem
    have hcompleted : ∀ w' ∈ ws.take k, c.Completed p.exchanges w' := fun w' hw' => by
      simpa using hall w' hw'
    have hincomplete : ¬ c.Completed p.exchanges w := by simpa using hno
    refine ⟨k, w, hk, hcompleted, hincomplete, ?_, scan_goes_on hok hcompleted hk hincomplete⟩
    rw [hlines .held (by decide), haccount.held]
    show List.map _ (List.map _ ((ws.filter fun w => ¬ c.Completed p.exchanges w).take 1)) = _
    rw [hfirst]
    rfl

/-- Four windows: one with a deposit; one at the ceiling, with a deposit and a log that is none;
one that is refused; and one with a malformed log. The next scan asks about the second one
first. -/
theorem scan_accounted_four_windows :
    let c : Config := { Config.default [] with
      fromBlock := 0, toBlock := 40, blockRange := 10, pageSize := 2, maxResults := 2 }
    let deposit : Text → RawLog := .emptyDeposit c.eventTopic
    let f : PageRequest → Attempt := fun r =>
      (if r.fromBlock = 0 then Reply.ofLogs [deposit "0x3".toList]
        else if r.fromBlock = 10 then
          .ofLogs [deposit "0xc".toList, { deposit "0xd".toList with data := [] }]
        else if r.fromBlock = 20 then .saying ⟨['0'], "Max rate limit reached".toList, .null⟩
        else .saying ⟨['1'], "OK".toList, .arr [.null]⟩).attempt
    let r := scan c (Explorer.answering f) (Progress.start () Sink.unlimited (some []))
    r.2 = .ok ⟨4, 4, 2, 1, 0, 1, 2⟩ ∧ (∀ w ∈ c.windows (some []), w.stop < 2 ^ 63) ∧
      (Entry.linesOf .undecodable r.1.journal).length = 1 ∧
      (Entry.linesOf .ceiling r.1.journal).length = 1 ∧
      (Entry.linesOf .refused r.1.journal).length + (Entry.linesOf .malformed r.1.journal).length
        = 2 ∧
      Entry.linesOf .closing r.1.journal
        = [(.warn, "1 deposit logs could not be decoded".toList),
          (.warn, "1 windows hit the result ceiling and may be incomplete".toList),
          (.warn, "2 windows were refused or malformed and were skipped".toList)] ∧
      Entry.linesOf .held r.1.journal
        = [(.warn, "Checkpoint held at block 10: window 10-20 was not fully scanned".toList)] ∧
      ∃ x, (scan c (Explorer.answering f)
          (Progress.start () Sink.unlimited r.1.store)).1.exchanges.head? = some x ∧
        x.isAbout ⟨10, 20⟩ = true := by
  intro c deposit f r
  have hruns : r.2.toOption = some ⟨4, 4, 2, 1, 0, 1, 2⟩ ∧
      c.Completed r.1.exchanges ⟨0, 10⟩ ∧ ¬ c.Completed r.1.exchanges ⟨10, 20⟩ := by
    decide +kernel
  have hws : c.windows (some []) = [⟨0, 10⟩, ⟨10, 20⟩, ⟨20, 30⟩, ⟨30, 40⟩] := by decide
  have hbits : ∀ w ∈ c.windows (some []), w.stop < 2 ^ 63 := by decide
  have hlow : c.Lowered [] := Checkpoint.Store.written_nil.lowered _ _
  -- from here on nothing depends on what the scan is like
  clear_value c f
  obtain ⟨hok, hfirst, hsecond⟩ := hruns
  have hr : r.2 = .ok ⟨4, 4, 2, 1, 0, 1, 2⟩ := eq_ok_of_toOption hok
  obtain ⟨hundecodable, hceilings, habandoned, hclosing, -, hheld⟩ :=
    scan_accounted c (Explorer.answering f) () Sink.unlimited (some []) _ hr
  obtain ⟨k, w, hk, hall, hno, hline, hnext⟩ := hheld [] rfl (by decide)
  obtain ⟨i, w₁, hik, -, hw₁, -, hask⟩ := hnext hbits
  obtain rfl : i = k := hik hlow
  obtain rfl : w = w₁ := Option.some.inj (hk.symm.trans hw₁)
  -- the second window is the first one that was not completed
  rw [hws] at hk hall
  obtain rfl : i = 1 := by
    rcases i with - | - | i
    · obtain rfl : (⟨0, 10⟩ : Window) = w := Option.some.inj hk
      exact absurd hfirst hno
    · rfl
    · exact absurd (hall ⟨10, 20⟩ (by simp)) hsecond
  obtain rfl : (⟨10, 20⟩ : Window) = w := Option.some.inj hk
  refine ⟨hr, hbits, hundecodable, hceilings, habandoned, hclosing.trans ?_, hline.trans ?_,
    hask (Explorer.answering f) () Sink.unlimited⟩
  · decide +kernel
  · decide +kernel

/-- Where the row of the store has capitals in its key, the checkpoint is said to be held at the
second window, which the explorer refuses, but the next scan begins with the first window again. -/
theorem scan_accounted_from_the_start :
    let c : Config := { Config.default [] with fromBlock := 0, toBlock := 20, blockRange := 10 }
    let store : Checkpoint.Store := [⟨"0x0B98057eA310F4d31F2a452B414647007d1645d9".toList,
      c.eventTopic.toText, .whole 0, .stated []⟩]
    let f : PageRequest → Attempt := fun r =>
      (if r.fromBlock = 0 then Reply.ofLogs [.emptyDeposit c.eventTopic "0x3".toList]
        else .saying ⟨['0'], "Max rate limit reached".toList, .null⟩).attempt
    let r := scan c (Explorer.answering f) (Progress.start () Sink.unlimited (some store))
    let r' := scan c (Explorer.answering f) (Progress.start () Sink.unlimited r.1.store)
    c.problem? = none ∧ r.2.toOption = some ⟨2, 2, 1, 0, 0, 0, 1⟩ ∧
      c.windows (some store) = [⟨0, 10⟩, ⟨10, 20⟩] ∧
      c.Completed r.1.exchanges ⟨0, 10⟩ ∧ ¬ c.Completed r.1.exchanges ⟨10, 20⟩ ∧
      Entry.linesOf .held r.1.journal
        = [(.warn, "Checkpoint held at block 10: window 10-20 was not fully scanned".toList)] ∧
      r'.1.exchanges.head?.map (Exchange.isAbout ⟨0, 10⟩) = some true := by
  intro c store f r r'
  have hc : c.problem? = none := by decide
  -- the row is found, and it is not the one that is moved
  obtain ⟨hcursor, hlow⟩ : c.cursor? store = some 0 ∧ ¬ c.Lowered store :=
    Config.capitals_of_default rfl
  have hfirst : c.firstBlock (some store) = 0 := Config.firstBlock_of_cursor? hcursor (by decide)
  have hws : c.windows (some store) = [⟨0, 10⟩, ⟨10, 20⟩] := by
    rw [Config.windows, hfirst]
    decide
  have hopened : c.opened () Sink.unlimited (some store)
      = { Progress.start () Sink.unlimited (some store) with
          journal := [.scanning c.contract 0 20 10] } := by
    rw [Config.opened, Config.opening, hfirst]
    rfl
  have hr : r = _ := scan_eq_of_cursor hc hcursor (Nat.le_refl 0) (Explorer.answering f) () _
  obtain ⟨store', hr'⟩ : ∃ store', r' = Progress.overStore store' r :=
    scan_again_of_not_lowered hc hlow (Explorer.answering f) () Sink.unlimited
      (Explorer.answering f) () Sink.unlimited
  have hruns : r.2.toOption = some ⟨2, 2, 1, 0, 0, 0, 1⟩ ∧
      c.Completed r.1.exchanges ⟨0, 10⟩ ∧ ¬ c.Completed r.1.exchanges ⟨10, 20⟩ ∧
      Entry.linesOf .held r.1.journal
        = [(.warn, "Checkpoint held at block 10: window 10-20 was not fully scanned".toList)] ∧
      r.1.exchanges.head?.map (Exchange.isAbout ⟨0, 10⟩) = some true := by
    rw [hr, hopened]
    decide +kernel
  clear_value r r'
  obtain ⟨hok, hcompleted, hno, hline, hagain⟩ := hruns
  rw [hr', Progress.exchanges_overStore]
  exact ⟨hc, hok, hws, hcompleted, hno, hline, hagain⟩

end DepositTrail
