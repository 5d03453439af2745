import DepositTrail.Proofs.PageLines
import Mathlib.Data.List.Basic

set_option autoImplicit false

/-! # The course of a window

A window is gone through page by page until an envelope decides how it ends, or until the last
page that the explorer serves is full. `Pages` is this rule on the envelopes alone: which
sequences of them are a whole window, and how such a window ends. `Begun` is the same for a
window that was broken off.

What the scan of a window leaves behind is told by these envelopes. If it comes to an end, they
are the pages of a window (`Scanned`); if not, they are the beginning of one (`BrokenOff`); in
both cases the sink holds what it takes of their lines. No other law about scans looks into the
loop over the pages (`scanPages_cases`).

A window is never broken off where the explorer answers for each page that is asked for
(`Serves`) and the sink has no bounds.
-/

namespace DepositTrail

/-! ## How a window ends -/

/-- How the pages of a window have ended: the explorer had no more, the window was given up, or
the last page was full. -/
inductive Ending
  | exhausted
  | abandoned
  | ceiling
deriving Repr, DecidableEq

/-- Only a window of which there is no more is completed. -/
def Ending.windowEnd : Ending → WindowEnd
  | .exhausted => .completed
  | .abandoned | .ceiling => .incomplete

namespace Envelope

/-- What an envelope decides about its window. A full page decides nothing. -/
def ending? (size : Nat) (e : Envelope) : Option Ending :=
  if e.isEmpty then
    some (if Setup.saysNoRecords e.message then .exhausted else .abandoned)
  else
    match LogBatch.classify e.result with
    | .truncated _ _ _ => some .abandoned
    | .complete logs => if logs.length < size then some .exhausted else none

/-- There is no more for a window: the explorer says that it has no records, or its result is
an array of logs that do not fill the page. -/
def Exhausts (size : Nat) (e : Envelope) : Prop :=
  (e.status = ['0'] ∧ e.message.trim.lower = "no records found".toList) ∨
    (e.status ≠ ['0'] ∧ ∃ items, e.result = .arr items ∧ (∀ item ∈ items, item.isLog) ∧
      items.length < size)

/-- A page is full: an array of logs, and at least as many as a page has. -/
def IsFull (size : Nat) (e : Envelope) : Prop :=
  e.status ≠ ['0'] ∧ ∃ items, e.result = .arr items ∧ (∀ item ∈ items, item.isLog) ∧
    size ≤ items.length

theorem saysNoRecords_iff {message : Text} :
    Setup.saysNoRecords message = true ↔ message.trim.lower = "no records found".toList := by
  have hlower : Setup.noRecords.lower = "no records found".toList := by decide
  rw [Setup.saysNoRecords, hlower, decide_eq_true_eq]

section Status

variable {size : Nat} {e : Envelope}

theorem ending?_of_noRecords (h : e.status = ['0'])
    (hm : e.message.trim.lower = "no records found".toList) :
    e.ending? size = some .exhausted := by
  rw [ending?, if_pos (by simp [isEmpty, h]), if_pos (saysNoRecords_iff.mpr hm)]

theorem ending?_of_refused (h : e.status = ['0'])
    (hm : e.message.trim.lower ≠ "no records found".toList) :
    e.ending? size = some .abandoned := by
  rw [ending?, if_pos (by simp [isEmpty, h]), if_neg (mt saysNoRecords_iff.mp hm)]

theorem ending?_of_logs {items : List Json} (h : e.status ≠ ['0']) (hr : e.result = .arr items)
    (hlogs : ∀ item ∈ items, item.isLog) :
    e.ending? size = if items.length < size then some .exhausted else none := by
  have hlen : (items.filterMap RawLog.ofJson?).length = items.length := by
    rw [List.length_filterMap_eq_countP]
    exact List.countP_eq_length.mpr hlogs
  rw [ending?, if_neg (by simpa [isEmpty] using h), hr, LogBatch.classify_of_isLog hlogs]
  simp only [hlen]

theorem ending?_of_malformed (h : e.status ≠ ['0'])
    (hr : ¬ ∃ items, e.result = .arr items ∧ ∀ item ∈ items, item.isLog) :
    e.ending? size = some .abandoned := by
  rw [ending?, if_neg (by simpa [isEmpty] using h)]
  cases hc : LogBatch.classify e.result with
  | truncated logs malformed received => rfl
  | complete logs =>
      obtain ⟨items, hitems, hlogs, -⟩ := LogBatch.classify_eq_complete hc
      exact absurd ⟨items, hitems, hlogs⟩ hr

theorem ending?_eq_exhausted : e.ending? size = some .exhausted ↔ e.Exhausts size := by
  constructor
  · intro h
    by_cases h0 : e.status = ['0']
    · by_cases hm : e.message.trim.lower = "no records found".toList
      · exact Or.inl ⟨h0, hm⟩
      · rw [ending?_of_refused h0 hm] at h
        cases h
    · by_cases hr : ∃ items, e.result = .arr items ∧ ∀ item ∈ items, item.isLog
      · obtain ⟨items, hitems, hlogs⟩ := hr
        rw [ending?_of_logs h0 hitems hlogs] at h
        split at h
        · rename_i hlt
          exact Or.inr ⟨h0, items, hitems, hlogs, hlt⟩
        · cases h
      · rw [ending?_of_malformed h0 hr] at h
        cases h
  · rintro (⟨h0, hm⟩ | ⟨h0, items, hitems, hlogs, hlt⟩)
    · exact ending?_of_noRecords h0 hm
    · rw [ending?_of_logs h0 hitems hlogs, if_pos hlt]

theorem ending?_eq_none : e.ending? size = none ↔ e.IsFull size := by
  constructor
  · intro h
    by_cases h0 : e.status = ['0']
    · simp [ending?, isEmpty, h0] at h
    · by_cases hr : ∃ items, e.result = .arr items ∧ ∀ item ∈ items, item.isLog
      · obtain ⟨items, hitems, hlogs⟩ := hr
        rw [ending?_of_logs h0 hitems hlogs] at h
        split at h
        · cases h
        · rename_i hge
          exact ⟨h0, items, hitems, hlogs, Nat.le_of_not_lt hge⟩
      · rw [ending?_of_malformed h0 hr] at h
        cases h
  · rintro ⟨h0, items, hitems, hlogs, hge⟩
    rw [ending?_of_logs h0 hitems hlogs, if_neg (Nat.not_lt.mpr hge)]

end Status

/-- An envelope alone never reaches the ceiling. -/
theorem ending?_ne_ceiling {size : Nat} {e : Envelope} : e.ending? size ≠ some .ceiling := by
  unfold ending?
  split
  · split <;> simp
  · split
    · simp
    · split <;> simp

end Envelope

/-! ## The pages of a window -/

section Pages

variable (answers : Nat → Envelope → Prop) (size : Nat)

/-- The envelopes of a window, in the order of its pages, from a page on of which so many are
left; and how the window ends. `answers` says which envelope may come for which page. -/
inductive Pages : Nat → Nat → List Envelope → Ending → Prop
  | last {left page : Nat} {e : Envelope} {ending : Ending} (answer : answers page e)
      (decided : e.ending? size = some ending) : Pages (left + 1) page [e] ending
  | ceiling {page : Nat} {e : Envelope} (answer : answers page e)
      (full : e.ending? size = none) : Pages 1 page [e] .ceiling
  | next {left page : Nat} {e : Envelope} {es : List Envelope} {ending : Ending}
      (answer : answers page e) (full : e.ending? size = none)
      (rest : Pages (left + 1) (page + 1) es ending) : Pages (left + 2) page (e :: es) ending

/-- The envelopes of a window that was broken off. -/
inductive Begun : Nat → Nat → List Envelope → Prop
  | none {left page : Nat} : Begun left page []
  | last {left page : Nat} {e : Envelope} (answer : answers page e) : Begun (left + 1) page [e]
  | next {left page : Nat} {e : Envelope} {es : List Envelope} (answer : answers page e)
      (full : e.ending? size = .none) (rest : Begun left (page + 1) es) :
      Begun (left + 1) page (e :: es)

end Pages

section Pages

variable {answers : Nat → Envelope → Prop} {size : Nat}

theorem Pages.ne_nil {left page : Nat} {es : List Envelope} {ending : Ending}
    (h : Pages answers size left page es ending) : es ≠ [] := by
  cases h <;> simp

/-- A window is exhausted exactly when its last envelope says so. -/
theorem Pages.exhausted_iff {left page : Nat} {es : List Envelope} {ending : Ending}
    (h : Pages answers size left page es ending) :
    ending = .exhausted ↔ ∃ e, es.getLast? = some e ∧ e.Exhausts size := by
  induction h with
  | last answer decided =>
      simp [← Envelope.ending?_eq_exhausted, decided]
  | ceiling answer full =>
      simp [← Envelope.ending?_eq_exhausted, full]
  | next answer full rest ih =>
      rw [List.getLast?_cons_of_ne_nil rest.ne_nil]
      exact ih

/-- There are no more envelopes than pages. -/
theorem Pages.length_le {left page : Nat} {es : List Envelope} {ending : Ending}
    (h : Pages answers size left page es ending) : es.length ≤ left := by
  induction h with
  | last answer decided => simp
  | ceiling answer full => simp
  | next answer full rest ih => simpa using ih

/-- **Where each page has one answer, a window has one course.** -/
theorem Pages.functional (hf : ∀ page e e', answers page e → answers page e' → e = e')
    {left page : Nat} {es es' : List Envelope} {ending ending' : Ending}
    (h : Pages answers size left page es ending)
    (h' : Pages answers size left page es' ending') : es = es' ∧ ending = ending' := by
  -- the first envelopes are the same, and it depends on them alone whether there are others
  induction h generalizing es' ending' with
  | last answer decided =>
      cases h' with
      | last answer' decided' =>
          obtain rfl := hf _ _ _ answer answer'
          rw [decided] at decided'
          exact ⟨rfl, Option.some.inj decided'⟩
      | ceiling answer' full' =>
          obtain rfl := hf _ _ _ answer answer'
          simp [decided] at full'
      | next answer' full' rest' =>
          obtain rfl := hf _ _ _ answer answer'
          simp [decided] at full'
  | ceiling answer full =>
      cases h' with
      | last answer' decided' =>
          obtain rfl := hf _ _ _ answer answer'
          simp [full] at decided'
      | ceiling answer' full' =>
          obtain rfl := hf _ _ _ answer answer'
          exact ⟨rfl, rfl⟩
  | next answer full rest ih =>
      cases h' with
      | last answer' decided' =>
          obtain rfl := hf _ _ _ answer answer'
          simp [full] at decided'
      | next answer' full' rest' =>
          obtain rfl := hf _ _ _ answer answer'
          obtain ⟨rfl, rfl⟩ := ih rest'
          exact ⟨rfl, rfl⟩

/-- Where each page has one answer, a window that was broken off is a beginning of the
window. -/
theorem Begun.isPrefix (hf : ∀ page e e', answers page e → answers page e' → e = e')
    {left page : Nat} {es es' : List Envelope} {ending : Ending}
    (h : Begun answers size left page es') (h' : Pages answers size left page es ending) :
    es' <+: es := by
  -- the window may have been broken off anywhere, also behind its last envelope
  induction h generalizing es ending with
  | none => exact List.nil_prefix
  | last answer =>
      cases h' with
      | last answer' decided' =>
          obtain rfl := hf _ _ _ answer answer'
          exact List.prefix_refl _
      | ceiling answer' full' =>
          obtain rfl := hf _ _ _ answer answer'
          exact List.prefix_refl _
      | next answer' full' rest' =>
          obtain rfl := hf _ _ _ answer answer'
          exact List.prefix_append [_] _
  | next answer full rest ih =>
      cases h' with
      | last answer' decided' =>
          obtain rfl := hf _ _ _ answer answer'
          simp [full] at decided'
      | ceiling answer' full' =>
          obtain rfl := hf _ _ _ answer answer'
          cases rest with
          | none => exact List.prefix_refl _
      | next answer' full' rest' =>
          obtain rfl := hf _ _ _ answer answer'
          exact (List.prefix_cons_inj _).mpr (ih rest')

end Pages

/-! ## Counts -/

namespace Report

/-- Two counts together. -/
def plus (r d : Report) : Report :=
  ⟨r.ranges + d.ranges, r.requests + d.requests, r.events + d.events,
    r.undecodable + d.undecodable, r.throttles + d.throttles, r.ceilings + d.ceilings,
    r.abandoned + d.abandoned⟩

/-- The counts of one envelope. -/
def ofEnvelope (c : Config) (size : Nat) (e : Envelope) : Report where
  ranges := 0
  requests := 1
  events := (c.lines [e]).length
  undecodable := (c.unread [e]).length
  throttles := 0
  ceilings := 0
  abandoned := if e.ending? size = some .abandoned then 1 else 0

/-- The counts of a window with the given envelopes and ending. -/
def ofPages (c : Config) (es : List Envelope) (ending : Ending) : Report where
  ranges := 0
  requests := es.length
  events := (c.lines es).length
  undecodable := (c.unread es).length
  throttles := es.length - 1
  ceilings := if ending = .ceiling then 1 else 0
  abandoned := if ending = .abandoned then 1 else 0

end Report

/-! ## One page -/

namespace Setup

variable {σ : Type} (u : Setup σ)

/-- What the journal says about an envelope. -/
def pageEntries (w : Window) (page : Nat) (e : Envelope) : List Entry :=
  if e.isEmpty then
    if saysNoRecords e.message then [] else [.refused w page e.message e.result]
  else
    u.config.unread [e] ++ match LogBatch.classify e.result with
      | .truncated _ malformed _ => [.malformed malformed]
      | .complete _ => []

/-- The progress after an envelope, if the sink has taken all its lines. -/
def received (w : Window) (page : Nat) (e : Envelope) (p : Progress σ) : Progress σ :=
  { p with
    sink := (p.sink.write (u.config.bytes [e])).1
    journal := p.journal ++ u.pageEntries w page e
    report := p.report.plus (Report.ofEnvelope u.config u.template.pageSize e) }

/-- The request for a page of a window and the attempts made for it. -/
abbrev courseOf (w : Window) (page : Nat) (p : Progress σ) : Course σ :=
  u.client.ask u.explorer (u.template.request w page) p.explorer

/-- The progress after the question for a page of a window. -/
abbrev askedFor (w : Window) (page : Nat) (p : Progress σ) : Progress σ :=
  u.asked (u.template.request w page) p

section Page

variable {u} {w : Window} {page : Nat} {p : Progress σ} {e : Envelope}

/-- The events of an envelope have the lines and the entries of the envelope. -/
theorem eventLines_envelope (c : Config) (h : e.status ≠ ['0']) :
    eventLines c.output (extract c.eventTopic (LogBatch.classify e.result).logs)
        = c.lines [e] ∧
      eventEntries c.output (extract c.eventTopic (LogBatch.classify e.result).logs)
        = c.unread [e] := by
  have hlogs : (LogBatch.classify e.result).logs = [e].flatMap Envelope.logs := by
    rw [LogBatch.logs_classify, List.flatMap_singleton, Envelope.logs, if_neg h]
  rw [hlogs, eventLines_extract]
  exact ⟨rfl, rfl⟩

theorem lines_of_empty (c : Config) (h : e.status = ['0']) :
    c.lines [e] = [] ∧ c.unread [e] = [] := by
  have hlogs : [e].flatMap Envelope.logs = [] := by
    rw [List.flatMap_singleton, Envelope.logs, if_pos h]
  constructor
  · rw [Config.lines, hlogs]
    rfl
  · rw [Config.unread, hlogs]
    rfl

/-- A question that brings a problem ends the scan with it. -/
theorem scanPages_of_error (left : Nat) {problem : ScanProblem}
    (h : (u.courseOf w page p).last.reading = .error problem) :
    u.scanPages w (left + 1) page p = (u.askedFor w page p, .error problem) := by
  unfold scanPages
  rw [query_eq, h]

/-- A question that brings nothing ends the scan. -/
theorem scanPages_unanswered (left : Nat)
    (h : (u.courseOf w page p).last.envelope? = none) :
    ∃ problem, u.scanPages w (left + 1) page p = (u.askedFor w page p, .error problem) := by
  cases hr : (u.courseOf w page p).last.reading with
  | error problem => exact ⟨problem, scanPages_of_error left hr⟩
  | ok e =>
      rw [Attempt.reading_eq_ok, h] at hr
      cases hr

/-- Lines that the sink does not take end the scan. -/
theorem scanPages_refused (left : Nat)
    (h : (u.courseOf w page p).last.envelope? = some e) {s : Sink}
    {problem : SinkProblem} (hw : p.sink.write (u.config.bytes [e]) = (s, .error problem)) :
    ∃ p', u.scanPages w (left + 1) page p = (p', .error (.output problem)) ∧ p'.sink = s ∧
      p'.exchanges = (u.askedFor w page p).exchanges ∧ p'.store = p.store := by
  -- an envelope without lines is never refused
  have h0 : e.status ≠ ['0'] := by
    intro h0
    rw [Config.bytes, (lines_of_empty u.config h0).1] at hw
    simp [Sink.write_nil] at hw
  have hlines := (eventLines_envelope u.config h0).1
  rw [Config.bytes, ← hlines] at hw
  obtain ⟨p', hp, hs, hx, hst⟩ := takeEvents_error u
    ((u.askedFor w page p).count fun r => { r with requests := r.requests + 1 }) hw
  refine ⟨p', ?_, hs, hx, hst⟩
  unfold scanPages
  rw [query_eq, Attempt.reading_eq_ok.mpr h]
  simp only [Envelope.isEmpty, h0, decide_false, Bool.false_eq_true, if_false, takePage, hp]

/-- **What a page does** whose lines the sink takes: it ends the window if its envelope
decides so; otherwise it is full, and the next page follows, unless it was the last. -/
theorem scanPages_received (left : Nat)
    (h : (u.courseOf w page p).last.envelope? = some e)
    (hw : (p.sink.write (u.config.bytes [e])).2 = .ok ()) :
    u.scanPages w (left + 1) page p = match e.ending? u.template.pageSize with
      | some ending => (u.received w page e (u.askedFor w page p), .ok ending.windowEnd)
      | none =>
          if left = 0 then
            (((u.received w page e (u.askedFor w page p)).say
              (.ceiling w u.config.maxResults.toNat)).count
                fun r => { r with ceilings := r.ceilings + 1 }, .ok .incomplete)
          else
            u.scanPages w left (page + 1)
              ((u.received w page e (u.askedFor w page p)).count
                fun r => { r with throttles := r.throttles + 1 }) := by
  have hquery : u.query (u.template.request w page) p = (u.askedFor w page p, .ok e) := by
    rw [query_eq, Attempt.reading_eq_ok.mpr h]
  by_cases h0 : e.status = ['0']
  · -- the status says that there is nothing, and the message whether this is a refusal
    have hlines := lines_of_empty u.config h0
    have hempty : e.isEmpty = true := by simp [Envelope.isEmpty, h0]
    have hbytes : u.config.bytes [e] = [] := by rw [Config.bytes, hlines.1]; rfl
    by_cases hm : saysNoRecords e.message = true
    · have hend : e.ending? u.template.pageSize = some .exhausted :=
        Envelope.ending?_of_noRecords h0 (Envelope.saysNoRecords_iff.mp hm)
      simp [scanPages, hquery, hempty, hm, hend, received, pageEntries, hbytes, Sink.write_nil,
        Progress.count, Report.plus, Report.ofEnvelope, hlines, Ending.windowEnd]
    · have hend : e.ending? u.template.pageSize = some .abandoned :=
        Envelope.ending?_of_refused h0 (mt Envelope.saysNoRecords_iff.mpr hm)
      simp [scanPages, hquery, hempty, hm, hend, received, pageEntries, hbytes, Sink.write_nil,
        Progress.count, Progress.say, Report.plus, Report.ofEnvelope, hlines, abandon,
        Ending.windowEnd]
  · -- the result is looked at only after the lines of its logs were written
    have hempty : e.isEmpty = false := by simp [Envelope.isEmpty, h0]
    obtain ⟨hlines, hentries⟩ := eventLines_envelope u.config h0
    have hevents := takeEvents_ok u
      ((u.askedFor w page p).count fun r => { r with requests := r.requests + 1 })
      (by rw [hlines]; exact hw)
    rw [scanPages, hquery]
    simp only [hempty, Bool.false_eq_true, if_false, takePage, hevents]
    cases hc : LogBatch.classify e.result with
    | truncated logs malformed received =>
        have hend : e.ending? u.template.pageSize = some .abandoned := by
          simp [Envelope.ending?, hempty, hc]
        rw [hc] at hlines hentries
        simp [hend, reaped, hlines, hentries, hempty, hc, Setup.received, pageEntries,
          Progress.count, Progress.say, Report.plus, Report.ofEnvelope, abandon,
          Ending.windowEnd, Config.bytes]
    | complete logs =>
        have hend : e.ending? u.template.pageSize
            = if logs.length < u.template.pageSize then some .exhausted else none := by
          simp [Envelope.ending?, hempty, hc]
        rw [hc] at hlines hentries
        by_cases hshort : logs.length < u.template.pageSize
        · simp [hend, hshort, reaped, hlines, hentries, hempty, hc, Setup.received,
            pageEntries, Progress.count, Report.plus, Report.ofEnvelope, Ending.windowEnd,
            Config.bytes]
        · simp [hend, hshort, reaped, hlines, hentries, hempty, hc, Setup.received,
            pageEntries, Progress.count, Progress.say, Report.plus, Report.ofEnvelope,
            Config.bytes]

/-- The attempts for a page stay, and so does all that was there before them. -/
theorem scanPages_keeps (w : Window) (left page : Nat) (p : Progress σ) :
    p.exchanges <+: (u.scanPages w left page p).1.exchanges ∧
      (0 < left → (u.askedFor w page p).exchanges <+: (u.scanPages w left page p).1.exchanges) := by
  induction left generalizing page p with
  | zero => exact ⟨List.prefix_refl _, fun h => absurd h (Nat.lt_irrefl 0)⟩
  | succ left ih =>
      suffices hasked : (u.askedFor w page p).exchanges
          <+: (u.scanPages w (left + 1) page p).1.exchanges from
        ⟨(List.prefix_append _ _).trans hasked, fun _ => hasked⟩
      cases h : (u.courseOf w page p).last.envelope? with
      | none =>
          obtain ⟨problem, hp⟩ := scanPages_unanswered left h
          exact hp ▸ List.prefix_refl _
      | some e =>
          cases hw : (p.sink.write (u.config.bytes [e])).2 with
          | error problem =>
              obtain ⟨p', hp, -, hx, -⟩ := scanPages_refused left h (Prod.ext rfl hw)
              exact hp ▸ hx ▸ List.prefix_refl _
          | ok _ =>
              rw [scanPages_received left h hw]
              cases e.ending? u.template.pageSize with
              | some ending => exact List.prefix_refl _
              | none =>
                  simp only
                  split
                  · exact List.prefix_refl _
                  · exact (ih (page + 1) ((u.received w page e (u.askedFor w page p)).count _)).1

end Page

/-! ## Whole windows -/

/-- `answers` covers all that the client can get for the pages of a window. -/
def Answered (w : Window) (answers : Nat → Envelope → Prop) : Prop :=
  ∀ page s e, (u.client.send u.explorer (u.template.request w page) s).1.envelope? = some e →
    answers page e

/-- If nothing is known about the explorer, it may answer anything. -/
theorem answered_any (w : Window) : u.Answered w fun _ _ => True := fun _ _ _ _ => trivial

/-- The explorer answers, in whatever state it is, for each page of a window that is asked for,
from a page on of which so many are left. -/
def Serves (w : Window) : Nat → Nat → Prop
  | 0, _ => True
  | left + 1, page => ∀ s, ∃ e,
      (u.client.send u.explorer (u.template.request w page) s).1.envelope? = some e ∧
        (e.ending? u.template.pageSize = none → Serves w left (page + 1))

/-- What is left behind by the scan of a window that came to its end. -/
structure Scanned (answers : Nat → Envelope → Prop) (w : Window) (left page : Nat)
    (p p' : Progress σ) (xs : List Exchange) (ending : Ending) : Prop where
  pages : Pages answers u.template.pageSize left page (envelopes xs) ending
  exchanges : p'.exchanges = p.exchanges ++ xs
  about : ∀ x ∈ xs, x.isAbout w = true
  sent : ∀ x ∈ xs, ∃ s, x.attempt = (u.client.send u.explorer x.request s).1
  last : xs.getLast?.bind Exchange.envelope? = (envelopes xs).getLast?
  sink : p.sink.write (u.config.bytes (envelopes xs)) = (p'.sink, .ok ())
  report : p'.report = p.report.plus (Report.ofPages u.config (envelopes xs) ending)
  store : p'.store = p.store

/-- What is left behind by the scan of a window that was broken off, because the explorer has
not answered or the sink has refused. -/
structure BrokenOff (answers : Nat → Envelope → Prop) (w : Window) (left page : Nat)
    (p p' : Progress σ) (xs : List Exchange) : Prop where
  begun : Begun answers u.template.pageSize left page (envelopes xs)
  exchanges : p'.exchanges = p.exchanges ++ xs
  about : ∀ x ∈ xs, x.isAbout w = true
  nonempty : xs ≠ []
  cause : u.Serves w left page → p.sink.room ≠ none
  sink : p'.sink = (p.sink.write (u.config.bytes (envelopes xs))).1
  store : p'.store = p.store

section Windows

variable {u} {w : Window} {answers : Nat → Envelope → Prop} {left page : Nat} {p : Progress σ}
  {e : Envelope}

theorem answers_of_last (ha : u.Answered w answers)
    (h : (u.courseOf w page p).last.envelope? = some e) : answers page e := by
  obtain ⟨s, hs⟩ := u.client.ask_last u.explorer (u.template.request w page) p.explorer
  rw [courseOf, hs] at h
  exact ha page s e h

/-- The exchanges for one page, of which the last has brought an envelope. -/
theorem envelopes_courseOf (h : (u.courseOf w page p).last.envelope? = some e) :
    envelopes ((u.courseOf w page p).exchanges (u.template.request w page)) = [e] := by
  rw [envelopes_exchanges, h, Option.toList_some]

/-- Every attempt for a page is what the client gets from the explorer. -/
theorem sent_of_mem {x : Exchange}
    (hx : x ∈ (u.courseOf w page p).exchanges (u.template.request w page)) :
    ∃ s, x.attempt = (u.client.send u.explorer x.request s).1 := by
  obtain ⟨hrequest, hsent⟩ := Client.sent_of_mem_exchanges hx
  rw [hrequest]
  exact hsent

/-- Where the explorer serves a window, the envelope of a page comes, and after a full one
those of the next pages. -/
theorem Serves.next (h : u.Serves w (left + 1) page)
    (he : (u.courseOf w page p).last.envelope? = some e)
    (hfull : e.ending? u.template.pageSize = none) : u.Serves w left (page + 1) := by
  obtain ⟨s, hs⟩ := u.client.ask_last u.explorer (u.template.request w page) p.explorer
  obtain ⟨e', he', hnext⟩ := h s
  rw [courseOf, hs, he'] at he
  obtain rfl := Option.some.inj he
  exact hnext hfull

/-- A page that ends its window. -/
theorem scanned_last (ha : u.Answered w answers)
    (h : (u.courseOf w page p).last.envelope? = some e)
    (hw : (p.sink.write (u.config.bytes [e])).2 = .ok ()) {ending : Ending}
    (he : e.ending? u.template.pageSize = some ending) :
    u.Scanned answers w (left + 1) page p (u.received w page e (u.askedFor w page p))
      ((u.courseOf w page p).exchanges (u.template.request w page)) ending := by
  have hes := envelopes_courseOf h
  have hceiling : ending ≠ .ceiling := by
    rintro rfl
    exact Envelope.ending?_ne_ceiling he
  refine ⟨?_, rfl, fun x hx => isAbout_of_mem_exchanges hx, fun x hx => sent_of_mem hx, ?_, ?_,
    ?_, rfl⟩
  · rw [hes]
    exact Pages.last (answers_of_last ha h) he
  · rw [hes, getLast?_exchanges]
    exact h
  · rw [hes, ← hw]
    rfl
  · rw [hes]
    simp [received, Report.ofEnvelope, Report.ofPages, he, hceiling]

/-- A full page that is the last one. -/
theorem scanned_ceiling (ha : u.Answered w answers)
    (h : (u.courseOf w page p).last.envelope? = some e)
    (hw : (p.sink.write (u.config.bytes [e])).2 = .ok ())
    (he : e.ending? u.template.pageSize = none) :
    u.Scanned answers w 1 page p
      (((u.received w page e (u.askedFor w page p)).say
        (.ceiling w u.config.maxResults.toNat)).count
          fun r => { r with ceilings := r.ceilings + 1 })
      ((u.courseOf w page p).exchanges (u.template.request w page)) .ceiling := by
  have hes := envelopes_courseOf h
  refine ⟨?_, rfl, fun x hx => isAbout_of_mem_exchanges hx, fun x hx => sent_of_mem hx, ?_, ?_,
    ?_, rfl⟩
  · rw [hes]
    exact Pages.ceiling (answers_of_last ha h) he
  · rw [hes, getLast?_exchanges]
    exact h
  · rw [hes, ← hw]
    rfl
  · rw [hes]
    simp [Progress.count, Progress.say, received, Report.plus, Report.ofEnvelope,
      Report.ofPages, he]

/-- A full page and the pages after it. -/
theorem Scanned.cons (ha : u.Answered w answers)
    (h : (u.courseOf w page p).last.envelope? = some e)
    (hw : (p.sink.write (u.config.bytes [e])).2 = .ok ())
    (he : e.ending? u.template.pageSize = none) {p' : Progress σ} {xs : List Exchange}
    {ending : Ending}
    (hs : u.Scanned answers w (left + 1) (page + 1)
      ((u.received w page e (u.askedFor w page p)).count
        fun r => { r with throttles := r.throttles + 1 }) p' xs ending) :
    u.Scanned answers w (left + 2) page p p'
      ((u.courseOf w page p).exchanges (u.template.request w page) ++ xs) ending := by
  have hes := envelopes_courseOf h
  have hpages := hs.pages
  have hlen : 0 < (envelopes xs).length := List.length_pos_iff.mpr hpages.ne_nil
  refine ⟨?_, ?_, ?_, ?_, ?_, ?_, ?_, hs.store⟩
  · rw [envelopes_append, hes]
    exact Pages.next (answers_of_last ha h) he hpages
  · rw [hs.exchanges]
    simp [Progress.count, received]
  · intro x hx
    rcases List.mem_append.mp hx with hx | hx
    · exact isAbout_of_mem_exchanges hx
    · exact hs.about x hx
  · intro x hx
    rcases List.mem_append.mp hx with hx | hx
    · exact sent_of_mem hx
    · exact hs.sent x hx
  · have hxs : xs ≠ [] := by
      rintro rfl
      exact hpages.ne_nil rfl
    rw [envelopes_append, List.getLast?_append_of_ne_nil _ hxs,
      List.getLast?_append_of_ne_nil _ hpages.ne_nil]
    exact hs.last
  · have hfirst : p.sink.write (u.config.bytes [e])
        = ((p.sink.write (u.config.bytes [e])).1, .ok ()) := by rw [← hw]
    rw [envelopes_append, hes, Config.bytes_append, Sink.write_append_of_ok hfirst]
    exact hs.sink
  · -- the pages that follow begin with a throttle, which their own count leaves out
    rw [hs.report, envelopes_append, hes]
    simp only [Report.ofPages, Config.lines_append, Config.unread_append, List.length_append]
    simp [Progress.count, received, Report.plus, Report.ofEnvelope, he]
    omega

/-- A page for which nothing came breaks the window off. -/
theorem scanPages_unanswered_brokenOff (h : (u.courseOf w page p).last.envelope? = none) :
    ∃ p' xs problem, u.scanPages w (left + 1) page p = (p', .error problem) ∧
      u.BrokenOff answers w (left + 1) page p p' xs := by
  obtain ⟨problem, hp⟩ := scanPages_unanswered left h
  have hes : envelopes ((u.courseOf w page p).exchanges (u.template.request w page)) = [] := by
    rw [envelopes_exchanges, h, Option.toList_none]
  refine ⟨_, _, problem, hp, ?_, rfl, fun x hx => isAbout_of_mem_exchanges hx, ?_, ?_, ?_, rfl⟩
  · rw [hes]
    exact Begun.none
  · simp [Course.exchanges]
  · -- an explorer that serves the window would have answered the last attempt
    intro hserves
    obtain ⟨s, hs⟩ := u.client.ask_last u.explorer (u.template.request w page) p.explorer
    obtain ⟨e, he, -⟩ := hserves s
    rw [courseOf, hs, he] at h
    cases h
  · rw [hes, Config.bytes_nil, Sink.write_nil]
    rfl

/-- A page whose lines the sink does not take breaks the window off. -/
theorem scanPages_refused_brokenOff (ha : u.Answered w answers)
    (h : (u.courseOf w page p).last.envelope? = some e) {problem : SinkProblem}
    (hw : (p.sink.write (u.config.bytes [e])).2 = .error problem) :
    ∃ p' xs problem, u.scanPages w (left + 1) page p = (p', .error problem) ∧
      u.BrokenOff answers w (left + 1) page p p' xs := by
  have hw' : p.sink.write (u.config.bytes [e])
      = ((p.sink.write (u.config.bytes [e])).1, .error problem) := by rw [← hw]
  obtain ⟨p', hp, hs, hx, hst⟩ := scanPages_refused left h hw'
  have hes := envelopes_courseOf h
  refine ⟨p', _, .output problem, hp, ?_, hx, fun x hx => isAbout_of_mem_exchanges hx, ?_, ?_,
    ?_, hst⟩
  · rw [hes]
    exact Begun.last (answers_of_last ha h)
  · simp [Course.exchanges]
  · intro _ hroom
    rw [Sink.write_unlimited hroom] at hw
    cases hw
  · rw [hes, hs]

/-- A full page and a window broken off after it. -/
theorem BrokenOff.cons (ha : u.Answered w answers)
    (h : (u.courseOf w page p).last.envelope? = some e)
    (hw : (p.sink.write (u.config.bytes [e])).2 = .ok ())
    (he : e.ending? u.template.pageSize = none) {p' : Progress σ} {xs : List Exchange}
    (hb : u.BrokenOff answers w left (page + 1)
      ((u.received w page e (u.askedFor w page p)).count
        fun r => { r with throttles := r.throttles + 1 }) p' xs) :
    u.BrokenOff answers w (left + 1) page p p'
      ((u.courseOf w page p).exchanges (u.template.request w page) ++ xs) := by
  have hes := envelopes_courseOf h
  refine ⟨?_, ?_, ?_, ?_, ?_, ?_, hb.store⟩
  · rw [envelopes_append, hes]
    exact Begun.next (answers_of_last ha h) he hb.begun
  · rw [hb.exchanges]
    simp [Progress.count, received]
  · intro x hx
    rcases List.mem_append.mp hx with hx | hx
    · exact isAbout_of_mem_exchanges hx
    · exact hb.about x hx
  · exact List.append_ne_nil_of_right_ne_nil _ hb.nonempty
  · intro hserves hroom
    apply hb.cause (hserves.next h he)
    show (p.sink.write (u.config.bytes [e])).1.room = none
    rw [Sink.write_unlimited hroom]
    exact hroom
  · have hfirst : p.sink.write (u.config.bytes [e])
        = ((p.sink.write (u.config.bytes [e])).1, .ok ()) := by rw [← hw]
    rw [hb.sink, envelopes_append, hes, Config.bytes_append, Sink.write_append_of_ok hfirst]
    rfl

/-- **The scan of a window** comes to an end or is broken off, and what it leaves behind is
told by the envelopes it has received. -/
theorem scanPages_cases (ha : u.Answered w answers) (hleft : 0 < left) (page : Nat)
    (p : Progress σ) :
    (∃ p' xs ending, u.scanPages w left page p = (p', .ok ending.windowEnd) ∧
        u.Scanned answers w left page p p' xs ending) ∨
      ∃ p' xs problem, u.scanPages w left page p = (p', .error problem) ∧
        u.BrokenOff answers w left page p p' xs := by
  induction left generalizing page p with
  | zero => omega
  | succ left ih =>
      -- did an envelope come, does the sink take its lines, and does it end the window?
      cases h : (u.courseOf w page p).last.envelope? with
      | none => exact Or.inr (scanPages_unanswered_brokenOff h)
      | some e =>
          cases hw : (p.sink.write (u.config.bytes [e])).2 with
          | error problem => exact Or.inr (scanPages_refused_brokenOff ha h hw)
          | ok _ =>
              have hstep := scanPages_received left h hw
              cases he : e.ending? u.template.pageSize with
              | some ending =>
                  rw [he] at hstep
                  exact Or.inl ⟨_, _, ending, hstep, scanned_last ha h hw he⟩
              | none =>
                  rw [he] at hstep
                  cases left with
                  | zero =>
                      -- the full page was the last one that the explorer serves
                      exact Or.inl ⟨_, _, .ceiling, hstep, scanned_ceiling ha h hw he⟩
                  | succ left =>
                      simp only [Nat.add_one_ne_zero, if_false] at hstep
                      rcases ih (Nat.succ_pos left) (page + 1)
                          ((u.received w page e (u.askedFor w page p)).count _) with
                        ⟨p', xs, ending, hp, hs⟩ | ⟨p', xs, problem, hp, hb⟩
                      · exact Or.inl ⟨p', _, ending, hstep.trans hp, hs.cons ha h hw he⟩
                      · exact Or.inr ⟨p', _, problem, hstep.trans hp, hb.cons ha h hw he⟩

end Windows

end Setup

end DepositTrail
