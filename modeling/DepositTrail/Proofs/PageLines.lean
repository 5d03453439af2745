import DepositTrail.Proofs.Question
import DepositTrail.Proofs.Sink
import Mathlib.Data.List.TakeWhile

set_option autoImplicit false

/-! # The lines of a page

Which lines are written for an envelope, said without the way in which a page is gone through.
An envelope counts with the logs at the front of its result (`Envelope.logs`), and a log with
the line of its deposit if it is about the wanted topic and can be read (`RawLog.line?`).

A page is gone through event by event, each of which is either written or passed over. In one
piece that is: all lines of the page are written to the sink together (`takeEvents_ok`,
`takeEvents_error`), and every event is counted once, as written or as passed over.
-/

namespace DepositTrail

/-! ## Logs and lines -/

/-- Whether a value is a log. -/
def Json.isLog (v : Json) : Bool := (RawLog.ofJson? v).isSome

/-- The logs of a result up to the first entry that is none. A result that is no array has
none. -/
def frontLogs : Json → List RawLog
  | .arr items => (items.takeWhile Json.isLog).filterMap RawLog.ofJson?
  | _ => []

/-- The logs with which an envelope counts. The status `0` says that there are none. -/
def Envelope.logs (e : Envelope) : List RawLog :=
  if e.status = ['0'] then [] else frontLogs e.result

/-- The line that is written for a log, if it is about the wanted topic, its block number can
be read, and its data can be decoded. -/
def RawLog.line? (c : Config) (log : RawLog) : Option Text :=
  if log.isAbout c.eventTopic then
    match readBlock log.blockNumber, Deposit.decode log.data with
    | .ok block, .ok deposit => some ((deposit.record block).line c.output)
    | _, _ => none
  else none

namespace Config

/-- The lines that are written for some envelopes. -/
def lines (c : Config) (es : List Envelope) : List Text :=
  (es.flatMap Envelope.logs).filterMap (RawLog.line? c)

/-- The bytes of these lines. -/
def bytes (c : Config) (es : List Envelope) : List UInt8 := (c.lines es).flatMap Text.utf8

/-- How many logs of some envelopes are about the wanted topic. -/
def matching (c : Config) (es : List Envelope) : Nat :=
  ((es.flatMap Envelope.logs).filter (RawLog.isAbout c.eventTopic)).length

variable (c : Config)

@[simp] theorem lines_append (es es' : List Envelope) :
    c.lines (es ++ es') = c.lines es ++ c.lines es' := by
  simp [lines]

@[simp] theorem bytes_nil : c.bytes [] = [] := rfl

@[simp] theorem bytes_append (es es' : List Envelope) :
    c.bytes (es ++ es') = c.bytes es ++ c.bytes es' := by
  simp [bytes]

/-- More envelopes, more bytes behind those that are there. -/
theorem bytes_prefix {es es' : List Envelope} (h : es <+: es') : c.bytes es <+: c.bytes es' := by
  obtain ⟨rest, rfl⟩ := h
  exact ⟨c.bytes rest, by rw [bytes_append]⟩

end Config

/-! ## Batches -/

namespace LogBatch

theorem readLogs_eq (items : List Json) :
    readLogs items
      = ((items.takeWhile Json.isLog).filterMap RawLog.ofJson?, items.find? (!·.isLog)) := by
  -- both sides stop at the first entry that is no log
  induction items with
  | nil => rfl
  | cons item rest ih =>
      unfold readLogs
      cases h : RawLog.ofJson? item with
      | none => simp [Json.isLog, h]
      | some log => simp [Json.isLog, h, ih]

theorem classify_arr (items : List Json) :
    classify (.arr items) = match items.find? (!·.isLog) with
      | none => .complete (frontLogs (.arr items))
      | some malformed => .truncated (frontLogs (.arr items)) malformed items.length := by
  rw [classify, readLogs_eq]
  cases items.find? (!·.isLog) <;> rfl

/-- The logs of a batch are those at the front of the result. -/
theorem logs_classify (result : Json) : (classify result).logs = frontLogs result := by
  cases result with
  | arr items =>
      rw [classify_arr]
      cases items.find? (!·.isLog) <;> rfl
  | null | bool | int | real | str | obj => rfl

theorem frontLogs_of_isLog {items : List Json} (h : ∀ item ∈ items, item.isLog) :
    frontLogs (.arr items) = items.filterMap RawLog.ofJson? := by
  have hall : items.takeWhile Json.isLog = items := List.takeWhile_eq_self_iff.mpr h
  rw [frontLogs, hall]

/-- A result is complete when it is an array of logs, and then it has as many as there are
entries. -/
theorem classify_eq_complete {result : Json} {logs : List RawLog}
    (h : classify result = .complete logs) :
    ∃ items, result = .arr items ∧ (∀ item ∈ items, item.isLog) ∧
      logs = items.filterMap RawLog.ofJson? ∧ logs.length = items.length := by
  cases result with
  | arr items =>
      rw [classify_arr] at h
      cases hf : items.find? (!·.isLog) with
      | some malformed => simp [hf] at h
      | none =>
          have hlogs : ∀ item ∈ items, item.isLog := by simpa using hf
          simp only [hf, complete.injEq] at h
          rw [frontLogs_of_isLog hlogs] at h
          refine ⟨items, rfl, hlogs, h.symm, ?_⟩
          rw [← h, List.length_filterMap_eq_countP]
          exact List.countP_eq_length.mpr hlogs
  | null | bool | int | real | str | obj => simp [classify] at h

/-- An array of logs is complete. -/
theorem classify_of_isLog {items : List Json} (h : ∀ item ∈ items, item.isLog) :
    classify (.arr items) = .complete (items.filterMap RawLog.ofJson?) := by
  have hf : items.find? (!·.isLog) = none := by simpa using h
  rw [classify_arr, hf, frontLogs_of_isLog h]

end LogBatch

/-! ## Events -/

/-- What is known of a log about the wanted topic: its data and block, or why the block cannot
be read. -/
abbrev Event := Except DecodeProblem FilteredEvent

/-- The line of an event, or the entry that says why it has none. -/
def Event.line (format : OutputFormat) : Event → Except Entry Text
  | .error problem => .error (.undecodable problem)
  | .ok event =>
      match Deposit.decode event.data with
      | .error problem => .error (.undecodableIn event.block problem)
      | .ok deposit => .ok ((deposit.record event.block).line format)

/-- An event without a line has an entry that it is undecodable. -/
theorem Event.line_eq_error {format : OutputFormat} {e : Event} {entry : Entry}
    (h : Event.line format e = .error entry) :
    (∃ problem, entry = .undecodable problem) ∨
      ∃ block problem, entry = .undecodableIn block problem := by
  cases e with
  | error problem => exact Or.inl ⟨problem, (Except.error.inj h).symm⟩
  | ok event =>
      cases hd : Deposit.decode event.data with
      | error problem =>
          obtain rfl : _ = entry := by simpa [line, hd] using h
          exact Or.inr ⟨event.block, problem, rfl⟩
      | ok deposit => simp [line, hd] at h

/-- The lines of some events. -/
def eventLines (format : OutputFormat) (events : List Event) : List Text :=
  events.filterMap fun e => (Event.line format e).toOption

/-- The entries about the events that have no line. -/
def eventEntries (format : OutputFormat) (events : List Event) : List Entry :=
  events.filterMap fun e => match Event.line format e with
    | .error entry => some entry
    | .ok _ => none

section Cons

variable {format : OutputFormat} {e : Event} {rest : List Event}

theorem eventLines_cons_of_line {line : Text} (h : Event.line format e = .ok line) :
    eventLines format (e :: rest) = line :: eventLines format rest := by
  simp [eventLines, h, Except.toOption]

theorem eventLines_cons_of_entry {entry : Entry} (h : Event.line format e = .error entry) :
    eventLines format (e :: rest) = eventLines format rest := by
  simp [eventLines, h, Except.toOption]

theorem eventEntries_cons_of_line {line : Text} (h : Event.line format e = .ok line) :
    eventEntries format (e :: rest) = eventEntries format rest := by
  simp [eventEntries, h]

theorem eventEntries_cons_of_entry {entry : Entry} (h : Event.line format e = .error entry) :
    eventEntries format (e :: rest) = entry :: eventEntries format rest := by
  simp [eventEntries, h]

end Cons

/-- The events about the wanted topic have the lines of the logs. -/
theorem eventLines_extract (c : Config) (logs : List RawLog) :
    eventLines c.output (extract c.eventTopic logs) = logs.filterMap (RawLog.line? c) := by
  induction logs with
  | nil => rfl
  | cons log rest ih =>
      unfold eventLines extract at ih ⊢
      rw [List.filterMap_cons]
      by_cases h : log.isAbout c.eventTopic
      · rw [List.filter_cons_of_pos h, List.map_cons, List.filterMap_cons, ih]
        have hline : (Event.line c.output log.event).toOption = log.line? c := by
          unfold RawLog.event RawLog.line?
          rw [if_pos h]
          cases readBlock log.blockNumber with
          | error e => rfl
          | ok block =>
              show (match Deposit.decode log.data with
                | .error problem => _
                | .ok deposit => _ : Except Entry Text).toOption = _
              cases Deposit.decode log.data <;> rfl
        rw [hline]
      · rw [List.filter_cons_of_neg h, ih]
        have hline : log.line? c = none := by
          unfold RawLog.line?
          rw [if_neg h]
        rw [hline]

/-- Every event has a line or an entry. -/
theorem length_eventLines_add (format : OutputFormat) (events : List Event) :
    (eventLines format events).length + (eventEntries format events).length
      = events.length := by
  induction events with
  | nil => rfl
  | cons e rest ih =>
      cases h : Event.line format e with
      | error entry =>
          rw [eventLines_cons_of_entry h, eventEntries_cons_of_entry h, List.length_cons,
            List.length_cons, ← Nat.add_assoc, ih]
      | ok line =>
          rw [eventLines_cons_of_line h, eventEntries_cons_of_line h, List.length_cons,
            List.length_cons, Nat.add_right_comm, ih]

/-- The entries about the logs of some envelopes that have no line. -/
def Config.unread (c : Config) (es : List Envelope) : List Entry :=
  eventEntries c.output (extract c.eventTopic (es.flatMap Envelope.logs))

@[simp] theorem Config.unread_append (c : Config) (es es' : List Envelope) :
    c.unread (es ++ es') = c.unread es ++ c.unread es' := by
  simp [unread, eventEntries, extract]

/-- Every log about the wanted topic has a line or an entry. -/
theorem Config.length_lines_add (c : Config) (es : List Envelope) :
    (c.lines es).length + (c.unread es).length = c.matching es := by
  rw [lines, ← eventLines_extract, unread, length_eventLines_add, extract, List.length_map,
    matching]

namespace Setup

variable {σ : Type} (u : Setup σ)

/-- The progress after some events, if the sink has taken all their lines. -/
def reaped (events : List Event) (p : Progress σ) : Progress σ :=
  { p with
    sink := (p.sink.write ((eventLines u.config.output events).flatMap Text.utf8)).1
    journal := p.journal ++ eventEntries u.config.output events
    report := { p.report with
      events := p.report.events + (eventLines u.config.output events).length
      undecodable := p.report.undecodable + (eventEntries u.config.output events).length } }

/-- An event without a line leaves an entry and is counted. -/
theorem takeEvent_of_entry {e : Event} {entry : Entry}
    (h : Event.line u.config.output e = .error entry) (p : Progress σ) :
    u.takeEvent e p
      = ((p.say entry).count fun r => { r with undecodable := r.undecodable + 1 }, .ok ()) := by
  unfold Event.line at h
  cases e with
  | error problem =>
      simp only [Except.error.injEq] at h
      subst h
      rfl
  | ok event =>
      cases hd : Deposit.decode event.data with
      | error problem =>
          simp only [hd, Except.error.injEq] at h
          subst h
          simp [takeEvent, hd]
      | ok deposit => simp [hd] at h

/-- The line of an event is written, and counted if the sink takes it. -/
theorem takeEvent_of_line {e : Event} {line : Text}
    (h : Event.line u.config.output e = .ok line) (p : Progress σ) :
    u.takeEvent e p = match p.write line with
      | (p, .error problem) => (p, .error problem)
      | (p, .ok ()) => (p.count fun r => { r with events := r.events + 1 }, .ok ()) := by
  unfold Event.line at h
  cases e with
  | error problem => simp at h
  | ok event =>
      cases hd : Deposit.decode event.data with
      | error problem => simp [hd] at h
      | ok deposit =>
          simp only [hd, Except.ok.injEq] at h
          subst h
          unfold takeEvent
          cases hw : p.write ((deposit.record event.block).line u.config.output) with
          | mk q result => cases result <;> simp only [hd, hw]

/-- **Events whose lines the sink takes** are gone through to the end, and leave their lines
and entries as if they had come in one piece. -/
theorem takeEvents_ok {events : List Event} :
    ∀ p : Progress σ,
      (p.sink.write ((eventLines u.config.output events).flatMap Text.utf8)).2 = .ok () →
      u.takeEvents events p = (u.reaped events p, .ok ()) := by
  induction events with
  | nil =>
      intro p _
      simp [takeEvents, reaped, eventLines, eventEntries, Sink.write_nil]
  | cons e rest ih =>
      intro p h
      unfold takeEvents
      cases he : Event.line u.config.output e with
      | error entry =>
          rw [eventLines_cons_of_entry he] at h
          rw [takeEvent_of_entry u he]
          simp only
          rw [ih ((p.say entry).count _) h]
          simp [reaped, Progress.say, Progress.count, eventLines_cons_of_entry he,
            eventEntries_cons_of_entry he, Nat.add_assoc, Nat.add_comm 1]
      | ok line =>
          -- a sink that takes all the lines takes the first of them
          rw [eventLines_cons_of_line he, List.flatMap_cons] at h
          cases hw : p.sink.write line.utf8 with
          | mk s outcome =>
              cases outcome with
              | error problem => simp [Sink.write_append_of_error hw] at h
              | ok _ =>
                  rw [Sink.write_append_of_ok hw] at h
                  simp only [takeEvent_of_line u he, Progress.write, hw]
                  rw [ih (({ p with sink := s } : Progress σ).count _) h]
                  simp [reaped, Progress.count, eventLines_cons_of_line he,
                    eventEntries_cons_of_line he, List.flatMap_cons,
                    Sink.write_append_of_ok hw, Nat.add_assoc, Nat.add_comm 1]

/-- **Events whose lines the sink does not take** end in the refusal of the sink, which holds
what it would have taken of them in one piece. -/
theorem takeEvents_error {events : List Event} {s : Sink} {problem : SinkProblem} :
    ∀ p : Progress σ,
      p.sink.write ((eventLines u.config.output events).flatMap Text.utf8) = (s, .error problem) →
      ∃ p', u.takeEvents events p = (p', .error (.output problem)) ∧ p'.sink = s ∧
        p'.exchanges = p.exchanges ∧ p'.store = p.store := by
  induction events with
  | nil =>
      intro p h
      simp [eventLines, Sink.write_nil] at h
  | cons e rest ih =>
      intro p h
      unfold takeEvents
      cases he : Event.line u.config.output e with
      | error entry =>
          rw [eventLines_cons_of_entry he] at h
          rw [takeEvent_of_entry u he]
          exact ih ((p.say entry).count _) h
      | ok line =>
          rw [eventLines_cons_of_line he, List.flatMap_cons] at h
          cases hw : p.sink.write line.utf8 with
          | mk s' outcome =>
              cases outcome with
              | error problem' =>
                  -- this line is refused, so the ones after it are never offered
                  rw [Sink.write_append_of_error hw] at h
                  simp only [Prod.mk.injEq, Except.error.injEq] at h
                  obtain ⟨rfl, rfl⟩ := h
                  refine ⟨{ p with sink := s' }, ?_, rfl, rfl, rfl⟩
                  simp [takeEvent_of_line u he, Progress.write, hw]
              | ok _ =>
                  rw [Sink.write_append_of_ok hw] at h
                  simp only [takeEvent_of_line u he, Progress.write, hw]
                  exact ih (({ p with sink := s' } : Progress σ).count _) h

end Setup

end DepositTrail
