import DepositTrail.Proofs.QueryRetries
import DepositTrail.Proofs.ScansAbreast
import Mathlib

set_option autoImplicit false

/-! # Failures that pass

Failures of the explorer that pass leave no trace in what a scan finds. Put before each reply
that a scan takes some failing replies, fewer than it makes attempts: it comes to the same
result, writes the same bytes and leaves the same checkpoint. Its targets are the same, each of
them repeated once for each failure before its reply, and its journal is the same, with one warning
more for each failure, which names the attempt, the failure and the wait (`scan_delayed`).

The two scans go abreast. A question that takes one reply without the failures takes them and the
same reply with them, and reads the same in the end (`pursue_delayed`). The attempts are counted
anew for each question, so there may be failures before every reply.

The replies are taken from a sequence, and a script is such a sequence (`scan_script`).
-/

namespace DepositTrail

/-! ## Failing replies -/

namespace Reply

/-- A reply after which another attempt may help: the connection was dropped, the status is 429
or one that says that the server has failed, or the body was cut short under a status that has
one. -/
def Transient (r : Reply) : Prop :=
  r.dropped = true ∨ r.status = 429 ∨ (500 ≤ r.status ∧ r.status < 600) ∨
    (r.status < 400 ∧ hasBody r.status = true ∧ r.cut = true)

instance decidableTransient (r : Reply) : Decidable r.Transient :=
  inferInstanceAs (Decidable (_ ∨ _ ∨ _ ∨ _))

/-- The failure that an attempt gets from a reply, if it gets one. -/
def failure? (r : Reply) : Option Failure :=
  match r.attempt with
  | .error f => some f
  | .ok _ => none

/-- **Another attempt is made** exactly after these replies. -/
theorem transient_iff {r : Reply} :
    r.Transient ↔ ∃ f, r.attempt = .error f ∧ f.isRetryable = true := by
  unfold Transient attempt
  by_cases hdropped : r.dropped = true
  · simp [hdropped, Failure.isRetryable]
  · by_cases hstatus : 400 ≤ r.status
    · have hlt : ¬ r.status < 400 := Nat.not_lt.mpr hstatus
      simp [hdropped, hstatus, hlt, Failure.isRetryable]
    · have hlt : r.status < 400 := Nat.lt_of_not_le hstatus
      have hne : r.status ≠ 429 := by omega
      have hlow : ¬ 500 ≤ r.status := by omega
      by_cases hbody : hasBody r.status = true
      · by_cases hcut : r.cut = true <;>
          simp [hdropped, hstatus, hlt, hne, hlow, hbody, hcut, Failure.isRetryable]
      · simp [hdropped, hstatus, hlt, hne, hlow, hbody]

/-- Each of the failing replies has its failure. -/
theorem filterMap_failure? {qs : List Reply} (hqs : ∀ q ∈ qs, q.Transient) :
    (qs.filterMap failure?).length = qs.length ∧
      ∀ (i : Nat) q, qs[i]? = some q →
        ∃ f, q.attempt = .error f ∧ (qs.filterMap failure?)[i]? = some f := by
  induction qs with
  | nil => simp
  | cons q qs ih =>
      obtain ⟨f, hq, -⟩ := transient_iff.mp (hqs q List.mem_cons_self)
      have hfailure : q.failure? = some f := by rw [failure?, hq]
      obtain ⟨hlength, hparts⟩ := ih fun q hq => hqs q (List.mem_cons_of_mem _ hq)
      rw [List.filterMap_cons_some hfailure]
      refine ⟨congrArg (· + 1) hlength, fun i q' hi => ?_⟩
      cases i with
      | zero =>
          obtain rfl : q = q' := Option.some.inj hi
          exact ⟨f, hq, rfl⟩
      | succ i => exact hparts i q' hi

/-- A reply comes only where the request has arrived. -/
theorem arrived_attempt (r : Reply) : r.attempt.arrived = true := by
  unfold attempt
  split_ifs <;> rfl

end Reply

/-! ## Sequences of replies -/

/-- The explorer that gives the replies of a sequence one after the other, whatever it is
asked. Its state is the number of the next one. -/
def Explorer.replaying (replies : Nat → Reply) : Explorer Nat :=
  fun n _ => ((replies n).attempt, n + 1)

/-- A sequence begins with the replies of a list. -/
def BeginsWith (replies : Nat → Reply) (qs : List Reply) : Prop :=
  ∀ (i : Nat) q, qs[i]? = some q → replies i = q

/-- The first `n` replies of a sequence, with other replies put before each of them. -/
def delayed (before : Nat → List Reply) (replies : Nat → Reply) (n : Nat) : List Reply :=
  (List.range n).flatMap fun i => before i ++ [replies i]

section Sequences

variable {before : Nat → List Reply} {replies replies' : Nat → Reply} {n : Nat}

theorem BeginsWith.tail {q : Reply} {qs : List Reply} (h : BeginsWith replies (q :: qs)) :
    replies 0 = q ∧ BeginsWith (fun i => replies (i + 1)) qs :=
  ⟨h 0 q rfl, fun i q' hi => h (i + 1) q' hi⟩

theorem delayed_succ : delayed before replies (n + 1)
    = delayed before replies n ++ (before n ++ [replies n]) := by
  simp [delayed, List.range_succ]

/-- The replies that come in the place of the one with number `n`. -/
theorem BeginsWith.at {taken : Nat} (h : BeginsWith replies' (delayed before replies taken))
    (hn : n < taken) : BeginsWith
      (fun i => replies' ((delayed before replies n).length + i)) (before n ++ [replies n]) := by
  intro i q hi
  apply h
  have hsplit : delayed before replies (n + 1) <+: delayed before replies taken := by
    obtain ⟨k, rfl⟩ := Nat.exists_eq_add_of_le (Nat.succ_le_of_lt hn)
    have hrange : List.range (n + 1 + k)
        = List.range (n + 1) ++ (List.range k).map (n + 1 + ·) := List.range_add
    show delayed before replies (n + 1) <+: delayed before replies (n + 1 + k)
    rw [delayed, delayed, hrange, List.flatMap_append]
    exact List.prefix_append _ _
  rw [delayed_succ] at hsplit
  obtain ⟨rest, hrest⟩ := hsplit
  have hlt : i < (before n ++ [replies n]).length := (List.getElem?_eq_some_iff.mp hi).1
  rw [← hrest, List.append_assoc, List.getElem?_append_right (Nat.le_add_right _ _),
    Nat.add_sub_cancel_left, List.getElem?_append_left hlt]
  exact hi

end Sequences

/-! ## Scripts -/

/-- The replies of a script as a sequence. -/
def Script.replies (script : Script) (n : Nat) : Reply := script.pending.getD n script.fallback

/-- What is left of a script after some replies. -/
def Script.rest (script : Script) (n : Nat) : Script :=
  { script with pending := script.pending.drop n }

theorem Script.explorer_rest (script : Script) (n : Nat) (r : PageRequest) :
    Script.explorer (script.rest n) r = ((script.replies n).attempt, script.rest (n + 1)) := by
  unfold explorer replies rest
  simp only
  cases h : script.pending.drop n with
  | nil =>
      have hle := List.drop_eq_nil_iff.mp h
      have hnone : script.pending[n]? = none := List.getElem?_eq_none hle
      rw [List.getD_eq_getElem?_getD, hnone, List.drop_of_length_le (Nat.le_succ_of_le hle),
        Option.getD_none]
  | cons reply pending =>
      have hreply : script.pending[n]? = some reply := by rw [← List.head?_drop, h, List.head?_cons]
      have hpending : script.pending.drop (n + 1) = pending := by
        rw [← List.drop_drop, h, List.drop_one, List.tail_cons]
      rw [List.getD_eq_getElem?_getD, hreply, hpending, Option.getD_some]

/-- **A script is its sequence of replies**: a scan that follows it comes to the same. -/
theorem scan_script (c : Config) (script : Script) (sink : Sink)
    (store : Option Checkpoint.Store) :
    let r := scan c (Explorer.replaying script.replies) (Progress.start 0 sink store)
    let r' := scan c Script.explorer (Progress.start script sink store)
    r'.2 = r.2 ∧ r'.1.exchanges = r.1.exchanges ∧ r'.1.journal = r.1.journal ∧
      r'.1.sink = r.1.sink ∧ r'.1.store = r.1.store := by
  intro r r'
  have habreast : Abreast c c.apiKey.reveal (Explorer.replaying script.replies) Script.explorer
      (fun _ => True) fun t t' =>
        t' = ⟨script.rest t.explorer, t.exchanges, t.journal⟩ := by
    refine ⟨fun _ _ => trivial, ?_, ?_⟩
    · rintro t _ rfl e he
      rfl
    · rintro t _ rfl w page client q q' course course' -
      have hcourse : course' = ⟨course.retried, course.last, script.rest course.state⟩ := by
        refine pursue_map (f := script.rest) (fun n => ?_) _ _ _
        show client.send Script.explorer q (script.rest n) = _
        unfold Client.send
        cases client.endpoint with
        | none => rfl
        | some e => exact script.explorer_rest n q
      rw [hcourse]
      exact ⟨rfl, rfl⟩
  have hstart : Along (fun t t' => t' = ⟨script.rest t.explorer, t.exchanges, t.journal⟩)
      (Progress.start 0 sink store) (Progress.start script sink store) := ⟨rfl, rfl, rfl, rfl⟩
  obtain ⟨halong, hresult⟩ := habreast.scan hstart trivial
  have htrail : r'.1.trail = ⟨script.rest r.1.explorer, r.1.exchanges, r.1.journal⟩ := halong.trail
  exact ⟨hresult, congrArg Trail.exchanges htrail, congrArg Trail.journal htrail, halong.sink,
    halong.store⟩

/-! ## One question -/

/-- Failures with the waits after them, each of which is twice as long as the one before. -/
def waited : Duration → List Failure → List (Failure × Duration)
  | _, [] => []
  | wait, f :: fs => (f, wait) :: waited wait.double fs

/-- The waits after failures are doubled each time. -/
theorem waited_getElem? (wait : Duration) (fs : List Failure) (i : Nat) :
    (waited wait fs)[i]? = fs[i]?.map fun f => (f, wait.doubled i) := by
  induction fs generalizing wait i with
  | nil => rfl
  | cons f fs ih =>
      cases i with
      | zero => simp [waited]
      | succ i =>
          rw [waited, List.getElem?_cons_succ, List.getElem?_cons_succ, ih]
          simp only [Duration.double_doubled]

@[simp] theorem length_waited (wait : Duration) (fs : List Failure) :
    (waited wait fs).length = fs.length := by
  induction fs generalizing wait with
  | nil => rfl
  | cons f fs ih => rw [waited, List.length_cons, List.length_cons, ih]

section Pursue

variable {send : Nat → Attempt × Nat} {replies : Nat → Reply}

/-- A reply that is no such failure ends the question. -/
theorem pursue_alone {reply : Reply} (hreply : ¬ reply.Transient) (left : Nat) (wait : Duration)
    (s : Nat) (hsend : send s = (reply.attempt, s + 1)) :
    pursue send left wait s = ⟨[], reply.attempt, s + 1⟩ := by
  cases left with
  | zero => simp [pursue, hsend]
  | succ left =>
      unfold pursue
      rw [hsend]
      cases hr : reply.attempt with
      | ok body => rfl
      | error f =>
          have hf : f.isRetryable ≠ true := fun hf => hreply (Reply.transient_iff.mpr ⟨f, hr, hf⟩)
          simp [hf]

/-- **Failures before a reply**, if there are attempts enough for them, are tried again, and the
question ends with the reply. -/
theorem pursue_delayed {reply : Reply} (hreply : ¬ reply.Transient) {fs : List Reply}
    (hfs : ∀ f ∈ fs, f.Transient) {left : Nat} (hleft : fs.length ≤ left) (wait : Duration)
    (s : Nat) (hsend : ∀ i, send (s + i) = ((replies i).attempt, s + i + 1))
    (hreplies : BeginsWith replies (fs ++ [reply])) :
    pursue send left wait s
      = ⟨waited wait (fs.filterMap Reply.failure?), reply.attempt, s + fs.length + 1⟩ := by
  induction fs generalizing left wait s replies with
  | nil =>
      apply pursue_alone hreply
      rw [← hreplies 0 reply rfl]
      exact hsend 0
  | cons q fs ih =>
      obtain ⟨f, hq, hf⟩ := Reply.transient_iff.mp (hfs q List.mem_cons_self)
      obtain ⟨hhead, htail⟩ := BeginsWith.tail hreplies
      have hfirst : send s = (.error f, s + 1) := by
        rw [← hq, ← hhead]
        exact hsend 0
      cases left with
      | zero => exact absurd hleft (Nat.not_succ_le_zero _)
      | succ left =>
          have hrest := ih (fun f hf => hfs f (List.mem_cons_of_mem _ hf))
            (Nat.le_of_succ_le_succ hleft) wait.double (s + 1)
            (fun i => by rw [Nat.add_assoc, Nat.add_comm 1]; exact hsend (i + 1)) htail
          unfold pursue
          rw [hfirst]
          simp only [hf, if_true, hrest]
          have hfailure : q.failure? = some f := by rw [Reply.failure?, hq]
          simp [hfailure, waited]
          omega

/-- A question takes one reply for each of its attempts. -/
theorem pursue_state (hsend : ∀ s, send s = ((replies s).attempt, s + 1)) (left : Nat)
    (wait : Duration) (s : Nat) :
    (pursue send left wait s).state = s + ((pursue send left wait s).retried.length + 1) := by
  induction left generalizing wait s with
  | zero => simp [pursue, hsend]
  | succ left ih =>
      unfold pursue
      rw [hsend]
      cases (replies s).attempt with
      | ok body => rfl
      | error f =>
          cases hf : f.isRetryable with
          | true =>
              simp only [hf, if_true, ih, List.length_cons]
              omega
          | false => simp [hf]

/-- The exchanges of the failures are those of the replies. -/
theorem map_waited (r : PageRequest) {fs : List Reply} (hfs : ∀ f ∈ fs, f.Transient)
    (wait : Duration) :
    (waited wait (fs.filterMap Reply.failure?)).map (fun f => (⟨r, .error f.1⟩ : Exchange))
      = fs.map fun q => ⟨r, q.attempt⟩ := by
  induction fs generalizing wait with
  | nil => rfl
  | cons q fs ih =>
      obtain ⟨f, hq, -⟩ := Reply.transient_iff.mp (hfs q List.mem_cons_self)
      have hfailure : q.failure? = some f := by rw [Reply.failure?, hq]
      have hrest := ih (fun f hf => hfs f (List.mem_cons_of_mem _ hf)) wait.double
      simp [hfailure, waited, hrest, hq]

end Pursue

/-! ## Scans -/

theorem isRetry_of_mem_retryEntries {attempts : Nat} {r : PageRequest} {i : Nat}
    {fs : List (Failure × Duration)} : ∀ e ∈ retryEntries attempts r i fs, e.isRetry = true := by
  intro e he
  obtain ⟨j, f, rfl⟩ := eq_retrying_of_mem_retryEntries he
  rfl

/-- A scan that is given a sequence of replies takes one for each exchange, and each of its
requests arrives. -/
structure Counted (t : Trail Nat) : Prop where
  taken : t.explorer = t.exchanges.length
  arrived : ∀ x ∈ t.exchanges, x.attempt.arrived = true

/-- The exchanges of a question with failures before its reply. -/
def retold (before : Nat → List Reply) (x : Exchange × Nat) : List Exchange :=
  (before x.2).map (fun q => ⟨x.1.request, q.attempt⟩) ++ [x.1]

/-- The entries about the failures before a reply. -/
def Config.warnings (c : Config) (before : Nat → List Reply) (x : Exchange × Nat) : List Entry :=
  retryEntries c.maxAttempts.toNat x.1.request 1
    (waited c.retryBackoff ((before x.2).filterMap Reply.failure?))

/-- The entries about the failures before a reply: one for each of them, which names it, its
number and the wait after it. -/
theorem Config.warnings_spec (c : Config) {before : Nat → List Reply} {x : Exchange × Nat}
    (hbefore : ∀ q ∈ before x.2, q.Transient) :
    (c.warnings before x).length = (before x.2).length ∧
      ∀ (i : Nat) q, (before x.2)[i]? = some q → ∃ f, q.attempt = .error f ∧
        (c.warnings before x)[i]? = some (.retrying (i + 1) c.maxAttempts.toNat x.1.request f
          (c.retryBackoff.doubled i)) := by
  obtain ⟨hlength, hparts⟩ := Reply.filterMap_failure? hbefore
  unfold warnings
  constructor
  · rw [length_retryEntries, length_waited, hlength]
  · intro i q hi
    obtain ⟨f, hf, hget⟩ := hparts i q hi
    refine ⟨f, hf, ?_⟩
    rw [retryEntries_getElem?, waited_getElem?, hget, Option.map_some, Option.map_some,
      Nat.add_comm 1]

/-- The trail of a scan and that of the same scan with failures before its replies. -/
structure Delayed (c : Config) (before : Nat → List Reply) (replies : Nat → Reply)
    (t t' : Trail Nat) : Prop where
  counted : Counted t
  taken : t'.explorer = (delayed before replies t.explorer).length
  exchanges : t'.exchanges = t.exchanges.zipIdx.flatMap (retold before)
  journal : t'.journal.filter (!·.isRetry) = t.journal
  warnings : t'.journal.filter Entry.isRetry = t.exchanges.zipIdx.flatMap (c.warnings before)

section Scans

variable {c : Config}

theorem ask_replaying (hurl : (Client.ofConfig c).endpoint.isSome) (replies : Nat → Reply)
    (r : PageRequest) (s : Nat) :
    (Client.ofConfig c).send (Explorer.replaying replies) r s = ((replies s).attempt, s + 1) :=
  Client.send_of_endpoint hurl _ r s

theorem Counted.after (hurl : (Client.ofConfig c).endpoint.isSome) (replies : Nat → Reply)
    {t : Trail Nat} (h : Counted t) (attempts : Nat) (r : PageRequest) :
    Counted (t.after attempts r
      ((Client.ofConfig c).ask (Explorer.replaying replies) r t.explorer)) := by
  constructor
  · show Course.state _ = (t.exchanges ++ Course.exchanges _ r).length
    rw [Client.ask, pursue_state (ask_replaying hurl replies r), Course.exchanges,
      List.length_append, List.length_append, List.length_map, List.length_singleton, h.taken]
  · intro x hx
    rcases List.mem_append.mp hx with hx | hx
    · exact h.arrived x hx
    · obtain ⟨-, s, hs⟩ := Client.sent_of_mem_exchanges hx
      rw [hs, ask_replaying hurl]
      exact Reply.arrived_attempt _

/-- Every scan takes one reply for each of its exchanges. -/
theorem scan_counted (hurl : (Client.ofConfig c).endpoint.isSome) (replies : Nat → Reply)
    (sink : Sink) (store : Option Checkpoint.Store) :
    Counted (scan c (Explorer.replaying replies) (Progress.start 0 sink store)).1.trail := by
  -- the scan goes abreast with itself
  have habreast : Abreast c c.apiKey.reveal (Explorer.replaying replies)
      (Explorer.replaying replies) (fun _ => True) fun t t' => t' = t ∧ Counted t := by
    refine ⟨fun _ _ => trivial, ?_, ?_⟩
    · rintro t _ ⟨rfl, h⟩ e he
      exact ⟨rfl, h.taken, h.arrived⟩
    · rintro t _ ⟨rfl, h⟩ w page client r r' course course' -
      exact ⟨⟨rfl, h.after hurl replies _ _⟩, rfl⟩
  have hstart : Along (fun t t' => t' = t ∧ Counted t) (Progress.start 0 sink store)
      (Progress.start 0 sink store) := ⟨⟨rfl, rfl, nofun⟩, rfl, rfl, rfl⟩
  exact (habreast.scan hstart trivial).1.trail.2

/-! ## Scans with failures before the replies -/

variable {before : Nat → List Reply} {replies replies' : Nat → Reply} {t t' : Trail Nat}

theorem Delayed.say (h : Delayed c before replies t t') {e : Entry} (he : e.isRetry = false) :
    Delayed c before replies (t.say e) (t'.say e) where
  counted := ⟨h.counted.taken, h.counted.arrived⟩
  taken := h.taken
  exchanges := h.exchanges
  journal := by simp [Trail.say, h.journal, he]
  warnings := by simp [Trail.say, h.warnings, he]

/-- A question with failures before its reply, beside the same question without them. -/
theorem Delayed.ask (hurl : (Client.ofConfig c).endpoint.isSome)
    (h : Delayed c before replies t t') (hreply : ¬ (replies t.explorer).Transient)
    (hfew : (before t.explorer).length < c.maxAttempts.toNat)
    (hbefore : ∀ q ∈ before t.explorer, q.Transient)
    (hreplies : BeginsWith (fun i => replies' (t'.explorer + i))
      (before t.explorer ++ [replies t.explorer])) (r : PageRequest) :
    let client := Client.ofConfig c
    let course := client.ask (Explorer.replaying replies) r t.explorer
    let course' := client.ask (Explorer.replaying replies') r t'.explorer
    Delayed c before replies (t.after client.maxAttempts r course)
        (t'.after client.maxAttempts r course') ∧
      course'.last.reading = course.last.reading := by
  intro client course course'
  have hattempts : client.maxAttempts = c.maxAttempts.toNat :=
    Nat.max_eq_right (Nat.zero_lt_of_lt hfew)
  have hcourse : course = ⟨[], (replies t.explorer).attempt, t.explorer + 1⟩ :=
    pursue_alone hreply _ _ t.explorer (ask_replaying hurl replies r _)
  have hcourse' : course' = ⟨waited c.retryBackoff ((before t.explorer).filterMap Reply.failure?),
      (replies t.explorer).attempt, t'.explorer + (before t.explorer).length + 1⟩ :=
    pursue_delayed hreply hbefore (by omega) _ t'.explorer
      (fun i => ask_replaying hurl replies' r _) hreplies
  have hx : course.exchanges r = [⟨r, (replies t.explorer).attempt⟩] := by rw [hcourse]; rfl
  have hx' : course'.exchanges r
      = retold before (⟨r, (replies t.explorer).attempt⟩, t.exchanges.length) := by
    rw [hcourse', Course.exchanges, map_waited r hbefore, retold, ← h.counted.taken]
  refine ⟨⟨h.counted.after hurl replies _ r, ?_, ?_, ?_, ?_⟩, ?_⟩
  · show course'.state = (delayed before replies course.state).length
    rw [hcourse, hcourse', delayed_succ, List.length_append, ← h.taken, List.length_append]
    rfl
  · show t'.exchanges ++ course'.exchanges r
      = (t.exchanges ++ course.exchanges r).zipIdx.flatMap (retold before)
    rw [h.exchanges, hx, hx', List.zipIdx_append, List.flatMap_append]
    simp
  · show (t'.journal ++ retryEntries _ r 1 course'.retried).filter (!·.isRetry)
      = t.journal ++ retryEntries _ r 1 course.retried
    have hnone :
        (retryEntries client.maxAttempts r 1 course'.retried).filter (!·.isRetry) = [] := by
      rw [List.filter_eq_nil_iff]
      intro e he
      simp [isRetry_of_mem_retryEntries e he]
    rw [List.filter_append, h.journal, hnone, hcourse]
    rfl
  · show (t'.journal ++ retryEntries _ r 1 course'.retried).filter Entry.isRetry
      = (t.exchanges ++ course.exchanges r).zipIdx.flatMap (c.warnings before)
    have hall : (retryEntries client.maxAttempts r 1 course'.retried).filter Entry.isRetry
        = c.warnings before (⟨r, (replies t.explorer).attempt⟩, t.exchanges.length) := by
      rw [List.filter_eq_self.mpr isRetry_of_mem_retryEntries, hcourse', hattempts,
        Config.warnings, ← h.counted.taken]
    rw [List.filter_append, h.warnings, hall, hx, List.zipIdx_append, List.flatMap_append]
    simp
  · rw [hcourse, hcourse']

/-- The two scans go abreast as far as the replies are described. -/
theorem abreast_delayed (hurl : (Client.ofConfig c).endpoint.isSome) {taken : Nat}
    (hreplies : ∀ i < taken, ¬ (replies i).Transient)
    (hbefore : ∀ i < taken,
      (before i).length < c.maxAttempts.toNat ∧ ∀ q ∈ before i, q.Transient)
    (hbegins : BeginsWith replies' (delayed before replies taken)) :
    Abreast c c.apiKey.reveal (Explorer.replaying replies) (Explorer.replaying replies')
      (fun xs => xs.length ≤ taken) (Delayed c before replies) where
  shorter := fun hprefix hle => Nat.le_trans hprefix.length_le hle
  say := fun h _ he => h.say he
  ask := by
    intro t t' h w page client r r' course course' hle
    have hone : 0 < (course.exchanges r).length := by simp [Course.exchanges]
    have hlt : t.explorer < taken := by
      rw [List.length_append, ← h.counted.taken] at hle
      omega
    obtain ⟨hfew, hfailures⟩ := hbefore _ hlt
    have hrest := hbegins.at hlt
    rw [← h.taken] at hrest
    exact h.ask hurl (hreplies _ hlt) hfew hfailures hrest r

/-- The targets of a scan with failures before its replies. -/
theorem Delayed.targets (hurl : (Client.ofConfig c).endpoint.isSome)
    (h : Delayed c before replies t t') :
    (Client.ofConfig c).targets t'.exchanges
      = ((Client.ofConfig c).targets t.exchanges).zipIdx.flatMap fun x =>
          List.replicate ((before x.2).length + 1) x.1 := by
  obtain ⟨e, he⟩ := Option.isSome_iff_exists.mp hurl
  have harrived : ∀ x ∈ t'.exchanges, x.attempt.arrived = true := by
    intro x hx
    rw [h.exchanges] at hx
    obtain ⟨y, hy, hx⟩ := List.mem_flatMap.mp hx
    rcases List.mem_append.mp hx with hx | hx
    · obtain ⟨q, -, rfl⟩ := List.mem_map.mp hx
      exact Reply.arrived_attempt q
    · rw [List.mem_singleton.mp hx]
      exact h.counted.arrived _ (List.fst_mem_of_mem_zipIdx hy)
  rw [Client.targets_eq he, List.filter_eq_self.mpr harrived, Client.targets_eq he,
    List.filter_eq_self.mpr h.counted.arrived, h.exchanges, List.map_flatMap, List.zipIdx_map,
    List.flatMap_map]
  apply List.flatMap_congr
  intro x hx
  simp [retold, List.replicate_succ', Function.comp_def]

/-- Where the parts of a row of rows stand in it, if the part with number `n` has `size n`
elements. -/
theorem zipIdx_flatMap_parts {α β : Type} (g : α × Nat → List β) (size : Nat → Nat) (l : List α)
    (hg : ∀ (n : Nat) x, l[n]? = some x → (g (x, n)).length = size n) :
    (l.zipIdx.flatMap g).length = ((List.range l.length).map size).sum ∧
      ∀ (n i : Nat) x y, l[n]? = some x → (g (x, n))[i]? = some y →
        (l.zipIdx.flatMap g)[((List.range n).map size).sum + i]? = some y := by
  induction l using List.reverseRecOn with
  | nil => simp
  | append_singleton l a ih =>
      have hfront : ∀ (n : Nat) x, l[n]? = some x → (l ++ [a])[n]? = some x := by
        intro n x hx
        rw [List.getElem?_append_left (List.getElem?_eq_some_iff.mp hx).1, hx]
      obtain ⟨hlength, hparts⟩ := ih fun n x hx => hg n x (hfront n x hx)
      have hsplit : (l ++ [a]).zipIdx.flatMap g = l.zipIdx.flatMap g ++ g (a, l.length) := by
        rw [List.zipIdx_append, List.flatMap_append]
        simp
      have hlast : (l ++ [a])[l.length]? = some a := by simp
      rw [hsplit]
      constructor
      · rw [List.length_append, hlength, hg _ _ hlast, List.length_append, List.length_singleton,
          List.range_succ, List.map_append, List.sum_append, List.map_singleton,
          List.sum_singleton]
      · intro n i x y hx hy
        -- the last part stands behind all others, and these stand where they stood
        rcases Nat.lt_or_ge n l.length with hn | hn
        · rw [List.getElem?_append_left hn] at hx
          have hpart := hparts n i x y hx hy
          rw [List.getElem?_append_left (List.getElem?_eq_some_iff.mp hpart).1, hpart]
        · obtain rfl : n = l.length := by
            have := (List.getElem?_eq_some_iff.mp hx).1
            rw [List.length_append, List.length_singleton] at this
            omega
          obtain rfl := Option.some.inj (hlast.symm.trans hx)
          rw [← hlength, List.getElem?_append_right (Nat.le_add_right _ _),
            Nat.add_sub_cancel_left, hy]

/-- **Failures that pass are invisible.** Let none of the replies that a scan takes be such a
failure, and let some, fewer than the scan makes attempts, be put before each of them. Then the
result of the scan is the same, its sink and its store are the same, each of its targets is
repeated once for each failure before its reply, and its journal is the same but for the warnings
that a request is tried again. Of these there are as many as failures, in their order: warning `i`
about the request with number `n` stands behind those about the requests before it. It names the
attempt, the failure, and the wait after it, which is doubled with each failure before the same
reply, up to the greatest duration. -/
theorem scan_delayed (c : Config) (hc : c.problem? = none)
    (hurl : (Client.ofConfig c).endpoint.isSome) (replies replies' : Nat → Reply)
    (before : Nat → List Reply) (sink : Sink) (store : Option Checkpoint.Store) :
    let r := scan c (Explorer.replaying replies) (Progress.start 0 sink store)
    let r' := scan c (Explorer.replaying replies') (Progress.start 0 sink store)
    let taken := r.1.explorer
    let warnings := r'.1.journal.filter Entry.isRetry
    (∀ i < taken, ¬ (replies i).Transient) →
    (∀ i < taken, (before i).length ≤ c.maxAttempts.toNat - 1 ∧ ∀ q ∈ before i, q.Transient) →
    BeginsWith replies' (delayed before replies taken) →
      r'.2 = r.2 ∧ r'.1.report = r.1.report ∧ r'.1.sink = r.1.sink ∧ r'.1.store = r.1.store ∧
        r'.1.explorer = (delayed before replies taken).length ∧
        r'.1.targets c = (r.1.targets c).zipIdx.flatMap (fun x =>
          List.replicate ((before x.2).length + 1) x.1) ∧
        r'.1.journal.filter (!·.isRetry) = r.1.journal ∧
        warnings.length = ((List.range taken).map fun n => (before n).length).sum ∧
        r.1.exchanges.length = taken ∧
        ∀ (n i : Nat) x q, r.1.exchanges[n]? = some x → (before n)[i]? = some q → ∃ f wait e,
          q.attempt = .error f ∧ wait.nanos = min (c.retryBackoff.nanos * 2 ^ i) maxNanos ∧
          warnings[((List.range n).map fun m => (before m).length).sum + i]? = some e ∧
          e = .retrying (i + 1) c.maxAttempts.toNat x.request f wait ∧ e.level = .warn ∧
          e.text = "Explorer request failed (attempt " ++ toString (i + 1) ++ "/" ++
            toString c.maxAttempts.toNat ++ ", blocks " ++ toString x.request.fromBlock ++ "-" ++
            toString x.request.toBlock ++ " page " ++ toString x.request.page ++ "): " ++
            f.message ++ ". Retrying in " ++ wait.toText := by
  intro r r' taken warnings hreplies hbefore hbegins
  have hpos := (Config.fits_of_problem? hc).maxAttempts_pos
  have hlength : taken = r.1.exchanges.length := (scan_counted hurl replies sink store).taken
  have hstart : Along (Delayed c before replies) (Progress.start 0 sink store)
      (Progress.start 0 sink store) := ⟨⟨⟨rfl, nofun⟩, rfl, rfl, rfl, rfl⟩, rfl, rfl, rfl⟩
  have habreast := abreast_delayed hurl hreplies
    (fun i hi => ⟨by have := (hbefore i hi).1; omega, (hbefore i hi).2⟩) hbegins
  obtain ⟨halong, hresult⟩ := habreast.scan hstart (Nat.le_of_eq hlength.symm)
  have hdelayed : Delayed c before replies r.1.trail r'.1.trail := halong.trail
  -- the warnings are those about one request after those about the other
  have hwarnings : warnings = r.1.exchanges.zipIdx.flatMap (c.warnings before) :=
    hdelayed.warnings
  have htransient : ∀ (n : Nat) x, r.1.exchanges[n]? = some x → ∀ q ∈ before n, q.Transient :=
    fun n x hx => (hbefore n (hlength ▸ (List.getElem?_eq_some_iff.mp hx).1)).2
  obtain ⟨hcount, hparts⟩ := zipIdx_flatMap_parts (c.warnings before)
    (fun n => (before n).length) r.1.exchanges
    fun n x hx => (c.warnings_spec (x := (x, n)) (htransient n x hx)).1
  refine ⟨hresult, halong.report, halong.sink, halong.store, hdelayed.taken,
    hdelayed.targets hurl, hdelayed.journal, ?_, hlength.symm, fun n i x q hx hq => ?_⟩
  · rw [hwarnings, hcount, hlength]
  · obtain ⟨f, hf, hwarning⟩ := (c.warnings_spec (x := (x, n)) (htransient n x hx)).2 i q hq
    refine ⟨f, c.retryBackoff.doubled i, _, hf, Duration.nanos_clamp _, ?_, rfl, rfl, rfl⟩
    rw [hwarnings]
    exact hparts n i x _ hx hwarning

/-- Two windows without logs. The connection is dropped before the first reply, and the explorer
is too busy before each of them, so that the first question takes all its attempts. -/
theorem scan_delayed_two_windows :
    let c : Config := { Config.default [] with fromBlock := 0, toBlock := 20, blockRange := 10 }
    let lost : Reply := ⟨200, none, [], false, true⟩
    let busy : Reply := ⟨429, none, [], false, false⟩
    let replies : Nat → Reply := fun _ => .noRecords
    let before : Nat → List Reply := fun i => if i = 0 then [lost, busy] else [busy]
    let replies' : Nat → Reply := fun i =>
      [lost, busy, .noRecords, busy, .noRecords].getD i .noRecords
    let r := scan c (Explorer.replaying replies) (Progress.start 0 Sink.unlimited (some []))
    let r' := scan c (Explorer.replaying replies') (Progress.start 0 Sink.unlimited (some []))
    c.problem? = none ∧ (Client.ofConfig c).endpoint.isSome = true ∧ r.1.explorer = 2 ∧
      (∀ i < r.1.explorer, ¬ (replies i).Transient) ∧
      (∀ i < r.1.explorer, (before i).length ≤ c.maxAttempts.toNat - 1 ∧
        ∀ q ∈ before i, q.Transient) ∧
      BeginsWith replies' (delayed before replies r.1.explorer) ∧
      r'.2 = r.2 ∧ r'.1.sink = r.1.sink ∧ r'.1.store = r.1.store ∧ r'.1.explorer = 5 ∧
      r'.1.targets c = (r.1.targets c).zipIdx.flatMap (fun x =>
        List.replicate ((before x.2).length + 1) x.1) ∧
      r'.1.journal.filter (!·.isRetry) = r.1.journal ∧
      (r'.1.journal.filter Entry.isRetry).map Entry.text
        = ["Explorer request failed (attempt 1/3, blocks 0-10 page 1): " ++
            "error sending request. Retrying in 500ms",
          "Explorer request failed (attempt 2/3, blocks 0-10 page 1): " ++
            "HTTP status client error (429 Too Many Requests). Retrying in 1s",
          "Explorer request failed (attempt 1/3, blocks 10-20 page 1): " ++
            "HTTP status client error (429 Too Many Requests). Retrying in 500ms"] := by
  intro c lost busy replies before replies' r r'
  have hc : c.problem? = none := by decide
  have hurl : (Client.ofConfig c).endpoint.isSome = true := by decide +kernel
  have htaken : r.1.explorer = 2 := by decide +kernel
  have hreplies : ∀ i < r.1.explorer, ¬ (replies i).Transient := by
    rw [htaken]
    decide
  have hbefore : ∀ i < r.1.explorer, (before i).length ≤ c.maxAttempts.toNat - 1 ∧
      ∀ q ∈ before i, q.Transient := by
    rw [htaken]
    decide
  have hdelayed : delayed before replies 2 = [lost, busy, .noRecords, busy, .noRecords] := by decide
  have hbegins : BeginsWith replies' (delayed before replies r.1.explorer) := by
    rw [htaken, hdelayed]
    intro i q hi
    simp only [replies', List.getD_eq_getElem?_getD, hi, Option.getD_some]
  obtain ⟨hresult, -, hsink, hstore, hall, htargets, hjournal, hcount, hexchanges, hwarnings⟩ :=
    scan_delayed c hc hurl replies replies' before Sink.unlimited (some []) hreplies hbefore hbegins
  refine ⟨hc, hurl, htaken, hreplies, hbefore, hbegins, hresult, hsink, hstore, ?_, htargets,
    hjournal, ?_⟩
  · rw [hall, htaken, hdelayed]
    rfl
  · -- what was asked without the failures, and which of the failures come before it
    have hasked : r.1.exchanges.map (fun x =>
        (x.request.fromBlock, x.request.toBlock, x.request.page)) = [(0, 10, 1), (10, 20, 1)] := by
      decide +kernel
    replace hexchanges : r.1.exchanges.length = 2 := hexchanges.trans htaken
    replace hcount : (r'.1.journal.filter Entry.isRetry).length = 3 := by
      refine hcount.trans ?_
      show ((List.range r.1.explorer).map fun n => (before n).length).sum = 3
      rw [htaken]
      rfl
    obtain ⟨x, y, hxy⟩ := List.length_eq_two.mp hexchanges
    obtain ⟨a, b, d, habd⟩ := List.length_eq_three.mp hcount
    have hx : r.1.exchanges[0]? = some x := by rw [hxy]; rfl
    have hy : r.1.exchanges[1]? = some y := by rw [hxy]; rfl
    obtain ⟨f, first, _, hf, hfirst, ha, -, -, htextA⟩ := hwarnings 0 0 x lost hx rfl
    obtain ⟨g, second, _, hg, hsecond, hb, -, -, htextB⟩ := hwarnings 0 1 x busy hx rfl
    obtain ⟨g', third, _, hg', hthird, hd, -, -, htextD⟩ := hwarnings 1 0 y busy hy rfl
    obtain rfl := Option.some.inj ((congrArg (·[0]?) habd).symm.trans ha)
    obtain rfl := Option.some.inj ((congrArg (·[1]?) habd).symm.trans hb)
    obtain rfl := Option.some.inj ((congrArg (·[2]?) habd).symm.trans hd)
    rw [hxy] at hasked
    rw [habd]
    obtain rfl : Failure.lost = f := Except.error.inj hf
    obtain rfl : Failure.status 429 "Too Many Requests".toList = g := Except.error.inj hg
    obtain rfl : Failure.status 429 "Too Many Requests".toList = g' := Except.error.inj hg'
    obtain rfl : first = Duration.ofMillis 500 :=
      Duration.nanos_injective (hfirst.trans (by decide +kernel))
    obtain rfl : second = Duration.ofMillis 1000 :=
      Duration.nanos_injective (hsecond.trans (by decide +kernel))
    obtain rfl : third = Duration.ofMillis 500 :=
      Duration.nanos_injective (hthird.trans (by decide +kernel))
    simp only [List.map_cons, List.map_nil, List.cons.injEq, Prod.mk.injEq, and_true] at hasked
    obtain ⟨⟨hfrom, hto, hpage⟩, hfrom', hto', hpage'⟩ := hasked
    rw [List.map_cons, List.map_cons, List.map_singleton, htextA, htextB, htextD, hfrom, hto, hpage,
      hfrom', hto', hpage']
    decide +kernel

end Scans

end DepositTrail
