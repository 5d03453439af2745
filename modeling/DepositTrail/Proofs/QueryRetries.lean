import DepositTrail.Proofs.Question
import DepositTrail.Proofs.Settings
import Mathlib.Algebra.Group.Nat.Defs
import Mathlib.Data.List.Basic
import Mathlib.Order.Bounds.Basic

set_option autoImplicit false

/-! # How long a question is pursued

A client gets a sequence of attempts from an explorer, if it goes on asking. It does go on until
the first attempt that has not failed in a passing way, and not beyond its number of attempts:
the last attempt is the least one of those two (`pursue_follows`). Between the attempts it waits,
the first time as long as its configuration says and then twice as long each time, which comes to
a power of two up to the greatest duration (`Duration.double_doubled`). What comes of the question
is what the last attempt brings, and the journal has an entry about each attempt before it
(`query_pursued`).

The induction is on the attempts that are left, with the sequence moved on by one attempt each
time; so the lemmas are about any sequence, and say how a course along the rest of a sequence
becomes a course along all of it.
-/

namespace DepositTrail

/-! ## Waits -/

namespace Duration

/-- The duration doubled so many times, or the greatest one. -/
def doubled (d : Duration) (times : ℕ) : Duration := clamp (d.nanos * 2 ^ times)

@[simp] theorem doubled_zero (d : Duration) : d.doubled 0 = d := by
  apply nanos_injective
  rw [doubled, nanos_clamp, Nat.pow_zero, Nat.mul_one]
  exact Nat.min_eq_left d.nanos_le

/-- Doubling stops at the greatest duration, wherever in the row it is reached. -/
theorem double_doubled (d : Duration) (times : ℕ) :
    d.double.doubled times = d.doubled (times + 1) := by
  have hpos : 0 < 2 ^ times := Nat.two_pow_pos times
  have hgreatest : maxNanos ≤ maxNanos * 2 ^ times := Nat.le_mul_of_pos_right _ hpos
  have hmul : 2 * d.nanos * 2 ^ times = d.nanos * 2 ^ (times + 1) := by
    rw [Nat.pow_succ, Nat.mul_comm 2, Nat.mul_assoc, Nat.mul_comm 2]
  apply nanos_injective
  rw [doubled, doubled, double, nanos_clamp, nanos_clamp, nanos_clamp, ← hmul,
    ← Nat.mul_min_mul_right]
  omega

end Duration

/-! ## Attempts that are made again -/

/-- An attempt that has failed in a way that may pass: without a status, or with status 429 or
one that says that the server has failed. -/
def Attempt.Passing (a : Attempt) : Prop :=
  ∃ f, a = .error f ∧
    ∀ code reason, f = .status code reason → code = 429 ∨ (500 ≤ code ∧ code ≤ 599)

theorem Failure.isRetryable_iff {f : Failure} :
    f.isRetryable = true ↔
      ∀ code reason, f = .status code reason → code = 429 ∨ (500 ≤ code ∧ code ≤ 599) := by
  cases f with
  | status code reason =>
      simp only [isRetryable, Bool.or_eq_true, Bool.and_eq_true, decide_eq_true_eq, status.injEq]
      constructor
      · rintro h code' reason' ⟨rfl, rfl⟩
        omega
      · intro h
        have := h code reason ⟨rfl, rfl⟩
        omega
  | _ => simp [isRetryable]

theorem Attempt.passing_error {f : Failure} :
    Attempt.Passing (.error f) ↔ f.isRetryable = true := by
  rw [Failure.isRetryable_iff]
  constructor
  · rintro ⟨g, hg, h⟩
    cases hg
    exact h
  · intro h
    exact ⟨f, rfl, h⟩

theorem Attempt.not_passing_ok (body : Text) : ¬ Attempt.Passing (.ok body) := by
  rintro ⟨f, hf, -⟩
  cases hf

/-! ## Courses along a sequence of attempts -/

section Pursue

variable {σ : Type} {send : σ → Attempt × σ} {outcome : ℕ → Attempt} {state : ℕ → σ}

/-- The attempts after which no other is made, when `left` more may follow the first one. -/
def stops (outcome : ℕ → Attempt) (left : ℕ) : Set ℕ :=
  {i | i = left ∨ ¬ (outcome i).Passing}

/-- The first attempt is the last one if it has not failed in a passing way. -/
theorem isLeast_stops_zero {left : ℕ} (h : left = 0 ∨ ¬ (outcome 0).Passing) :
    IsLeast (stops outcome left) 0 :=
  ⟨h.imp Eq.symm id, fun _ _ => Nat.zero_le _⟩

/-- After a first attempt that is made again, the rest of the sequence decides. -/
theorem isLeast_stops_succ {left k : ℕ} (hfirst : (outcome 0).Passing)
    (h : IsLeast (stops (fun i => outcome (i + 1)) left) k) :
    IsLeast (stops outcome (left + 1)) (k + 1) := by
  constructor
  · exact h.1.imp (congrArg (· + 1)) id
  · intro i hi
    cases i with
    | zero =>
        rcases hi with hi | hi
        · cases hi
        · exact absurd hfirst hi
    | succ i => exact Nat.succ_le_succ (h.2 (hi.imp Nat.succ.inj id))

/-- A course goes along a sequence of attempts up to the one with number `k`, from a first wait
on that is doubled each time. -/
structure Course.Follows (c : Course σ) (outcome : ℕ → Attempt) (wait : Duration) (k : ℕ) :
    Prop where
  last : c.last = outcome k
  length : c.retried.length = k
  retried : ∀ (i : ℕ) f, c.retried[i]? = some f → outcome i = .error f.1 ∧ f.2 = wait.doubled i

/-- One attempt more before a course. -/
theorem Course.Follows.cons {c : Course σ} {wait : Duration} {k : ℕ} {f : Failure}
    (h : c.Follows (fun i => outcome (i + 1)) wait.double k) (hfirst : outcome 0 = .error f) :
    Course.Follows { c with retried := (f, wait) :: c.retried } outcome wait (k + 1) where
  last := h.last
  length := congrArg (· + 1) h.length
  retried := by
    intro i g hg
    cases i with
    | zero =>
        obtain rfl : (f, wait) = g := by simpa using hg
        exact ⟨hfirst, (Duration.doubled_zero wait).symm⟩
    | succ i =>
        obtain ⟨houtcome, hwait⟩ := h.retried i g (by simpa using hg)
        exact ⟨houtcome, hwait.trans (Duration.double_doubled wait i)⟩

/-- **A question is pursued** up to the first attempt after which no other is made, and leaves the
explorer as it is after this attempt. -/
theorem pursue_follows (hsend : ∀ i, send (state i) = (outcome i, state (i + 1))) (left : ℕ)
    (wait : Duration) :
    ∃ k, IsLeast (stops outcome left) k ∧
      (pursue send left wait (state 0)).Follows outcome wait k ∧
      (pursue send left wait (state 0)).state = state (k + 1) := by
  induction left generalizing wait outcome state with
  | zero =>
      refine ⟨0, isLeast_stops_zero (.inl rfl), ⟨?_, rfl, by simp [pursue]⟩, ?_⟩ <;>
        rw [pursue, hsend 0]
  | succ left ih =>
      unfold pursue
      rw [hsend 0]
      cases houtcome : outcome 0 with
      | ok body =>
          have hstop : ¬ (outcome 0).Passing := houtcome ▸ Attempt.not_passing_ok body
          exact ⟨0, isLeast_stops_zero (.inr hstop), ⟨houtcome.symm, rfl, by simp⟩, rfl⟩
      | error f =>
          by_cases hf : f.isRetryable = true
          · have hagain : (outcome 0).Passing := houtcome ▸ Attempt.passing_error.mpr hf
            obtain ⟨k, hk, hfollows, hstate⟩ := ih (fun i => hsend (i + 1)) wait.double
            simp only [hf, if_true]
            exact ⟨k + 1, isLeast_stops_succ hagain hk, hfollows.cons houtcome, hstate⟩
          · have hstop : ¬ (outcome 0).Passing := houtcome ▸ mt Attempt.passing_error.mp hf
            simp only [hf]
            exact ⟨0, isLeast_stops_zero (.inr hstop), ⟨houtcome.symm, rfl, by simp⟩, rfl⟩

/-- The exchanges of a course are the attempts of the sequence. -/
theorem Course.Follows.exchanges {c : Course σ} {wait : Duration} {k : ℕ}
    (h : c.Follows outcome wait k) (r : PageRequest) :
    c.exchanges r = (List.range (k + 1)).map fun i => ⟨r, outcome i⟩ := by
  have hretried : c.retried.map (fun f => (⟨r, .error f.1⟩ : Exchange))
      = (List.range k).map fun i => ⟨r, outcome i⟩ := by
    apply List.ext_getElem
    · simp [h.length]
    · intro i hi _
      rw [List.length_map] at hi
      obtain ⟨houtcome, -⟩ := h.retried i _ (List.getElem?_eq_getElem hi)
      simp [houtcome]
  rw [Course.exchanges, hretried, h.last, List.range_succ, List.map_append, List.map_singleton]

end Pursue

/-! ## What is said about it -/

@[simp] theorem length_retryEntries (attempts : ℕ) (r : PageRequest) (i : ℕ)
    (fs : List (Failure × Duration)) : (retryEntries attempts r i fs).length = fs.length := by
  induction fs generalizing i with
  | nil => rfl
  | cons f fs ih => rw [retryEntries, List.length_cons, List.length_cons, ih]

/-- The entries are about the failures in their order, and count the attempts. -/
theorem retryEntries_getElem? (attempts : ℕ) (r : PageRequest) (i j : ℕ)
    (fs : List (Failure × Duration)) :
    (retryEntries attempts r i fs)[j]?
      = fs[j]?.map fun f => .retrying (i + j) attempts r f.1 f.2 := by
  induction fs generalizing i j with
  | nil => rfl
  | cons f fs ih =>
      cases j with
      | zero => rfl
      | succ j =>
          rw [retryEntries, List.getElem?_cons_succ, List.getElem?_cons_succ, ih, Nat.add_assoc,
            Nat.add_comm 1]

/-! ## Questions -/

variable {σ : Type}

/-- **How a question goes**, whatever the explorer does. The states and the attempts are those
that follow one another when a client with this configuration goes on asking. The last attempt,
with number `k` from zero, is the first one that uses up the attempts or has not failed in a
passing way; no other attempt is made after it. If it has brought a body, the question comes to
what is read in this body, be it an envelope or a defect, and else to the failure. The journal
has one warning more about each attempt before it, in their order, with the number of the
attempt, the number of attempts there may be, and the wait after it: the one of the configuration,
doubled once for each warning before, up to the greatest duration; and it says so in words. -/
theorem query_pursued (c : Config) (explorer : Explorer σ) (r : PageRequest) (p : Progress σ)
    (state : ℕ → σ) (outcome : ℕ → Attempt) (hstart : p.explorer = state 0)
    (hsend : ∀ i, (Client.ofConfig c).send explorer r (state i) = (outcome i, state (i + 1))) :
    let attempts := max 1 c.maxAttempts.toNat
    let q := (Setup.ofConfig c explorer).query r p
    ∃ k, IsLeast {i | i + 1 = attempts ∨ ¬ (outcome i).Passing} k ∧
      q.1.explorer = state (k + 1) ∧
      q.1.exchanges = p.exchanges ++ (List.range (k + 1)).map (fun i => ⟨r, outcome i⟩) ∧
      (∀ body, outcome k = .ok body →
        q.2 = (Envelope.read body).mapError (ScanProblem.body body)) ∧
      (∀ f, outcome k = .error f → q.2 = .error (.transport f)) ∧
      ∃ warnings, q.1.journal = p.journal ++ warnings ∧ warnings.length = k ∧
        ∀ (i : ℕ) e, warnings[i]? = some e → e.level = .warn ∧
          ∃ f wait, outcome i = .error f ∧ e = .retrying (i + 1) attempts r f wait ∧
            wait.nanos = min (c.retryBackoff.nanos * 2 ^ i) maxNanos ∧
            e.text = "Explorer request failed (attempt " ++ toString (i + 1) ++ "/" ++
              toString attempts ++ ", blocks " ++ toString r.fromBlock ++ "-" ++
              toString r.toBlock ++ " page " ++ toString r.page ++ "): " ++ f.message ++
              ". Retrying in " ++ wait.toText := by
  intro attempts q
  obtain ⟨k, hk, hfollows, hstate⟩ :=
    pursue_follows hsend (attempts - 1) c.retryBackoff
  have hpos : 1 ≤ attempts := Nat.le_max_left _ _
  have hset : stops outcome (attempts - 1) = {i | i + 1 = attempts ∨ ¬ (outcome i).Passing} := by
    ext i
    have hnumber : i = attempts - 1 ↔ i + 1 = attempts := by omega
    simp only [stops, Set.mem_ofPred_eq, hnumber]
  rw [← hstart] at hfollows hstate
  -- the question is the course that the client follows
  have hq : q = ((Setup.ofConfig c explorer).asked r p, (outcome k).reading) := by
    rw [← hfollows.last]
    exact Setup.query_eq _ _ _
  refine ⟨k, hset ▸ hk, ?_, ?_, ?_, ?_, _, by rw [hq]; rfl, ?_, ?_⟩
  · rw [hq]
    exact hstate
  · rw [hq, Setup.asked_exchanges]
    exact congrArg (p.exchanges ++ ·) (hfollows.exchanges r)
  · intro body hbody
    rw [hq, hbody, Attempt.reading]
    cases Envelope.read body <;> rfl
  · intro f hf
    rw [hq, hf]
    rfl
  · rw [length_retryEntries]
    exact hfollows.length
  · intro i e he
    rw [retryEntries_getElem?, Option.map_eq_some_iff] at he
    obtain ⟨f, hf, rfl⟩ := he
    obtain ⟨houtcome, hwait⟩ := hfollows.retried i f hf
    rw [Nat.add_comm 1]
    refine ⟨rfl, f.1, f.2, houtcome, rfl, ?_, rfl⟩
    rw [hwait, Duration.doubled, Duration.nanos_clamp]

/-- Three attempts, of which the third one fails for good: both reasons to stop are there. -/
theorem query_pursued_to_the_end :
    let c := Config.default []
    let r : PageRequest := ⟨[], 0, 10, 1, 100, ⟨[]⟩⟩
    let outcome : ℕ → Attempt := fun i =>
      [.error (.status 503 []), .error .lost, .error (.status 404 [])].getD i (.ok [])
    let explorer : Explorer ℕ := fun i _ => (outcome i, i + 1)
    let p : Progress ℕ := Progress.start 0 Sink.unlimited none
    let q := (Setup.ofConfig c explorer).query r p
    (∀ i, (Client.ofConfig c).send explorer r i = (outcome i, i + 1)) ∧
      IsLeast {i | i + 1 = max 1 c.maxAttempts.toNat ∨ ¬ (outcome i).Passing} 2 ∧
      q.1.explorer = 3 ∧ q.2 = .error (.transport (.status 404 [])) ∧
      ∃ first second, q.1.journal
        = [.retrying 1 3 r (.status 503 []) first, .retrying 2 3 r .lost second] ∧
        first.nanos = 500000000 ∧ second.nanos = 1000000000 := by
  intro c r outcome explorer p q
  have hsend : ∀ i, (Client.ofConfig c).send explorer r i = (outcome i, i + 1) := fun i =>
    Client.send_of_endpoint (by decide +kernel) explorer r i
  have hleast : IsLeast {i | i + 1 = max 1 c.maxAttempts.toNat ∨ ¬ (outcome i).Passing} 2 := by
    constructor
    · left
      rfl
    · -- the two failures before it may pass, and leave attempts
      intro i hi
      match i with
      | 0 | 1 =>
          rcases hi with hi | hi
          · exact absurd hi (by decide)
          · exact absurd (Attempt.passing_error.mpr rfl) hi
      | i + 2 => exact Nat.le_add_left 2 i
  obtain ⟨k, hk, hstate, -, -, hfailure, warnings, hjournal, hlength, hwarnings⟩ :=
    query_pursued c explorer r p id outcome rfl hsend
  obtain rfl : k = 2 := hk.unique hleast
  obtain ⟨a, b, rfl⟩ := List.length_eq_two.mp hlength
  obtain ⟨-, f, first, hf, rfl, hfirst, -⟩ := hwarnings 0 a rfl
  obtain ⟨-, g, second, hg, rfl, hsecond, -⟩ := hwarnings 1 b rfl
  cases hf
  cases hg
  exact ⟨hsend, hleast, hstate, hfailure _ rfl, first, second, hjournal,
    hfirst.trans (by decide +kernel), hsecond.trans (by decide +kernel)⟩

end DepositTrail
