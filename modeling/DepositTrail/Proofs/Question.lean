import DepositTrail.Scan

set_option autoImplicit false

/-! # Asking for a page

What comes of asking for one page, in terms of the attempts that were made. A question leaves
its attempts in the list of exchanges and touches neither sink nor counts nor store; it brings
an envelope exactly when the last attempt has brought one (`query_eq`), and the last attempt is
what the client gets from the explorer in some state (`ask_last`).

The list of exchanges is the record on which the laws of a scan are stated: which envelopes
have been received (`envelopes`), and about which window (`Exchange.isAbout`).
-/

namespace DepositTrail

/-! ## Results -/

theorem eq_ok_of_toOption {ε α : Type} {r : Except ε α} {a : α} (h : r.toOption = some a) :
    r = .ok a := by
  cases r with
  | error e => cases h
  | ok b => exact congrArg Except.ok (Option.some.inj h)

theorem exists_error_of_toOption {ε α : Type} {r : Except ε α} (h : r.toOption = none) :
    ∃ e, r = .error e := by
  cases r with
  | error e => exact ⟨e, rfl⟩
  | ok b => cases h

/-! ## What has been received -/

/-- What an attempt brings: an envelope, or the reason why a scan cannot go on. -/
def Attempt.reading : Attempt → Except ScanProblem Envelope
  | .error f => .error (.transport f)
  | .ok body =>
      match Envelope.read body with
      | .error e => .error (.body body e)
      | .ok envelope => .ok envelope

/-- The envelope that an attempt has brought, if it has brought one that can be read. -/
def Attempt.envelope? (a : Attempt) : Option Envelope := a.reading.toOption

/-- The envelope of an exchange. -/
def Exchange.envelope? (x : Exchange) : Option Envelope := x.attempt.envelope?

/-- The envelopes that were received, in their order. -/
def envelopes (xs : List Exchange) : List Envelope := xs.filterMap Exchange.envelope?

/-- Whether an exchange is about a window. -/
def Exchange.isAbout (w : Window) (x : Exchange) : Bool :=
  x.request.fromBlock = w.first && x.request.toBlock = w.stop

theorem Attempt.envelope?_error (f : Failure) :
    Attempt.envelope? (.error f) = none := rfl

theorem Attempt.reading_eq_ok {a : Attempt} {e : Envelope} :
    a.reading = .ok e ↔ a.envelope? = some e := by
  cases h : a.reading <;> simp [envelope?, h, Except.toOption]

@[simp] theorem envelopes_nil : envelopes [] = [] := rfl

@[simp] theorem envelopes_append (xs ys : List Exchange) :
    envelopes (xs ++ ys) = envelopes xs ++ envelopes ys := by
  simp [envelopes]

/-- The attempts that were tried again have brought nothing. -/
theorem envelopes_exchanges {σ : Type} (c : Course σ) (r : PageRequest) :
    envelopes (c.exchanges r) = c.last.envelope?.toList := by
  have hnone : (c.retried.map fun f => (⟨r, .error f.1⟩ : Exchange)).filterMap
      Exchange.envelope? = [] := by
    rw [List.filterMap_eq_nil_iff]
    intro x hx
    obtain ⟨f, _, rfl⟩ := List.mem_map.mp hx
    exact Attempt.envelope?_error f.1
  rw [envelopes, Course.exchanges, List.filterMap_append, hnone, List.nil_append]
  show List.filterMap Exchange.envelope? [⟨r, c.last⟩] = _
  cases hl : c.last.envelope? <;> simp [Exchange.envelope?, hl]

theorem request_of_mem_exchanges {σ : Type} {c : Course σ} {r : PageRequest} {x : Exchange}
    (h : x ∈ c.exchanges r) : x.request = r := by
  rcases List.mem_append.mp h with h | h
  · obtain ⟨f, _, rfl⟩ := List.mem_map.mp h
    rfl
  · rw [List.mem_singleton.mp h]

@[simp] theorem getLast?_exchanges {σ : Type} (c : Course σ) (r : PageRequest) :
    (c.exchanges r).getLast? = some ⟨r, c.last⟩ := by
  simp [Course.exchanges]

/-- A request for a page of a window is about the window. -/
theorem isAbout_of_mem_exchanges {σ : Type} {c : Course σ} {t : PageTemplate} {w : Window}
    {page : Nat} {x : Exchange} (h : x ∈ c.exchanges (t.request w page)) :
    x.isAbout w = true := by
  simp [Exchange.isAbout, request_of_mem_exchanges h, PageTemplate.request]

/-! ## Windows and their exchanges -/

theorem Exchange.isAbout_iff {x : Exchange} {w : Window} :
    x.isAbout w = true ↔ x.request.fromBlock = w.first ∧ x.request.toBlock = w.stop := by
  simp [isAbout]

/-- An exchange is about one window only. -/
theorem Exchange.isAbout_unique {x : Exchange} {w w' : Window} (h : x.isAbout w = true)
    (h' : x.isAbout w' = true) : w = w' := by
  obtain ⟨hfirst, hstop⟩ := isAbout_iff.mp h
  obtain ⟨hfirst', hstop'⟩ := isAbout_iff.mp h'
  cases w
  cases w'
  simp_all

/-- Exchanges about a window, and others about windows of a row. -/
theorem about_append {w : Window} {ws : List Window} {xs ys : List Exchange}
    (hxs : ∀ x ∈ xs, x.isAbout w = true) (hys : ∀ x ∈ ys, ∃ w ∈ ws, x.isAbout w = true) :
    ∀ x ∈ xs ++ ys, ∃ w' ∈ w :: ws, x.isAbout w' = true := by
  intro x hx
  rcases List.mem_append.mp hx with hx | hx
  · exact ⟨w, List.mem_cons_self, hxs x hx⟩
  · obtain ⟨w', hw', hx⟩ := hys x hx
    exact ⟨w', List.mem_cons_of_mem _ hw', hx⟩

/-- Exchanges about windows of a row are about no other window. -/
theorem not_about_of_notMem {w : Window} {ws : List Window} {ys : List Exchange} (hw : w ∉ ws)
    (hys : ∀ x ∈ ys, ∃ w ∈ ws, x.isAbout w = true) : ∀ x ∈ ys, x.isAbout w = false := by
  intro x hx
  obtain ⟨w', hw', hx'⟩ := hys x hx
  rw [Bool.eq_false_iff]
  intro hx
  exact hw (Exchange.isAbout_unique hx hx' ▸ hw')

/-- The exchanges about a window, where the first of them all are. -/
theorem filter_isAbout_append {w : Window} {xs ys : List Exchange}
    (hxs : ∀ x ∈ xs, x.isAbout w = true) (hys : ∀ x ∈ ys, x.isAbout w = false) :
    (xs ++ ys).filter (Exchange.isAbout w) = xs := by
  have hfirst : xs.filter (Exchange.isAbout w) = xs := List.filter_eq_self.mpr hxs
  have hrest : ys.filter (Exchange.isAbout w) = [] := by
    rw [List.filter_eq_nil_iff]
    intro x hx
    rw [hys x hx]
    simp
  rw [List.filter_append, hfirst, hrest, List.append_nil]

/-- The exchanges about another window than the first of them. -/
theorem filter_isAbout_append_of_ne {w w' : Window} {xs : List Exchange} (ys : List Exchange)
    (hxs : ∀ x ∈ xs, x.isAbout w = true) (hne : w ≠ w') :
    (xs ++ ys).filter (Exchange.isAbout w') = ys.filter (Exchange.isAbout w') := by
  have hfirst : xs.filter (Exchange.isAbout w') = [] := by
    rw [List.filter_eq_nil_iff]
    intro x hx h
    exact hne (Exchange.isAbout_unique (hxs x hx) h)
  rw [List.filter_append, hfirst, List.nil_append]

/-! ## Pursuing a question -/

section Pursue

variable {σ : Type} {send : σ → Attempt × σ}

/-- The last attempt of a course is one that was sent. -/
theorem pursue_last (left : Nat) (wait : Duration) (s : σ) :
    ∃ s', (pursue send left wait s).last = (send s').1 := by
  induction left generalizing wait s with
  | zero => exact ⟨s, rfl⟩
  | succ left ih =>
      unfold pursue
      split
      · rename_i body s' h
        exact ⟨s, by simp [h]⟩
      · rename_i f s' h
        split
        · -- the attempt is made again, so the last one is made in a later state
          exact ih wait.double s'
        · exact ⟨s, by simp [h]⟩

/-- A failure after which another attempt was made is one that was sent. -/
theorem pursue_retried (left : Nat) (wait : Duration) (s : σ) :
    ∀ f ∈ (pursue send left wait s).retried, ∃ s', (send s').1 = .error f.1 := by
  induction left generalizing wait s with
  | zero => simp [pursue]
  | succ left ih =>
      unfold pursue
      split
      · simp
      · rename_i f s' h
        split
        · intro g hg
          rcases List.mem_cons.mp hg with rfl | hg
          · exact ⟨s, by rw [h]⟩
          · exact ih wait.double s' g hg
        · simp

/-- No more attempts are made again than may be. -/
theorem length_retried_le (left : Nat) (wait : Duration) (s : σ) :
    (pursue send left wait s).retried.length ≤ left := by
  induction left generalizing wait s with
  | zero => exact Nat.le_refl 0
  | succ left ih =>
      unfold pursue
      split
      · exact Nat.zero_le _
      · split
        · exact Nat.succ_le_succ (ih wait.double _)
        · exact Nat.zero_le _

/-- A question sees of an explorer only its answers. -/
theorem pursue_map {τ : Type} {send' : τ → Attempt × τ} {f : σ → τ}
    (h : ∀ s, send' (f s) = ((send s).1, f (send s).2)) (left : Nat) (wait : Duration) (s : σ) :
    pursue send' left wait (f s)
      = ⟨(pursue send left wait s).retried, (pursue send left wait s).last,
          f (pursue send left wait s).state⟩ := by
  induction left generalizing wait s with
  | zero => rw [pursue, h, pursue]
  | succ left ih =>
      unfold pursue
      rw [h]
      obtain ⟨answer, s'⟩ := send s
      cases answer with
      | ok body => rfl
      | error f =>
          cases hf : f.isRetryable with
          | true => simp only [hf, if_true, ih]
          | false => simp [hf]

end Pursue

namespace Client

variable {σ : Type}

/-- With a usable address, what a client gets is what the explorer answers. -/
theorem send_of_endpoint {c : Config} (hc : (Client.ofConfig c).endpoint.isSome)
    (explorer : Explorer σ) (r : PageRequest) (s : σ) :
    (Client.ofConfig c).send explorer r s = explorer s r := by
  obtain ⟨endpoint, hendpoint⟩ := Option.isSome_iff_exists.mp hc
  rw [send, hendpoint]

/-- With a usable address, every request that has arrived has a target. -/
theorem targets_eq {client : Client} {e : Endpoint} (he : client.endpoint = some e)
    (xs : List Exchange) :
    client.targets xs
      = (xs.filter fun x => x.attempt.arrived).map fun x => e.target x.request := by
  have htarget : (fun x : Exchange => client.target? x.request)
      = fun x => some (e.target x.request) := by
    funext x
    rw [target?, he, Option.map_some]
  rw [targets, htarget, List.filterMap_eq_map']

theorem ask_last (client : Client) (explorer : Explorer σ) (r : PageRequest) (s : σ) :
    ∃ s', (client.ask explorer r s).last = (client.send explorer r s').1 :=
  pursue_last _ _ _

/-- A question takes no more attempts than the client makes. -/
theorem length_exchanges_le {client : Client} (h : 0 < client.maxAttempts)
    (explorer : Explorer σ) (r : PageRequest) (s : σ) :
    ((client.ask explorer r s).exchanges r).length ≤ client.maxAttempts := by
  have hretried : (client.ask explorer r s).retried.length ≤ client.maxAttempts - 1 :=
    length_retried_le _ _ _
  rw [Course.exchanges, List.length_append, List.length_map, List.length_singleton]
  omega

/-- Every attempt of a question is what the client gets from the explorer in some state. -/
theorem sent_of_mem_exchanges {client : Client} {explorer : Explorer σ} {r : PageRequest}
    {s : σ} {x : Exchange} (h : x ∈ (client.ask explorer r s).exchanges r) :
    x.request = r ∧ ∃ s', x.attempt = (client.send explorer r s').1 := by
  refine ⟨request_of_mem_exchanges h, ?_⟩
  rcases List.mem_append.mp h with h | h
  · obtain ⟨f, hf, rfl⟩ := List.mem_map.mp h
    obtain ⟨s', hs'⟩ := pursue_retried _ _ _ f hf
    exact ⟨s', hs'.symm⟩
  · obtain ⟨s', hs'⟩ := client.ask_last explorer r s
    rw [List.mem_singleton.mp h]
    exact ⟨s', hs'⟩

end Client

/-! ## Questions of a scan -/

/-- What is said of the failures of a course is that it was tried again. -/
theorem eq_retrying_of_mem_retryEntries {attempts : Nat} {r : PageRequest} {i : Nat}
    {fs : List (Failure × Duration)} {e : Entry} (h : e ∈ retryEntries attempts r i fs) :
    ∃ (j : Nat) (f : Failure × Duration), e = .retrying j attempts r f.1 f.2 := by
  induction fs generalizing i with
  | nil => cases h
  | cons f fs ih =>
      rcases List.mem_cons.mp h with rfl | h
      · exact ⟨i, f, rfl⟩
      · exact ih h

namespace Setup

variable {σ : Type} (u : Setup σ) (r : PageRequest) (p : Progress σ)

/-- The progress after a question, whatever came of it. -/
def asked : Progress σ :=
  let c := u.client.ask u.explorer r p.explorer
  { p with
    explorer := c.state
    exchanges := p.exchanges ++ c.exchanges r
    journal := p.journal ++ retryEntries u.client.maxAttempts r 1 c.retried }

@[simp] theorem asked_sink : (u.asked r p).sink = p.sink := rfl

@[simp] theorem asked_report : (u.asked r p).report = p.report := rfl

@[simp] theorem asked_store : (u.asked r p).store = p.store := rfl

@[simp] theorem asked_exchanges :
    (u.asked r p).exchanges
      = p.exchanges ++ (u.client.ask u.explorer r p.explorer).exchanges r := rfl

/-- **A question is told by its attempts**: it brings what the last of them brings. -/
theorem query_eq :
    u.query r p = (u.asked r p, (u.client.ask u.explorer r p.explorer).last.reading) := by
  unfold query
  cases h : (u.client.ask u.explorer r p.explorer).last with
  | error f => simp [asked, Attempt.reading, h]
  | ok body => cases hr : Envelope.read body <;> simp [asked, Attempt.reading, h, hr]

end Setup

end DepositTrail
