import DepositTrail.Proofs.Cursor
import DepositTrail.Proofs.Output
import Mathlib.Algebra.Order.BigOperators.Group.List
import Mathlib.Data.List.SplitBy

set_option autoImplicit false

/-! # The order of the questions

The attempts for one page are one question (`questions`). A scan asks its questions in a fixed
order, whatever the explorer answers and however the scan ends: window by window, and of each
window the pages from the first one on, without a gap (`Setup.Asked`, `Config.Visit`). It goes on
to a next page only after a full one, and never past the last page that the explorer serves; so
the number of its requests is bounded by its windows, pages and attempts alone
(`scan_questions`).

That the questions of different pages are told apart by their requests is what makes it
possible to read them off the exchanges: no two questions of a scan are for the same request
(`questions_flatten`).
-/

namespace DepositTrail

/-! ## Questions -/

/-- The exchanges of a scan, those of one question put together: neighbours that are for the
same request. -/
def questions (xs : List Exchange) : List (List Exchange) :=
  xs.splitBy fun x y => x.request = y.request

/-- Exchanges that are all for one request. -/
def IsFor (r : PageRequest) (q : List Exchange) : Prop := ∀ x ∈ q, x.request = r

/-- Exchanges that are for other requests than some others. -/
def Apart (q q' : List Exchange) : Prop := ∀ x ∈ q, ∀ y ∈ q', x.request ≠ y.request

theorem IsFor.apart {r r' : PageRequest} {q q' : List Exchange} (h : IsFor r q)
    (h' : IsFor r' q') (hne : r ≠ r') : Apart q q' := by
  intro x hx y hy
  rw [h x hx, h' y hy]
  exact hne

/-- **Questions for different requests are told apart** when their exchanges are put in a row. -/
theorem questions_flatten {qs : List (List Exchange)} (hne : ∀ q ∈ qs, q ≠ [])
    (hone : ∀ q ∈ qs, ∃ r, IsFor r q) (hapart : qs.Pairwise Apart) :
    questions qs.flatten = qs := by
  apply List.splitBy_flatten
  · exact fun hnil => hne [] hnil rfl
  · intro q hq
    obtain ⟨r, hr⟩ := hone q hq
    refine List.Pairwise.isChain (List.pairwise_of_forall_mem_list ?_)
    intro x hx y hy
    rw [decide_eq_true_eq, hr x hx, hr y hy]
  · refine (hapart.imp_of_mem ?_).isChain
    intro q q' hq hq' h
    refine ⟨hne q hq, hne q' hq', ?_⟩
    rw [decide_eq_false_iff_not]
    exact h _ (List.getLast_mem _) _ (List.head_mem _)

/-- A question has brought a full page. -/
def BringsFull (size : Nat) (q : List Exchange) : Prop :=
  ∃ x e, q.getLast? = some x ∧ x.envelope? = some e ∧ e.IsFull size

/-! ## One window -/

namespace Setup

variable {σ : Type} (u : Setup σ)

/-- The exchanges of one question about a page of a window. -/
structure Question (w : Window) (page : Nat) (q : List Exchange) : Prop where
  nonempty : q ≠ []
  length_le : q.length ≤ u.client.maxAttempts
  isFor : IsFor (u.template.request w page) q

/-- The questions about a window, from a page on of which so many are left. A page after the
first is asked for only after a full one. -/
inductive Asked (w : Window) : Nat → Nat → List (List Exchange) → Prop
  | last {left page : Nat} {q : List Exchange} (one : u.Question w page q) :
      Asked w (left + 1) page [q]
  | next {left page : Nat} {q : List Exchange} {qs : List (List Exchange)}
      (one : u.Question w page q) (full : BringsFull u.template.pageSize q)
      (rest : Asked w left (page + 1) qs) : Asked w (left + 1) page (q :: qs)

section Window

variable {u} {w : Window} {left page : Nat} {qs : List (List Exchange)}

theorem Asked.length_pos (h : u.Asked w left page qs) : 0 < qs.length := by
  cases h <;> exact Nat.succ_pos _

theorem Asked.length_le (h : u.Asked w left page qs) : qs.length ≤ left := by
  induction h with
  | last one => exact Nat.succ_le_succ (Nat.zero_le _)
  | next one full rest ih => exact Nat.succ_le_succ ih

/-- The question with number `i` is for the page that many pages on, and all questions but the
last have brought full pages. -/
theorem Asked.getElem (h : u.Asked w left page qs) {i : Nat} {q : List Exchange}
    (hi : qs[i]? = some q) :
    u.Question w (page + i) q ∧ (i + 1 < qs.length → BringsFull u.template.pageSize q) := by
  induction h generalizing i with
  | last one =>
      cases i with
      | zero =>
          obtain rfl := Option.some.inj hi
          exact ⟨one, fun hlt => absurd hlt (Nat.lt_irrefl 1)⟩
      | succ i => cases hi
  | @next left page q' qs one full rest ih =>
      cases i with
      | zero =>
          obtain rfl := Option.some.inj hi
          exact ⟨one, fun _ => full⟩
      | succ i =>
          obtain ⟨hq, hfull⟩ := ih (i := i) hi
          rw [show page + (i + 1) = page + 1 + i by omega]
          exact ⟨hq, fun hlt => hfull (Nat.lt_of_succ_lt_succ hlt)⟩

/-- The course for a page is one question about it. -/
theorem question_courseOf (hattempts : 0 < u.client.maxAttempts) (w : Window) (page : Nat)
    (p : Progress σ) :
    u.Question w page ((u.courseOf w page p).exchanges (u.template.request w page)) where
  nonempty := by simp [Course.exchanges]
  length_le := Client.length_exchanges_le hattempts _ _ _
  isFor := fun _ hx => request_of_mem_exchanges hx

/-- A page after which its window is left, in whatever way, takes one question. -/
theorem asked_one (hattempts : 0 < u.client.maxAttempts) {p : Progress σ}
    {r : Progress σ × Except ScanProblem WindowEnd}
    (hexchanges : r.1.exchanges = (u.askedFor w page p).exchanges)
    (hrequests : ∀ windowEnd, r.2 = .ok windowEnd →
      r.1.report.requests = p.report.requests + 1) :
    ∃ qs, r.1.exchanges = p.exchanges ++ qs.flatten ∧ u.Asked w (left + 1) page qs ∧
      ∀ windowEnd, r.2 = .ok windowEnd →
        r.1.report.requests = p.report.requests + qs.length := by
  refine ⟨[(u.courseOf w page p).exchanges (u.template.request w page)], ?_,
    Asked.last (question_courseOf hattempts w page p), hrequests⟩
  rw [hexchanges, asked_exchanges, List.flatten_singleton]

/-- **The questions about a window** are for its pages in their order, however its scan ends. If
it comes to its end, each of them was counted as a request. -/
theorem scanPages_asked (hattempts : 0 < u.client.maxAttempts) (hleft : 0 < left) (w : Window)
    (page : Nat) (p : Progress σ) :
    ∃ qs, (u.scanPages w left page p).1.exchanges = p.exchanges ++ qs.flatten ∧
      u.Asked w left page qs ∧
      ∀ windowEnd, (u.scanPages w left page p).2 = .ok windowEnd →
        (u.scanPages w left page p).1.report.requests = p.report.requests + qs.length := by
  induction left generalizing page p with
  | zero => omega
  | succ left ih =>
      cases h : (u.courseOf w page p).last.envelope? with
      | none =>
          obtain ⟨problem, hp⟩ := scanPages_unanswered left h
          rw [hp]
          exact asked_one hattempts rfl nofun
      | some e =>
          cases hw : (p.sink.write (u.config.bytes [e])).2 with
          | error problem =>
              obtain ⟨p', hp, -, hx, -⟩ := scanPages_refused left h (Prod.ext rfl hw)
              rw [hp]
              exact asked_one hattempts hx nofun
          | ok _ =>
              rw [scanPages_received left h hw]
              cases he : e.ending? u.template.pageSize with
              | some ending => exact asked_one hattempts rfl fun _ _ => rfl
              | none =>
                  cases left with
                  | zero => exact asked_one hattempts rfl fun _ _ => rfl
                  | succ left =>
                      -- the page was full, and its question is followed by those of the next
                      have hone := question_courseOf hattempts w page p
                      have hfull : BringsFull u.template.pageSize
                          ((u.courseOf w page p).exchanges (u.template.request w page)) :=
                        ⟨_, e, getLast?_exchanges _ _, h, Envelope.ending?_eq_none.mp he⟩
                      simp only [Nat.add_one_ne_zero, if_false]
                      obtain ⟨qs, hqs, hasked, hrequests⟩ := ih (Nat.succ_pos left) (page + 1)
                        ((u.received w page e (u.askedFor w page p)).count
                          fun r => { r with throttles := r.throttles + 1 })
                      refine ⟨_ :: qs, ?_, Asked.next hone hfull hasked, fun windowEnd hok => ?_⟩
                      · rw [hqs, List.flatten_cons, ← List.append_assoc]
                        rfl
                      · rw [hrequests windowEnd hok, List.length_cons, Nat.add_comm qs.length,
                          ← Nat.add_assoc]
                        rfl

/-! ## All windows -/

/-- **The questions of a row of windows** are those of its windows in their order, up to the one
in which the scan halts. -/
theorem scanWindows_asked (hattempts : 0 < u.client.maxAttempts)
    (hmax : 0 < u.template.maxPages) (left first : Nat) (free : Bool) (p : Progress σ) :
    ∃ visits : List (List (List Exchange)),
      (u.scanWindows left first free p).1.exchanges = p.exchanges ++ visits.flatten.flatten ∧
      visits.length ≤ left ∧
      (∀ (i : Nat) w qs, (Window.row u.config.blockRange.toNat left first)[i]? = some w →
        visits[i]? = some qs → u.Asked w u.template.maxPages 1 qs) ∧
      ((u.scanWindows left first free p).2 = .ok () →
        visits.length = left ∧ (u.scanWindows left first free p).1.report.requests
          = p.report.requests + visits.flatten.length) := by
  induction left generalizing first free p with
  | zero => exact ⟨[], (List.append_nil _).symm, Nat.le_refl 0, by simp, fun _ => ⟨rfl, rfl⟩⟩
  | succ left ih =>
      obtain ⟨qs, hqs, hasked, hrequests⟩ := scanPages_asked hattempts hmax
        (Window.starting u.config.blockRange.toNat first) 1 p
      obtain ⟨hsame, hok⟩ := scanWindow_pages (u := u)
        (Window.starting u.config.blockRange.toNat first) free p
      rw [scanWindows_succ]
      cases hp : u.scanWindow (Window.starting u.config.blockRange.toNat first) free p with
      | mk p₁ result =>
          rw [hp] at hsame hok
          have hfirst : p₁.exchanges = p.exchanges ++ qs.flatten := hsame.exchanges.trans hqs
          cases result with
          | error problem =>
              refine ⟨[qs], ?_, Nat.succ_le_succ (Nat.zero_le _), fun i w qs' hw hi => ?_, nofun⟩
              · rw [List.flatten_singleton]
                exact hfirst
              · cases i with
                | zero =>
                    obtain rfl := Option.some.inj hi
                    obtain rfl := Option.some.inj hw
                    exact hasked
                | succ i => cases hi
          | ok free' =>
              obtain ⟨windowEnd, hend⟩ := hok free' rfl
              obtain ⟨visits, hvisits, hle, hall, hdone⟩ :=
                ih (first + max u.config.blockRange.toNat 1) free' p₁
              refine ⟨qs :: visits, ?_, Nat.succ_le_succ hle, fun i w qs' hw hi => ?_,
                fun hresult => ?_⟩
              · rw [List.flatten_cons, List.flatten_append, ← List.append_assoc, ← hfirst]
                exact hvisits
              · cases i with
                | zero =>
                    obtain rfl := Option.some.inj hi
                    obtain rfl := Option.some.inj hw
                    exact hasked
                | succ i => exact hall i w qs' hw hi
              · obtain ⟨hlength, hsum⟩ := hdone hresult
                refine ⟨congrArg Nat.succ hlength, ?_⟩
                rw [List.flatten_cons, List.length_append, ← Nat.add_assoc,
                  ← hrequests windowEnd hend, ← hsame.requests]
                exact hsum

end Window

/-! ## Counts -/

/-- Exchanges about a window that is not in the row leave the same windows uncompleted. -/
theorem filter_not_completed {c : Config} {w : Window} {ws : List Window}
    {xs ys : List Exchange} (hxs : ∀ x ∈ xs, x.isAbout w = true) (hw : w ∉ ws) :
    (ws.filter fun w' => ¬ c.Completed (xs ++ ys) w')
      = ws.filter fun w' => ¬ c.Completed ys w' := by
  apply List.filter_congr
  intro w' hw'
  have hne : w ≠ w' := by
    rintro rfl
    exact hw hw'
  simp only [Config.completed_append_of_ne hxs hne]

/-- **The counts of a row of windows** that comes to its end. Every window is counted as one; a
window has as many requests as throttles and one more; and the windows at the ceiling and those
given up are the ones that were not completed. -/
theorem Swept.counts {answers : Window → Nat → Envelope → Prop} {ws : List Window}
    {free : Bool} {p p' : Progress σ} {result : Except ScanProblem Unit}
    (hsize : u.template.pageSize = u.config.pageSize.toNat)
    (h : u.Swept answers ws free p p' result) (hresult : result = .ok ()) (hws : ws.Nodup) :
    ∃ xs n, p'.exchanges = p.exchanges ++ xs ∧ (∀ x ∈ xs, ∃ w ∈ ws, x.isAbout w = true) ∧
      p'.report.ranges = p.report.ranges + ws.length ∧
      p'.report.requests = p.report.requests + (ws.length + n) ∧
      p'.report.throttles = p.report.throttles + n ∧
      p'.report.ceilings + p'.report.abandoned = p.report.ceilings + p.report.abandoned
        + (ws.filter fun w => ¬ u.config.Completed xs w).length := by
  induction h with
  | done => exact ⟨[], 0, (List.append_nil _).symm, by simp, rfl, rfl, rfl, rfl⟩
  | halt halted => cases hresult
  | @next w ws free p p₁ p' xs ending result finished rest ih =>
      obtain ⟨hw, hnodup⟩ := List.nodup_cons.mp hws
      obtain ⟨ys, n, hys, habout, hranges, hrequests, hthrottles, hlost⟩ := ih hresult hnodup
      have hcompleted := finished.completed_iff hsize (not_about_of_notMem hw habout)
      have hreport := finished.report
      have hpages : 0 < (envelopes xs).length := List.length_pos_iff.mpr finished.pages.ne_nil
      refine ⟨xs ++ ys, (envelopes xs).length - 1 + n, ?_, about_append finished.about habout,
        ?_, ?_, ?_, ?_⟩
      · rw [hys, finished.exchanges, List.append_assoc]
      · simp only [hreport, Report.plus, Report.ofPages] at hranges
        rw [hranges, List.length_cons]
        omega
      · simp only [hreport, Report.plus, Report.ofPages] at hrequests
        rw [hrequests, List.length_cons]
        omega
      · simp only [hreport, Report.plus, Report.ofPages] at hthrottles
        rw [hthrottles]
        omega
      · simp only [hreport, Report.plus, Report.ofPages] at hlost
        rw [hlost, List.filter_cons, filter_not_completed finished.about hw]
        cases ending <;> simp [hcompleted] <;> omega

end Setup

/-! ## Whole scans -/

/-- The questions about a window in a scan: at least one and no more than the explorer serves
pages, each of one attempt or some more; the first question is for the first page, the next for
the next one, and all but the last have brought full pages. -/
structure Config.Visit (c : Config) (w : Window) (qs : List (List Exchange)) : Prop where
  begun : 0 < qs.length
  length_le : qs.length ≤ c.maxPages
  attempts : ∀ q ∈ qs, 0 < q.length ∧ q.length ≤ c.maxAttempts.toNat
  isFor : ∀ (i : Nat) q, qs[i]? = some q → IsFor ((PageTemplate.ofConfig c).request w (i + 1)) q
  full : ∀ (i : Nat) q, qs[i]? = some q → i + 1 < qs.length → BringsFull c.pageSize.toNat q

/-- The questions about the windows of a row, one window after the other, as far as the scan
has come. -/
structure Config.Visits (c : Config) (ws : List Window) (visits : List (List (List Exchange))) :
    Prop where
  length_le : visits.length ≤ ws.length
  visit : ∀ (i : Nat) w qs, ws[i]? = some w → visits[i]? = some qs → c.Visit w qs

section Visits

variable {c : Config} {w : Window} {ws : List Window} {qs : List (List Exchange)}
  {visits : List (List (List Exchange))}

theorem length_flatten_le {α : Type} {ls : List (List α)} {n : Nat}
    (h : ∀ l ∈ ls, l.length ≤ n) : ls.flatten.length ≤ ls.length * n := by
  rw [List.length_flatten]
  have hsum := List.sum_le_card_nsmul (ls.map List.length) n (by simpa using h)
  simpa using hsum

/-- Requests for pages of different windows, or for different pages, are different. -/
theorem request_injective {t : PageTemplate} {w w' : Window} {page page' : Nat}
    (h : t.request w page = t.request w' page') : w = w' ∧ page = page' := by
  simp only [PageTemplate.request, PageRequest.mk.injEq] at h
  obtain ⟨-, hfirst, hstop, hpage, -⟩ := h
  cases w
  cases w'
  simp_all

theorem Setup.Asked.visit {σ : Type} {explorer : Explorer σ} (hfits : c.Fits)
    (h : (Setup.ofConfig c explorer).Asked w c.maxPages 1 qs) : c.Visit w qs := by
  have hclient : (Setup.ofConfig c explorer).client.maxAttempts = c.maxAttempts.toNat :=
    Nat.max_eq_right hfits.maxAttempts_pos
  refine ⟨h.length_pos, h.length_le, fun q hq => ?_, fun i q hi => ?_, fun i q hi => ?_⟩
  · obtain ⟨i, hi⟩ := List.getElem?_of_mem hq
    obtain ⟨hquestion, -⟩ := h.getElem hi
    exact ⟨List.length_pos_iff.mpr hquestion.nonempty, hclient ▸ hquestion.length_le⟩
  · rw [Nat.add_comm]
    exact (h.getElem hi).1.isFor
  · exact (h.getElem hi).2

theorem Config.Visit.ne_nil (h : c.Visit w qs) : ∀ q ∈ qs, q ≠ [] :=
  fun q hq => List.length_pos_iff.mp (h.attempts q hq).1

/-- Each exchange about a window is for one of its pages. -/
theorem Config.Visit.request (h : c.Visit w qs) {q : List Exchange} (hq : q ∈ qs) :
    ∃ page, 0 < page ∧ page ≤ c.maxPages ∧ IsFor ((PageTemplate.ofConfig c).request w page) q := by
  obtain ⟨i, hi, rfl⟩ := List.getElem_of_mem hq
  have hle := h.length_le
  exact ⟨i + 1, Nat.succ_pos i, by omega, h.isFor i _ (List.getElem?_eq_getElem hi)⟩

theorem Config.Visit.apart (h : c.Visit w qs) : qs.Pairwise Apart := by
  rw [List.pairwise_iff_getElem]
  intro i j hi hj hij
  refine (h.isFor i _ (List.getElem?_eq_getElem hi)).apart
    (h.isFor j _ (List.getElem?_eq_getElem hj)) fun heq => ?_
  have hpage := (request_injective heq).2
  omega

/-- Before the first window there are no questions. -/
theorem Config.Visits.nil (c : Config) (ws : List Window) : c.Visits ws [] where
  length_le := Nat.zero_le _
  visit := nofun

theorem Config.Visits.get (h : c.Visits ws visits) (hqs : qs ∈ visits) :
    ∃ w ∈ ws, c.Visit w qs := by
  obtain ⟨i, hi, rfl⟩ := List.getElem_of_mem hqs
  have hw : i < ws.length := Nat.lt_of_lt_of_le hi h.length_le
  exact ⟨ws[i], List.getElem_mem hw,
    h.visit i _ _ (List.getElem?_eq_getElem hw) (List.getElem?_eq_getElem hi)⟩

/-- No two questions of a scan are for the same request. -/
theorem Config.Visits.apart (h : c.Visits ws visits) (hws : ws.Nodup) :
    visits.flatten.Pairwise Apart := by
  rw [List.pairwise_flatten]
  constructor
  · intro qs hqs
    obtain ⟨w, -, hvisit⟩ := h.get hqs
    exact hvisit.apart
  · rw [List.pairwise_iff_getElem]
    intro i j hi hj hij q hq q' hq'
    have hjw : j < ws.length := Nat.lt_of_lt_of_le hj h.length_le
    have hiw : i < ws.length := Nat.lt_trans hij hjw
    obtain ⟨page, -, -, hfor⟩ := (h.visit i _ _ (List.getElem?_eq_getElem hiw)
      (List.getElem?_eq_getElem hi)).request hq
    obtain ⟨page', -, -, hfor'⟩ := (h.visit j _ _ (List.getElem?_eq_getElem hjw)
      (List.getElem?_eq_getElem hj)).request hq'
    refine hfor.apart hfor' fun heq => ?_
    have hsame : i = j := (List.Nodup.getElem_inj_iff hws).mp (request_injective heq).1
    omega

/-- The questions can be read off the exchanges. -/
theorem Config.Visits.questions (h : c.Visits ws visits) (hws : ws.Nodup) :
    DepositTrail.questions visits.flatten.flatten = visits.flatten := by
  refine questions_flatten (fun q hq => ?_) (fun q hq => ?_) (h.apart hws)
  all_goals
    obtain ⟨qs, hqs, hq⟩ := List.mem_flatten.mp hq
    obtain ⟨w, -, hvisit⟩ := h.get hqs
  · exact hvisit.ne_nil q hq
  · obtain ⟨page, -, -, hfor⟩ := hvisit.request hq
    exact ⟨_, hfor⟩

/-- No request goes beyond the results that the explorer serves. -/
theorem Config.Visits.page_le (h : c.Visits ws visits) {x : Exchange}
    (hx : x ∈ visits.flatten.flatten) :
    x.request.page * x.request.offset ≤ c.maxResults.toNat := by
  obtain ⟨q, hq, hx⟩ := List.mem_flatten.mp hx
  obtain ⟨qs, hqs, hq⟩ := List.mem_flatten.mp hq
  obtain ⟨w, -, hvisit⟩ := h.get hqs
  obtain ⟨page, -, hle, hfor⟩ := hvisit.request hq
  rw [hfor x hx]
  calc page * c.pageSize.toNat
      ≤ c.maxPages * max c.pageSize.toNat 1 := Nat.mul_le_mul hle (Nat.le_max_left _ _)
    _ ≤ c.maxResults.toNat := Nat.div_mul_le_self _ _

/-- The requests are bounded by the windows, the pages and the attempts. -/
theorem Config.Visits.length_exchanges_le (h : c.Visits ws visits) :
    visits.flatten.flatten.length ≤ ws.length * (c.maxPages * c.maxAttempts.toNat) := by
  have hquestions : visits.flatten.length ≤ visits.length * c.maxPages := by
    apply length_flatten_le
    intro qs hqs
    obtain ⟨w, -, hvisit⟩ := h.get hqs
    exact hvisit.length_le
  have hattempts : visits.flatten.flatten.length
      ≤ visits.flatten.length * c.maxAttempts.toNat := by
    apply length_flatten_le
    intro q hq
    obtain ⟨qs, hqs, hq⟩ := List.mem_flatten.mp hq
    obtain ⟨w, -, hvisit⟩ := h.get hqs
    exact (hvisit.attempts q hq).2
  calc visits.flatten.flatten.length
      ≤ visits.flatten.length * c.maxAttempts.toNat := hattempts
    _ ≤ visits.length * c.maxPages * c.maxAttempts.toNat := Nat.mul_le_mul_right _ hquestions
    _ ≤ ws.length * c.maxPages * c.maxAttempts.toNat :=
        Nat.mul_le_mul_right _ (Nat.mul_le_mul_right _ h.length_le)
    _ = ws.length * (c.maxPages * c.maxAttempts.toNat) := Nat.mul_assoc _ _ _

end Visits

section Scan

variable {σ : Type} {c : Config}

/-- The exchanges of a scan are the questions about its windows. If it comes to its end, all
windows are begun, and each question was counted as a request. -/
theorem scan_visits (hc : c.problem? = none) (explorer : Explorer σ) (s : σ) (sink : Sink)
    (store : Option Checkpoint.Store) :
    let r := scan c explorer (Progress.start s sink store)
    ∃ visits, r.1.exchanges = visits.flatten.flatten ∧ c.Visits (c.windows store) visits ∧
      ∀ report, r.2 = .ok report →
        visits.length = (c.windows store).length ∧ report.requests = visits.flatten.length := by
  intro r
  have hfits := Config.fits_of_problem? hc
  by_cases hread : c.Readable store
  · have hr : r = Setup.close _ := scan_eq hc explorer hread s sink
    obtain ⟨visits, hvisits, hle, hall, hok⟩ := Setup.scanWindows_asked
      (u := Setup.ofConfig c explorer) (Nat.le_max_left 1 _) hfits.maxPages_pos
      (c.windowCount store) (c.firstBlock store) store.isSome (c.opened s sink store)
    have hlength : (c.windows store).length = c.windowCount store := Window.row_length _ _ _
    refine ⟨visits, ?_, ⟨hlength ▸ hle, fun i w qs hw hi => (hall i w qs hw hi).visit hfits⟩,
      fun report hreport => ?_⟩
    · rw [hr, Setup.close_exchanges, hvisits]
      rfl
    · rw [hr, Setup.close_eq_ok] at hreport
      obtain ⟨hend, rfl⟩ := hreport
      obtain ⟨hbegun, hrequests⟩ := hok hend
      exact ⟨hlength ▸ hbegun, hrequests.trans (Nat.zero_add _)⟩
  · obtain ⟨problem, hproblem⟩ := scan_of_not_readable explorer s sink hread
    have hr : r = (Progress.start s sink store, .error problem) := hproblem
    rw [hr]
    exact ⟨[], rfl, Config.Visits.nil c _, nofun⟩

/-- The counts of a scan that comes to its end. -/
theorem scan_counts (hc : c.problem? = none) (explorer : Explorer σ) (s : σ) (sink : Sink)
    (store : Option Checkpoint.Store) :
    let r := scan c explorer (Progress.start s sink store)
    ∀ report, r.2 = .ok report →
      report.ranges = (c.windows store).length ∧
        report.requests = report.ranges + report.throttles ∧
        report.ceilings + report.abandoned
          = ((c.windows store).filter fun w => ¬ c.Completed r.1.exchanges w).length := by
  intro r report hreport
  have hread := readable_of_scan_ok hreport
  have hr : r = Setup.close _ := scan_eq hc explorer hread s sink
  have hswept := Setup.scanWindows_swept (u := Setup.ofConfig c explorer)
    (Config.fits_of_problem? hc).maxPages_pos (Setup.ofConfig c explorer).answered_any
    (c.windowCount store) (c.firstBlock store) store.isSome (c.opened s sink store)
  change r.2 = .ok report at hreport
  rw [hr, Setup.close_eq_ok] at hreport
  obtain ⟨hend, rfl⟩ := hreport
  obtain ⟨xs, n, hxs, -, hranges, hrequests, hthrottles, hlost⟩ :=
    hswept.counts _ rfl hend (Window.row_nodup _ _ _)
  obtain rfl : xs = r.1.exchanges := by
    rw [hr, Setup.close_exchanges, hxs]
    rfl
  -- the counts have begun with nothing
  replace hranges := hranges.trans (Nat.zero_add _)
  replace hthrottles := hthrottles.trans (Nat.zero_add _)
  refine ⟨hranges, ?_, hlost.trans (Nat.zero_add _)⟩
  rw [hranges, hthrottles]
  exact hrequests.trans (Nat.zero_add _)

end Scan

/-- **The questions of a scan**, however it ends. Put together, its exchanges are questions about
its windows in their order, and about each window that is begun the questions are for its pages
from the first one on, in their order; a next page is asked for only after a full one. So no
page is asked for beyond the results that the explorer serves, and whatever the explorer
answers, there are no more requests than the windows, the pages and the attempts allow.

If the scan comes to its end, all windows are begun, and its counts are those of the windows and
of the questions: a window has as many requests as throttles and one more, and the windows at
the ceiling and those given up are the ones that were not completed. -/
theorem scan_questions {σ : Type} (c : Config) (hc : c.problem? = none) (explorer : Explorer σ)
    (s : σ) (sink : Sink) (store : Option Checkpoint.Store) :
    let r := scan c explorer (Progress.start s sink store)
    let xs := r.1.exchanges
    let ws := c.windows store
    (∃ visits, questions xs = visits.flatten ∧ c.Visits ws visits ∧
        ∀ report, r.2 = .ok report → visits.length = ws.length) ∧
      (∀ x ∈ xs, x.request.page * x.request.offset ≤ c.maxResults.toNat) ∧
      (r.1.targets c).length ≤ xs.length ∧
      xs.length ≤ ws.length * (c.maxPages * c.maxAttempts.toNat) ∧
      ∀ report, r.2 = .ok report →
        report.ranges = ws.length ∧
          report.requests = (questions xs).length ∧
          report.requests = report.ranges + report.throttles ∧
          report.ceilings + report.abandoned
            = (ws.filter fun w => ¬ c.Completed xs w).length := by
  intro r xs ws
  have hnodup : ws.Nodup := Window.partition_nodup _ _ _
  have htargets : (r.1.targets c).length ≤ xs.length :=
    Nat.le_trans (List.length_filterMap_le _ _) (List.length_filter_le _ _)
  obtain ⟨visits, hvisits, hvs, hok⟩ := scan_visits hc explorer s sink store
  have hxs : xs = visits.flatten.flatten := hvisits
  have hquestions : questions xs = visits.flatten := by rw [hxs, hvs.questions hnodup]
  refine ⟨⟨visits, hquestions, hvs, fun report hreport => (hok report hreport).1⟩,
    fun x hx => hvs.page_le (hxs ▸ hx), htargets, ?_, fun report hreport => ?_⟩
  · rw [hxs]
    exact hvs.length_exchanges_le
  · obtain ⟨hranges, hrequests, hlost⟩ := scan_counts hc explorer s sink store report hreport
    refine ⟨hranges, ?_, hrequests, hlost⟩
    rw [hquestions]
    exact (hok report hreport).2

/-- Two windows, of which the explorer has full pages only; and its first reply is lost. -/
theorem scan_questions_full_pages :
    let c : Config :=
      { Config.default [] with
        fromBlock := 0, toBlock := 20, blockRange := 10, pageSize := 1, maxResults := 2 }
    let body : Text := ("\x7b\"status\":\"1\",\"message\":\"OK\",\"result\":[\x7b\"topics\":[]," ++
      "\"blockNumber\":\"0x1\",\"data\":\"0x\"\x7d]\x7d").toList
    let explorer : Explorer Bool := fun lost _ =>
      (if lost then .error .lost else .ok body, false)
    let r := scan c explorer (Progress.start true Sink.unlimited none)
    let xs := r.1.exchanges
    let ws := c.windows none
    c.problem? = none ∧ r.2 = .ok ⟨2, 4, 0, 0, 2, 2, 0⟩ ∧ xs.length = 5 ∧
      (∃ visits, questions xs = visits.flatten ∧ c.Visits ws visits ∧ visits.length = ws.length) ∧
      (questions xs).length = 4 ∧ (ws.filter fun w => ¬ c.Completed xs w).length = 2 := by
  intro c body explorer r xs ws
  have hc : c.problem? = none := by decide
  have hreport : r.2 = .ok ⟨2, 4, 0, 0, 2, 2, 0⟩ := eq_ok_of_toOption (by decide +kernel)
  have hlength : xs.length = 5 := by decide +kernel
  -- from here on nothing depends on what the scan is like
  clear_value c explorer
  obtain ⟨⟨visits, hquestions, hvisits, hall⟩, -, -, -, hcounts⟩ :=
    scan_questions c hc explorer true Sink.unlimited none
  obtain ⟨-, hrequests, -, hlost⟩ := hcounts _ hreport
  exact ⟨hc, hreport, hlength, ⟨visits, hquestions, hvisits, hall _ hreport⟩, hrequests.symm,
    hlost.symm⟩

end DepositTrail
