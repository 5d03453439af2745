import DepositTrail.Proofs.WindowCourse
import DepositTrail.Proofs.LogSelection
import DepositTrail.Proofs.WindowTiling

set_option autoImplicit false

/-! # Explorers that hold logs

An explorer may hold a fixed list of logs and answer each request with the page of them that it
names: the logs of the window, cut into pages. `Tells` says what envelopes it may answer with,
and `Explorer.Holds` that it always does so.

From such an explorer the pages of a window bring its logs in order, up to the last page that
is asked for (`Pages.held`). How many pages that are, and whether the ceiling is reached, is a
matter of how many logs there are.
-/

namespace DepositTrail

/-! ## Block numbers in hexadecimal -/

/-- The number that a value and the hexadecimal digits after it are, if they are digits. -/
def Text.hexNumber? : Nat → Text → Option Nat
  | value, [] => some value
  | value, c :: t =>
      match Text.hexValue? c with
      | some d => hexNumber? (16 * value + d) t
      | none => none

/-- A text is the number of a block: `0x`, and at least one hexadecimal digit. -/
def IsBlockNumber (t : Text) (block : Nat) : Prop :=
  ∃ digits, digits ≠ [] ∧ t = '0' :: 'x' :: digits ∧ Text.hexNumber? 0 digits = some block

theorem Text.digits_of_hexNumber? {value n : Nat} {t : Text} (h : hexNumber? value t = some n) :
    ∃ values, List.Forall₂ (IsDigitOf 16) t values ∧
      values.foldl (fun n d => 16 * n + d) value = n := by
  induction t generalizing value with
  | nil => exact ⟨[], .nil, Option.some.inj h⟩
  | cons c t ih =>
      unfold hexNumber? at h
      split at h
      · rename_i d hd
        obtain ⟨values, hall, hn⟩ := ih h
        exact ⟨d :: values, .cons (Hex.hexValue?_eq_some_iff.mp hd) hall, hn⟩
      · cases h

/-- **The number of a block is read as the block.** -/
theorem IsBlockNumber.readBlock {t : Text} {block : Nat} (h : IsBlockNumber t block)
    (hb : block < UInt64.size) : readBlock t = .ok (UInt64.ofNat block) := by
  obtain ⟨digits, hne, rfl, hn⟩ := h
  obtain ⟨values, hall, hvalues⟩ := Text.digits_of_hexNumber? hn
  rw [readBlock_eq_ok_iff, UInt64.toNat_ofNat_of_lt' hb]
  -- one mark, no sign, and the digits
  exact ⟨1, digits, rfl, [], digits, Or.inl rfl, rfl, hne, values, hall,
    by rw [Text.ofDigits_reverse, hvalues]⟩

example : IsBlockNumber "0x0BaD".toList 0xbad := ⟨"0BaD".toList, by decide, rfl, by decide⟩

/-! ## Held logs -/

/-- A log as an explorer holds it, with its block. -/
structure HeldLog where
  block : Nat
  raw : RawLog
  written : IsBlockNumber raw.blockNumber block

/-- The line of a held log, if it is about the wanted topic and its data can be decoded. -/
def HeldLog.line? (c : Config) (x : HeldLog) : Option Text :=
  if x.raw.isAbout c.eventTopic then
    match Deposit.decode x.raw.data with
    | .ok deposit => some ((deposit.record (UInt64.ofNat x.block)).line c.output)
    | .error _ => none
  else none

theorem HeldLog.line?_raw (c : Config) {x : HeldLog} (h : x.block < UInt64.size) :
    x.raw.line? c = x.line? c := by
  unfold RawLog.line? HeldLog.line?
  rw [x.written.readBlock h]
  cases Deposit.decode x.raw.data <;> rfl

/-- The logs of a list that lie in a window. -/
abbrev heldIn (l : List HeldLog) (w : Window) : List HeldLog := w.cut HeldLog.block l

/-! ## Answers -/

/-- The logs that a request asks for: of those in its window, the ones on its page. -/
def pageOf (l : List HeldLog) (r : PageRequest) : List HeldLog :=
  ((heldIn l ⟨r.fromBlock, r.toBlock⟩).drop ((r.page - 1) * r.offset)).take r.offset

/-- An envelope tells the logs that a request asks for: it has the status `1` and their entries,
or, where there are none, says that there are no records. -/
def Tells (l : List HeldLog) (r : PageRequest) (e : Envelope) : Prop :=
  (e.status = ['1'] ∧ ∃ items, e.result = .arr items ∧
      items.map RawLog.ofJson? = (pageOf l r).map fun x => some x.raw) ∨
    (pageOf l r = [] ∧ e.status = ['0'] ∧ e.message = "No records found".toList)

/-- **An explorer that holds logs** tells the client of a configuration, in whatever state it
is, what the client asks for. -/
def Explorer.Holds {σ : Type} (explorer : Explorer σ) (c : Config) (l : List HeldLog) : Prop :=
  ∀ s r, ∃ e, ((Client.ofConfig c).send explorer r s).1.envelope? = some e ∧ Tells l r e

section Tells

variable {l : List HeldLog} {r : PageRequest} {e : Envelope}

/-- Entries that read as the logs of a list are logs, and are these logs. -/
theorem logs_of_map_ofJson? {items : List Json} {xs : List HeldLog}
    (h : items.map RawLog.ofJson? = xs.map fun x => some x.raw) :
    (∀ item ∈ items, item.isLog) ∧ items.filterMap RawLog.ofJson? = xs.map HeldLog.raw ∧
      items.length = xs.length := by
  have hlen : items.length = xs.length := by
    have hmap := congrArg List.length h
    rwa [List.length_map, List.length_map] at hmap
  have hlogs : items.filterMap RawLog.ofJson? = xs.map HeldLog.raw := by
    calc items.filterMap RawLog.ofJson?
        = (items.map RawLog.ofJson?).filterMap id := by
          rw [List.filterMap_map]
          rfl
      _ = (xs.map fun x => some x.raw).filterMap id := by rw [h]
      _ = xs.map HeldLog.raw := by
        rw [List.filterMap_map]
        exact congrFun List.filterMap_eq_map' xs
  refine ⟨fun item hitem => ?_, hlogs, hlen⟩
  have hmem : RawLog.ofJson? item ∈ xs.map fun x => some x.raw := by
    rw [← h]
    exact List.mem_map_of_mem hitem
  obtain ⟨x, -, hx⟩ := List.mem_map.mp hmem
  rw [Json.isLog, ← hx]
  rfl

/-- The envelope counts with the logs that were asked for. -/
theorem Tells.logs (h : Tells l r e) : e.logs = (pageOf l r).map HeldLog.raw := by
  rcases h with ⟨hstatus, items, hitems, hmap⟩ | ⟨hnone, hstatus, -⟩
  · obtain ⟨hlogs, hraw, -⟩ := logs_of_map_ofJson? hmap
    rw [Envelope.logs, if_neg (by rw [hstatus]; decide), hitems,
      LogBatch.frontLogs_of_isLog hlogs, hraw]
  · rw [Envelope.logs, if_pos hstatus, hnone]
    rfl

/-- It ends its window exactly when the page is not full. -/
theorem Tells.ending? (h : Tells l r e) (hpos : 0 < r.offset) :
    e.ending? r.offset = if (pageOf l r).length < r.offset then some .exhausted else none := by
  rcases h with ⟨hstatus, items, hitems, hmap⟩ | ⟨hnone, hstatus, hmessage⟩
  · obtain ⟨hlogs, -, hlen⟩ := logs_of_map_ofJson? hmap
    rw [← hlen]
    exact Envelope.ending?_of_logs (by rw [hstatus]; decide) hitems hlogs
  · rw [hnone, List.length_nil, if_pos hpos]
    apply Envelope.ending?_of_noRecords hstatus
    rw [hmessage]
    decide

end Tells

/-! ## The pages of a window -/

section Held

variable {l : List HeldLog} {t : PageTemplate} {w : Window}

/-- An envelope for the page after the first `k`, in terms of the logs that come after those on
the first `k` pages. -/
theorem Tells.page {k : Nat} {e : Envelope} (h : Tells l (t.request w (k + 1)) e)
    (hpos : 0 < t.pageSize) {rest : List HeldLog}
    (hrest : rest = (heldIn l w).drop (k * t.pageSize)) :
    e.logs = (rest.take t.pageSize).map HeldLog.raw ∧
      e.ending? t.pageSize = if rest.length < t.pageSize then some .exhausted else none := by
  have hpage : pageOf l (t.request w (k + 1)) = rest.take t.pageSize := by
    rw [hrest]
    rfl
  have hlogs := h.logs
  have hending : e.ending? t.pageSize
      = if (pageOf l (t.request w (k + 1))).length < t.pageSize then some .exhausted else none :=
    h.ending? hpos
  rw [hpage] at hlogs hending
  refine ⟨hlogs, ?_⟩
  have hiff : (rest.take t.pageSize).length < t.pageSize ↔ rest.length < t.pageSize := by
    rw [List.length_take]
    omega
  rw [hending]
  simp only [hiff]

/-- **The pages of a window bring its logs in order**, from the page after the first `k` on. Of
`left` pages that may be asked for, those are asked for that are full, and the one after them;
if all `left` are full, the ceiling is reached. -/
theorem Pages.held (hpos : 0 < t.pageSize) {left page : Nat} {es : List Envelope}
    {ending : Ending}
    (h : Pages (fun page e => Tells l (t.request w page) e) t.pageSize left page es ending) :
    ∀ k, page = k + 1 → ∀ rest, rest = (heldIn l w).drop (k * t.pageSize) →
      es.flatMap Envelope.logs = (rest.take (left * t.pageSize)).map HeldLog.raw ∧
      ending = (if left * t.pageSize ≤ rest.length then .ceiling else .exhausted) ∧
      (rest.length < left * t.pageSize → es.length = rest.length / t.pageSize + 1) := by
  induction h with
  | @last left page e ending answer decided =>
      rintro k rfl rest hrest
      obtain ⟨hlogs, hending⟩ := answer.page hpos hrest
      rw [decided] at hending
      have hshort : rest.length < t.pageSize := by
        by_contra hfull
        rw [if_neg hfull] at hending
        cases hending
      have hmul : (left + 1) * t.pageSize = left * t.pageSize + t.pageSize := by
        rw [Nat.add_mul, Nat.one_mul]
      refine ⟨?_, ?_, fun _ => ?_⟩
      · rw [List.flatMap_singleton, hlogs, List.take_of_length_le (by omega),
          List.take_of_length_le (by omega)]
      · rw [if_pos hshort] at hending
        rw [if_neg (by omega)]
        exact Option.some.inj hending
      · rw [Nat.div_eq_of_lt hshort]
        rfl
  | @ceiling page e answer full =>
      rintro k rfl rest hrest
      obtain ⟨hlogs, hending⟩ := answer.page hpos hrest
      rw [full] at hending
      have hfull : t.pageSize ≤ rest.length := by
        by_contra hshort
        rw [if_pos (by omega)] at hending
        cases hending
      rw [Nat.one_mul]
      refine ⟨?_, ?_, fun hlt => ?_⟩
      · rw [List.flatMap_singleton, hlogs]
      · rw [if_pos hfull]
      · omega
  | @next left page e es ending answer full pages ih =>
      rintro k rfl rest hrest
      obtain ⟨hlogs, hending⟩ := answer.page hpos hrest
      rw [full] at hending
      have hfull : t.pageSize ≤ rest.length := by
        by_contra hshort
        rw [if_pos (by omega)] at hending
        cases hending
      -- the pages after this one bring what comes after its logs
      have hdrop : rest.drop t.pageSize = (heldIn l w).drop ((k + 1) * t.pageSize) := by
        rw [hrest, List.drop_drop, Nat.add_mul, Nat.one_mul]
      obtain ⟨hlogs', hend, hlen⟩ := ih (k + 1) rfl _ hdrop
      rw [List.length_drop] at hend hlen
      have hmul : (left + 2) * t.pageSize = t.pageSize + (left + 1) * t.pageSize := by
        rw [show left + 2 = 1 + (left + 1) by omega, Nat.add_mul, Nat.one_mul]
      rw [hmul]
      refine ⟨?_, ?_, fun hlt => ?_⟩
      · rw [List.flatMap_cons, hlogs, hlogs', ← List.map_append, ← List.take_add]
      · have hiff : (left + 1) * t.pageSize ≤ rest.length - t.pageSize
            ↔ t.pageSize + (left + 1) * t.pageSize ≤ rest.length := by omega
        rw [hend]
        simp only [hiff]
      · have hdiv : rest.length / t.pageSize = (rest.length - t.pageSize) / t.pageSize + 1 :=
          Nat.div_eq_sub_div hpos hfull
        rw [List.length_cons, hlen (by omega), hdiv]

/-- A window with fewer logs than the ceiling ends exhausted. -/
theorem Pages.exhausted_of_lt (hpos : 0 < t.pageSize) {left : Nat} {es : List Envelope}
    {ending : Ending}
    (h : Pages (fun page e => Tells l (t.request w page) e) t.pageSize left 1 es ending)
    (hlt : (heldIn l w).length < left * t.pageSize) : ending = .exhausted := by
  obtain ⟨-, hending, -⟩ := h.held hpos 0 rfl (heldIn l w) (by simp)
  rw [hending, if_neg (by omega)]

end Held

/-- An explorer that holds logs serves every window. -/
theorem Explorer.Holds.serves {σ : Type} {explorer : Explorer σ} {c : Config}
    {l : List HeldLog} (h : explorer.Holds c l) (w : Window) (left page : Nat) :
    (Setup.ofConfig c explorer).Serves w left page := by
  induction left generalizing page with
  | zero => trivial
  | succ left ih =>
      intro s
      obtain ⟨e, he, -⟩ := h s ((PageTemplate.ofConfig c).request w page)
      exact ⟨e, he, fun _ => ih (page + 1)⟩

/-- What an explorer answers that holds logs. -/
theorem Explorer.Holds.answered {σ : Type} {explorer : Explorer σ} {c : Config}
    {l : List HeldLog} (h : explorer.Holds c l) (w : Window) :
    (Setup.ofConfig c explorer).Answered w
      fun page e => Tells l ((PageTemplate.ofConfig c).request w page) e := by
  intro page s e he
  obtain ⟨e', he', htells⟩ := h s ((PageTemplate.ofConfig c).request w page)
  have heq : some e' = some e := he'.symm.trans he
  rw [← Option.some.inj heq]
  exact htells

/-! ## Explorers with few logs -/

/-- The explorer that has no logs at all. -/
def Explorer.silent : Explorer Unit := fun s _ => (Reply.noRecords.attempt, s)

/-- The explorer that has one log, with a body for the page on which it is. -/
def Explorer.ofLog (x : HeldLog) (body : Text) : Explorer Unit := fun s r =>
  (if (pageOf [x] r).isEmpty then Reply.noRecords.attempt else (Reply.ofBody body).attempt, s)

section FewLogs

variable {c : Config}

theorem Reply.envelope?_noRecords :
    ∃ e, Reply.noRecords.attempt.envelope? = some e ∧ e.status = ['0'] ∧
      e.message = "No records found".toList := by
  have h : (Reply.noRecords.attempt.envelope?.map fun e => (e.status, e.message))
      = some (['0'], "No records found".toList) := by decide +kernel
  obtain ⟨e, he, hfields⟩ := Option.map_eq_some_iff.mp h
  rw [Prod.mk.injEq] at hfields
  exact ⟨e, he, hfields⟩

/-- Where a request asks for no logs, that there are no records is what is to be told. -/
theorem Tells.noRecords {l : List HeldLog} {r : PageRequest} (h : pageOf l r = []) :
    ∃ e, Reply.noRecords.attempt.envelope? = some e ∧ Tells l r e := by
  obtain ⟨e, he, hstatus, hmessage⟩ := Reply.envelope?_noRecords
  exact ⟨e, he, Or.inr ⟨h, hstatus, hmessage⟩⟩

theorem Explorer.silent_holds (hc : (Client.ofConfig c).endpoint.isSome) :
    Explorer.silent.Holds c [] := by
  intro s r
  rw [Client.send_of_endpoint hc]
  apply Tells.noRecords
  simp [pageOf, Window.cut]

/-- The explorer with one log holds it if this log is what its body says. -/
theorem Explorer.ofLog_holds (hc : (Client.ofConfig c).endpoint.isSome) {x : HeldLog}
    {body : Text}
    (hbody : ((Reply.ofBody body).attempt.envelope?.map fun e =>
      (e.status, e.result.items?.map (List.map RawLog.ofJson?)))
        = some (['1'], some [some x.raw])) :
    (Explorer.ofLog x body).Holds c [x] := by
  intro s r
  rw [Client.send_of_endpoint hc]
  -- a page of one log is empty or has this log
  have hpage : pageOf [x] r = [] ∨ pageOf [x] r = [x] := by
    apply List.sublist_singleton.mp
    exact ((List.take_sublist _ _).trans (List.drop_sublist _ _)).trans List.filter_sublist
  rcases hpage with hpage | hpage
  · simp only [Explorer.ofLog, hpage, List.isEmpty_nil, if_true]
    exact Tells.noRecords hpage
  · simp only [Explorer.ofLog, hpage, List.isEmpty_cons, Bool.false_eq_true, if_false]
    obtain ⟨e, he, hfields⟩ := Option.map_eq_some_iff.mp hbody
    rw [Prod.mk.injEq] at hfields
    obtain ⟨items, hitems, hmap⟩ := Option.map_eq_some_iff.mp hfields.2
    have hresult : e.result = .arr items := by
      cases hresult : e.result with
      | arr items' =>
          rw [hresult] at hitems
          exact congrArg Json.arr (Option.some.inj hitems)
      | null | bool | int | real | str | obj => simp [hresult, Json.items?] at hitems
    refine ⟨e, he, Or.inl ⟨hfields.1, items, hresult, ?_⟩⟩
    rw [hmap, hpage]
    rfl

end FewLogs

end DepositTrail
