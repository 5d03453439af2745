import DepositTrail.Proofs.NumeralGrammar
import DepositTrail.Proofs.PageLines

set_option autoImplicit false

/-! # From a result to the events of its logs

What a log is, is said by `Json.Shows`: a value shows a log if it is an object with the three
members of the log, whatever else is in it, or an array of just the three. A result is then read
up to the first of its entries that shows no log (`LogBatch.IsReadFrom`), and this is what
`LogBatch.classify` does with every value (`LogBatch.classify_front`).

Of the logs that were read, those about the wanted topic give one item each, in their order, and
the others none (`Selects`). An item says of its own log alone whether the number of its block can
be read; so one bad number does not touch the items of other logs (`extract_selects`).
-/

namespace DepositTrail

/-! ## Values that show a log -/

/-- The three values of a log. -/
structure RawLog.IsMadeOf (log : RawLog) (topics data blockNumber : Json) : Prop where
  topics_eq : topics = .arr (log.topics.map .str)
  data_eq : data = .str log.data
  blockNumber_eq : blockNumber = .str log.blockNumber

/-- A value shows a log: an object that has its three values under their names, or an array of
the three in their order and nothing else. -/
inductive Json.Shows : Json → RawLog → Prop
  | members {members : List (Text × Json)} {log : RawLog} {topics data blockNumber : Json}
      (htopics : Json.member? "topics".toList members = some topics)
      (hdata : Json.member? "data".toList members = some data)
      (hnumber : Json.member? "blockNumber".toList members = some blockNumber)
      (h : log.IsMadeOf topics data blockNumber) : Shows (.obj members) log
  | inOrder {log : RawLog} {topics data blockNumber : Json}
      (h : log.IsMadeOf topics data blockNumber) : Shows (.arr [topics, data, blockNumber]) log

theorem Json.text?_eq_some_iff {v : Json} {t : Text} : v.text? = some t ↔ v = .str t := by
  cases v <;> simp [Json.text?]

theorem Json.items?_eq_some_iff {v : Json} {items : List Json} :
    v.items? = some items ↔ v = .arr items := by
  cases v <;> simp [Json.items?]

theorem Json.mapM_text?_eq_some_iff {items : List Json} {texts : List Text} :
    items.mapM Json.text? = some texts ↔ items = texts.map .str := by
  induction items generalizing texts with
  | nil => simp [eq_comm]
  | cons item items ih =>
      simp only [List.mapM_cons, Option.bind_eq_bind, Option.bind_eq_some_iff, Option.pure_def,
        Option.some.injEq, Json.text?_eq_some_iff, ih]
      constructor
      · rintro ⟨t, rfl, rest, rfl, rfl⟩
        rfl
      · intro h
        cases texts with
        | nil => simp at h
        | cons t rest =>
            rw [List.map_cons, List.cons.injEq] at h
            exact ⟨t, h.1, rest, h.2, rfl⟩

theorem RawLog.ofParts?_eq_some_iff {topics data blockNumber : Json} {log : RawLog} :
    RawLog.ofParts? topics data blockNumber = some log ↔
      log.IsMadeOf topics data blockNumber := by
  simp only [RawLog.ofParts?, Option.bind_eq_bind, Option.bind_eq_some_iff, Option.pure_def,
    Option.some.injEq, Json.text?_eq_some_iff, Json.items?_eq_some_iff,
    Json.mapM_text?_eq_some_iff]
  constructor
  · rintro ⟨_, rfl, topics, rfl, data, rfl, blockNumber, rfl, rfl⟩
    exact ⟨rfl, rfl, rfl⟩
  · rintro ⟨rfl, rfl, rfl⟩
    exact ⟨_, rfl, _, rfl, _, rfl, _, rfl, rfl⟩

/-- **What is read as a log** is what shows it. -/
theorem RawLog.ofJson?_eq_some_iff {v : Json} {log : RawLog} :
    RawLog.ofJson? v = some log ↔ v.Shows log := by
  constructor
  · intro h
    unfold RawLog.ofJson? at h
    split at h
    · simp only [Option.bind_eq_bind, Option.bind_eq_some_iff, RawLog.ofParts?_eq_some_iff] at h
      obtain ⟨topics, htopics, data, hdata, blockNumber, hnumber, h⟩ := h
      exact .members htopics hdata hnumber h
    · exact .inOrder (RawLog.ofParts?_eq_some_iff.mp h)
    · cases h
  · rintro (⟨htopics, hdata, hnumber, h⟩ | h)
    · rw [RawLog.ofJson?, htopics, hdata, hnumber]
      exact RawLog.ofParts?_eq_some_iff.mpr h
    · exact RawLog.ofParts?_eq_some_iff.mpr h

/-! ## Batches -/

namespace LogBatch

/-- The batch that a result holds. -/
inductive IsReadFrom : LogBatch → Json → Prop
  | complete {items : List Json} {logs : List RawLog} (h : List.Forall₂ Json.Shows items logs) :
      IsReadFrom (.complete logs) (.arr items)
  | truncated {front rest : List Json} {malformed : Json} {logs : List RawLog}
      (hfront : List.Forall₂ Json.Shows front logs) (hbad : ∀ log, ¬ malformed.Shows log) :
      IsReadFrom (.truncated logs malformed (front ++ malformed :: rest).length)
        (.arr (front ++ malformed :: rest))
  | other {v : Json} (h : ∀ items, v ≠ .arr items) : IsReadFrom (.truncated [] v 0) v

/-- Entries show some logs one by one if all of them are logs, and then they show those that are
read from them. -/
theorem forall₂_shows_iff {items : List Json} {logs : List RawLog} :
    List.Forall₂ Json.Shows items logs ↔
      (∀ item ∈ items, item.isLog) ∧ logs = items.filterMap RawLog.ofJson? := by
  induction items generalizing logs with
  | nil => simp
  | cons item items ih =>
      rw [List.forall₂_cons_left_iff, List.forall_mem_cons]
      simp only [ih, Json.isLog, ← RawLog.ofJson?_eq_some_iff]
      cases hitem : RawLog.ofJson? item with
      | none => simp
      | some log =>
          rw [List.filterMap_cons_some hitem]
          simp only [Option.some.injEq, Option.isSome_some, true_and]
          constructor
          · rintro ⟨_, _, rfl, ⟨hall, rfl⟩, rfl⟩
            exact ⟨hall, rfl⟩
          · rintro ⟨hall, rfl⟩
            exact ⟨log, _, rfl, ⟨hall, rfl⟩, rfl⟩

theorem isLog_iff {v : Json} : v.isLog ↔ ∃ log, v.Shows log := by
  simp only [Json.isLog, Option.isSome_iff_exists, RawLog.ofJson?_eq_some_iff]

theorem not_isLog_iff {v : Json} : v.isLog = false ↔ ∀ log, ¬ v.Shows log := by
  rw [← Bool.not_eq_true, isLog_iff, not_exists]

/-- What comes before the first entry that is no log. -/
theorem classify_of_front {front rest : List Json} {malformed : Json}
    (hfront : ∀ item ∈ front, item.isLog) (hbad : malformed.isLog = false) :
    classify (.arr (front ++ malformed :: rest))
      = .truncated (front.filterMap RawLog.ofJson?) malformed
          (front ++ malformed :: rest).length := by
  have hfind : (front ++ malformed :: rest).find? (!·.isLog) = some malformed := by
    rw [List.find?_eq_some_iff_append]
    exact ⟨by simp [hbad], front, rest, rfl, by simpa using hfront⟩
  have htake : (front ++ malformed :: rest).takeWhile Json.isLog = front := by
    rw [List.takeWhile_append_of_pos hfront, List.takeWhile_cons_of_neg (by simp [hbad]),
      List.append_nil]
  rw [classify_arr, hfind, frontLogs, htake]

/-- The batch of a result is read from it. -/
theorem isReadFrom_classify (v : Json) : (classify v).IsReadFrom v := by
  cases v with
  | arr items =>
      cases hfind : items.find? (!·.isLog) with
      | none =>
          have hall : ∀ item ∈ items, item.isLog := by simpa using hfind
          rw [classify_of_isLog hall]
          exact .complete (forall₂_shows_iff.mpr ⟨hall, rfl⟩)
      | some malformed =>
          obtain ⟨hbad, front, rest, rfl, hfront⟩ := List.find?_eq_some_iff_append.mp hfind
          have hfront : ∀ item ∈ front, item.isLog := by simpa using hfront
          have hbad : malformed.isLog = false := by simpa using hbad
          rw [classify_of_front hfront hbad]
          exact .truncated (forall₂_shows_iff.mpr ⟨hfront, rfl⟩) (not_isLog_iff.mp hbad)
  | null | bool | int | real | str | obj => exact .other nofun

/-- No other batch is read from a result. -/
theorem IsReadFrom.eq_classify {batch : LogBatch} {v : Json} (h : batch.IsReadFrom v) :
    classify v = batch := by
  cases h with
  | complete h =>
      obtain ⟨hall, rfl⟩ := forall₂_shows_iff.mp h
      exact classify_of_isLog hall
  | truncated hfront hbad =>
      obtain ⟨hall, rfl⟩ := forall₂_shows_iff.mp hfront
      exact classify_of_front hall (not_isLog_iff.mpr hbad)
  | other h =>
      cases v with
      | arr items => exact absurd rfl (h items)
      | null | bool | int | real | str | obj => rfl

/-- **A result is read as far as its entries are logs.** What comes of it is the one batch that is
read from it. It counts all entries of an array, and none of anything else; so where an entry is
no log, it counts more than it has logs. -/
theorem classify_front (v : Json) :
    (∀ batch, classify v = batch ↔ batch.IsReadFrom v) ∧
      (∀ items, v = .arr items → (classify v).received = items.length ∧
        ((∃ item ∈ items, ∀ log, ¬ item.Shows log) →
          (classify v).logs.length < (classify v).received)) ∧
      ((∀ items, v ≠ .arr items) → (classify v).received = 0) := by
  refine ⟨fun batch => ⟨fun h => h ▸ isReadFrom_classify v, IsReadFrom.eq_classify⟩, ?_, ?_⟩
  · rintro items rfl
    have hread := isReadFrom_classify (.arr items)
    generalize classify (.arr items) = batch at hread
    cases hread with
    | complete h =>
        refine ⟨h.length_eq.symm, ?_⟩
        rintro ⟨item, hitem, hno⟩
        obtain ⟨log, hlog⟩ := isLog_iff.mp ((forall₂_shows_iff.mp h).1 item hitem)
        exact absurd hlog (hno log)
    | truncated hfront hbad =>
        refine ⟨rfl, fun _ => ?_⟩
        simp only [logs, received, ← hfront.length_eq, List.length_append, List.length_cons]
        omega
    | other h => exact absurd rfl (h items)
  · intro h
    rw [(IsReadFrom.other h).eq_classify, received]

/-- A log as an object with a further member, one as an array, a notice, and a log behind it. -/
theorem classify_front_notice :
    let topic : Text := "0x649b".toList
    let data : Text := "0xabcd".toList
    let number : Text := "0x10".toList
    let entry : Json := .obj [("blockNumber".toList, .str number), ("data".toList, .str data),
      ("logIndex".toList, .null), ("topics".toList, .arr [.str topic])]
    let inOrder : Json := .arr [.arr [], .str data, .str number]
    let notice : Json := .str "Max rate limit reached".toList
    let items := [entry, inOrder, notice, entry]
    let batch := LogBatch.truncated [⟨[topic], data, number⟩, ⟨[], data, number⟩] notice 4
    (∃ item ∈ items, ∀ log, ¬ item.Shows log) ∧ classify (.arr items) = batch ∧
      (classify (.arr items)).received = 4 ∧
      (classify (.arr items)).logs.length < (classify (.arr items)).received := by
  intro topic data number entry inOrder notice items batch
  have hnotice : ∀ log, ¬ notice.Shows log := not_isLog_iff.mp rfl
  have hentry : entry.Shows ⟨[topic], data, number⟩ :=
    .members (by rfl) (by rfl) (by rfl) ⟨rfl, rfl, rfl⟩
  have hinOrder : inOrder.Shows ⟨[], data, number⟩ := .inOrder ⟨rfl, rfl, rfl⟩
  have hread : (LogBatch.truncated [⟨[topic], data, number⟩, ⟨[], data, number⟩] notice
      ([entry, inOrder] ++ notice :: [entry]).length).IsReadFrom
        (.arr ([entry, inOrder] ++ notice :: [entry])) :=
    .truncated (.cons hentry (.cons hinOrder .nil)) hnotice
  obtain ⟨hclassify, hreceived, -⟩ := classify_front (.arr items)
  have hsome : ∃ item ∈ items, ∀ log, ¬ item.Shows log := ⟨notice, by simp [items], hnotice⟩
  obtain ⟨hlength, hless⟩ := hreceived items rfl
  exact ⟨hsome, (hclassify batch).mpr hread, hlength, hless hsome⟩

end LogBatch

/-! ## Block numbers -/

/-- The mark `0x` so many times. -/
def hexMarks (count : ℕ) : Text := (List.replicate count ['0', 'x']).flatten

/-- Any number of marks `0x`, and then a hexadecimal numeral. -/
def IsBlockNumeral (t : Text) (n : ℕ) : Prop :=
  ∃ count rest, t = hexMarks count ++ rest ∧ Text.IsNumeral 16 rest n

theorem hexMarks_succ (count : ℕ) (t : Text) :
    hexMarks (count + 1) ++ t = '0' :: 'x' :: (hexMarks count ++ t) := rfl

theorem dropHexMarks_hexMarks (count : ℕ) (t : Text) :
    dropHexMarks (hexMarks count ++ t) = dropHexMarks t := by
  induction count with
  | zero => rfl
  | succ count ih => rw [hexMarks_succ, dropHexMarks, ih]

theorem exists_hexMarks (t : Text) : ∃ count, t = hexMarks count ++ dropHexMarks t := by
  fun_induction dropHexMarks t with
  | case1 t ih =>
      obtain ⟨count, hcount⟩ := ih
      exact ⟨count + 1, by rw [hexMarks_succ, ← hcount]⟩
  | case2 t => exact ⟨0, rfl⟩

/-- A numeral does not begin with a mark: there is no digit `x`. -/
theorem dropHexMarks_of_isNumeral {t : Text} {n : ℕ} (h : Text.IsNumeral 16 t n) :
    dropHexMarks t = t := by
  obtain ⟨sign, digits, hsign, rfl, -, hdigits⟩ := h
  unfold dropHexMarks
  split
  · rename_i rest heq
    rcases hsign with rfl | rfl
    · rw [List.nil_append] at heq
      subst heq
      exact absurd (hdigits.isDigit (Nat.le_refl 16) 'x' (by simp)) (by decide)
    · exact absurd (List.cons.inj heq).1 (by decide)
  · rfl

/-- **What is read as the number of a block** is a numeral below the bound, behind any number of
marks. -/
theorem readBlock_eq_ok_iff {raw : Text} {block : UInt64} :
    readBlock raw = .ok block ↔ IsBlockNumeral raw block.toNat := by
  have hnumeral : ∀ n, Text.readNumeral 16 UInt64.size (dropHexMarks raw) = .ok n ↔
      Text.IsNumeral 16 (dropHexMarks raw) n ∧ n < UInt64.size :=
    fun n => Text.readNumeral_eq_ok_iff (by decide) (by decide) (by decide)
  constructor
  · intro h
    unfold readBlock at h
    split at h
    · rename_i n hn
      obtain ⟨hrest, hlt⟩ := (hnumeral n).mp hn
      obtain ⟨count, hcount⟩ := exists_hexMarks raw
      rw [← Except.ok.inj h, UInt64.toNat_ofNat_of_lt' hlt]
      exact ⟨count, _, hcount, hrest⟩
    · cases h
  · rintro ⟨count, rest, rfl, hrest⟩
    have hdrop : dropHexMarks (hexMarks count ++ rest) = rest := by
      rw [dropHexMarks_hexMarks, dropHexMarks_of_isNumeral hrest]
    rw [hdrop] at hnumeral
    rw [readBlock, hdrop, (hnumeral block.toNat).mpr ⟨hrest, block.toNat_lt⟩]
    simp only [UInt64.ofNat_toNat]

example : readBlock "0x0x+00fF".toList = .ok 255 := by decide

theorem readBlock_eq_error {raw : Text} (h : ∀ block : UInt64, ¬ IsBlockNumeral raw block.toNat) :
    readBlock raw = .error (.blockNumber raw) := by
  cases hread : readBlock raw with
  | ok block => exact absurd (readBlock_eq_ok_iff.mp hread) (h block)
  | error problem =>
      unfold readBlock at hread
      split at hread
      · cases hread
      · rw [← Except.error.inj hread]

/-! ## Items -/

/-- The first topic of a log is written for the wanted one. -/
def RawLog.Concerns (log : RawLog) (topic : Topic) : Prop :=
  ∃ first rest, log.topics = first :: rest ∧ Octets.IsWritten first topic

/-- The item of a log: its data and its block, or the text that is no number of a block. -/
inductive RawLog.HasItem (log : RawLog) : Event → Prop
  | read {block : UInt64} (h : IsBlockNumeral log.blockNumber block.toNat) :
      HasItem log (.ok ⟨log.data, block⟩)
  | refused (h : ∀ block : UInt64, ¬ IsBlockNumeral log.blockNumber block.toNat) :
      HasItem log (.error (.blockNumber log.blockNumber))

/-- The items of some logs: one for each log about the topic, in their order. -/
inductive Selects (topic : Topic) : List RawLog → List Event → Prop
  | nil : Selects topic [] []
  | item {log : RawLog} {logs : List RawLog} {item : Event} {items : List Event}
      (hlog : log.Concerns topic) (hitem : log.HasItem item) (h : Selects topic logs items) :
      Selects topic (log :: logs) (item :: items)
  | pass {log : RawLog} {logs : List RawLog} {items : List Event}
      (hlog : ¬ log.Concerns topic) (h : Selects topic logs items) :
      Selects topic (log :: logs) items

theorem RawLog.isAbout_iff {topic : Topic} {log : RawLog} :
    log.isAbout topic ↔ log.Concerns topic := by
  obtain ⟨topics, data, number⟩ := log
  cases topics with
  | nil => simp [RawLog.isAbout, RawLog.Concerns]
  | cons first rest =>
      have hconcerns : RawLog.Concerns ⟨first :: rest, data, number⟩ topic ↔
          Octets.read 32 first = .ok topic := by
        rw [Octets.read_eq_ok_iff]
        constructor
        · rintro ⟨_, _, heq, h⟩
          rwa [(List.cons.inj heq).1]
        · exact fun h => ⟨first, rest, rfl, h⟩
      rw [hconcerns]
      simp only [RawLog.isAbout]
      cases Octets.read 32 first with
      | error e => simp
      | ok t => simp

theorem RawLog.hasItem_iff {log : RawLog} {item : Event} :
    log.HasItem item ↔ log.event = item := by
  constructor
  · rintro (h | h)
    · rw [RawLog.event, readBlock_eq_ok_iff.mpr h]
    · rw [RawLog.event, readBlock_eq_error h]
  · rintro rfl
    unfold RawLog.event
    split
    · rename_i block hread
      exact .read (readBlock_eq_ok_iff.mp hread)
    · rename_i problem hread
      have hno : ∀ block : UInt64, ¬ IsBlockNumeral log.blockNumber block.toNat := by
        intro block h
        rw [readBlock_eq_ok_iff.mpr h] at hread
        cases hread
      rw [readBlock_eq_error hno] at hread
      rw [← Except.error.inj hread]
      exact .refused hno

/-- **The events of some logs** are the items of the logs about the topic. Each log has its item
whatever the other logs are. -/
theorem extract_selects (topic : Topic) (logs : List RawLog) :
    (∀ items, extract topic logs = items ↔ Selects topic logs items) ∧
      ∀ before log after, extract topic (before ++ log :: after)
        = extract topic before ++ extract topic [log] ++ extract topic after := by
  constructor
  · intro items
    unfold extract
    induction logs generalizing items with
    | nil =>
        constructor
        · rintro rfl
          exact .nil
        · rintro ⟨⟩
          rfl
    | cons log logs ih =>
        by_cases hlog : log.isAbout topic
        · rw [List.filter_cons_of_pos hlog, List.map_cons]
          constructor
          · rintro rfl
            exact .item (RawLog.isAbout_iff.mp hlog) (RawLog.hasItem_iff.mpr rfl)
              ((ih _).mp rfl)
          · rintro (_ | ⟨-, hitem, h⟩ | ⟨hno, -⟩)
            · rw [RawLog.hasItem_iff.mp hitem, (ih _).mpr h]
            · exact absurd (RawLog.isAbout_iff.mp hlog) hno
        · rw [List.filter_cons_of_neg hlog]
          have hno : ¬ log.Concerns topic := fun h => hlog (RawLog.isAbout_iff.mpr h)
          constructor
          · intro h
            exact .pass hno ((ih items).mp h)
          · rintro (_ | ⟨hlog, -, -⟩ | ⟨-, h⟩)
            · exact absurd hlog hno
            · exact (ih items).mpr h
  · intro before log after
    simp only [extract, ← List.map_append, ← List.filter_append, List.append_assoc,
      List.singleton_append]

end DepositTrail
