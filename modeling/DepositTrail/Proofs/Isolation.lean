import DepositTrail.Proofs.LastWrite
import DepositTrail.Proofs.ScanSeries
import DepositTrail.Proofs.ScansOverStores

set_option autoImplicit false

/-! # Scans for several contracts and topics

Scans for different contracts and topics may share one store. Each of them goes as if it had a
store of its own, into which only the scans for the same contract and topic have written
(`last_write_wins`).

Two things make it so. What a scan does depends on its store only through the mark that it loads
at its beginning (`scan_overStore`). And the rows for two contracts or topics never meet, because
their keys differ also in small letters (`Config.rowsFor_marked_of_ne`).
-/

namespace DepositTrail

/-! ## Rows of one contract and topic -/

section Rows

variable {contract : Address} {topic : Topic} {c : Config} {r : Round}

/-- Moving the checkpoint of a contract and a topic moves it among the rows about them. -/
theorem Config.rowsFor_marked (hc : c.contract = contract) (ht : c.eventTopic = topic)
    (ws : List Window) (s : Checkpoint.Store) :
    (c.marked ws s).rowsFor contract.checksummed topic.toText
      = c.marked ws (s.rowsFor contract.checksummed topic.toText) := by
  subst hc ht
  unfold marked
  cases ws.getLast? with
  | none => rfl
  | some w => exact Checkpoint.Store.rowsFor_save rfl rfl _

/-- Moving the checkpoint of others leaves the rows about a contract and a topic alone. -/
theorem Config.rowsFor_marked_of_ne (h : ¬ (c.contract = contract ∧ c.eventTopic = topic))
    (ws : List Window) (s : Checkpoint.Store) :
    (c.marked ws s).rowsFor contract.checksummed topic.toText
      = s.rowsFor contract.checksummed topic.toText := by
  unfold marked
  cases ws.getLast? with
  | none => rfl
  | some w => exact Checkpoint.Store.rowsFor_save_of_ne (mt lower_key_iff.mp h) _

namespace Round

/-- Whether a round is for a contract and a topic. -/
def isFor (contract : Address) (topic : Topic) (r : Round) : Bool :=
  r.config.contract = contract && r.config.eventTopic = topic

theorem isFor_iff : r.isFor contract topic = true
    ↔ r.config.contract = contract ∧ r.config.eventTopic = topic := by
  simp [isFor]

/-- **A round for a contract and a topic** sees the rows about them alone, and does among them
what it does in the whole store. -/
theorem outcome_rowsFor (h : r.isFor contract topic = true) (store : Checkpoint.Store) :
    r.outcome (store.rowsFor contract.checksummed topic.toText)
      = Progress.overStore (some ((r.leaves store).rowsFor contract.checksummed topic.toText))
          (r.outcome store) := by
  obtain ⟨hc, ht⟩ := isFor_iff.mp h
  obtain ⟨ws, hws⟩ := scan_overStore r.config r.explorer r.state r.sink store
  have hleaves : r.leaves store = r.config.marked ws store :=
    leaves_eq (congrArg (fun o => o.1.store) (hws store rfl))
  have hload : (store.rowsFor contract.checksummed topic.toText).load
      r.config.contract.checksummed r.config.eventTopic.toText
        = store.load r.config.contract.checksummed r.config.eventTopic.toText := by
    rw [hc, ht]
    exact Checkpoint.Store.load_rowsFor
  rw [hleaves, Config.rowsFor_marked hc ht]
  exact hws _ hload

theorem leaves_rowsFor (h : r.isFor contract topic = true) (store : Checkpoint.Store) :
    r.leaves (store.rowsFor contract.checksummed topic.toText)
      = (r.leaves store).rowsFor contract.checksummed topic.toText :=
  leaves_eq (congrArg (fun o => o.1.store) (outcome_rowsFor h store))

/-- A round for others leaves the rows about a contract and a topic alone. -/
theorem rowsFor_leaves_of_ne (h : ¬ r.isFor contract topic = true) (store : Checkpoint.Store) :
    (r.leaves store).rowsFor contract.checksummed topic.toText
      = store.rowsFor contract.checksummed topic.toText := by
  obtain ⟨ws, hws⟩ := scan_overStore r.config r.explorer r.state r.sink store
  have hleaves : r.leaves store = r.config.marked ws store :=
    leaves_eq (congrArg (fun o => o.1.store) (hws store rfl))
  rw [hleaves, Config.rowsFor_marked_of_ne (mt isFor_iff.mpr h)]

/-- After some rounds, the rows about a contract and a topic are what the rounds for these have
made of them. -/
theorem rowsFor_foldl_leaves (rounds : List Round) (store : Checkpoint.Store) :
    (rounds.foldl (fun s r => r.leaves s) store).rowsFor contract.checksummed topic.toText
      = (rounds.filter (Round.isFor contract topic)).foldl (fun s r => r.leaves s)
          (store.rowsFor contract.checksummed topic.toText) := by
  induction rounds generalizing store with
  | nil => rfl
  | cons r rounds ih =>
      rw [List.foldl_cons, ih]
      by_cases hr : r.isFor contract topic = true
      · rw [List.filter_cons_of_pos hr, List.foldl_cons, leaves_rowsFor hr]
      · rw [List.filter_cons_of_neg hr, rowsFor_leaves_of_ne hr]

end Round

end Rows

/-! ## Entries of a list that are kept -/

section Filter

variable {α : Type*} {p : α → Bool} {l : List α} {i : Nat} {a : α}

theorem filter_eq_append (p : α → Bool) (l : List α) (i : Nat) :
    l.filter p = (l.take i).filter p ++ (l.drop i).filter p := by
  rw [← List.filter_append, List.take_append_drop]

/-- The entries kept of the first `i` are the first of those that are kept. -/
theorem take_length_filter_take :
    (l.filter p).take ((l.take i).filter p).length = (l.take i).filter p := by
  rw [filter_eq_append p l i, List.take_left]

/-- Among the entries that are kept, an entry comes after those kept before it. -/
theorem getElem?_length_filter_take (h : l[i]? = some a) (ha : p a = true) :
    (l.filter p)[((l.take i).filter p).length]? = some a := by
  obtain ⟨hi, rfl⟩ := List.getElem?_eq_some_iff.mp h
  rw [filter_eq_append p l i, List.getElem?_append_right (Nat.le_refl _), Nat.sub_self,
    List.drop_eq_getElem_cons hi, List.filter_cons_of_pos ha]
  rfl

end Filter

/-- **The last write wins, and scans for different contracts and topics do not meet.** After any
saves into an empty store there is at most one row about a contract and a topic, in whatever
case they are given, and the block that is loaded for them is that of the last save for them.

And in a series of scans that share a store, take the scans for one contract and topic alone,
over a store with the rows about these alone, which is empty if the shared store is. Each of them
comes to the same result, with the same counts, output, exchanges, targets and journal, and
leaves the same mark. -/
theorem last_write_wins :
    (∀ ops : List Checkpoint.Saving, (∀ o ∈ ops, o.next.toNat < 2 ^ 63) →
      ∀ contract topic : Text,
        (Checkpoint.Store.saveAll [] ops).load contract topic
            = .ok ((ops.filter (Checkpoint.Saving.isFor contract topic)).getLast?.map fun o =>
                ⟨o.next, none⟩) ∧
          ((Checkpoint.Store.saveAll [] ops).rowsFor contract topic).length ≤ 1) ∧
    ∀ (contract : Address) (topic : Topic) (rounds : List Round) (store : Checkpoint.Store)
      (i : Nat) (r : Round), rounds[i]? = some r → r.isFor contract topic = true →
      let mine := rounds.filter (Round.isFor contract topic)
      let own := store.rowsFor contract.checksummed topic.toText
      let k := ((rounds.take i).filter (Round.isFor contract topic)).length
      let shared := r.outcome (Round.storeBefore store rounds i)
      let alone := r.outcome (Round.storeBefore own mine k)
      mine[k]? = some r ∧ alone.2 = shared.2 ∧ alone.1.report = shared.1.report ∧
        alone.1.sink = shared.1.sink ∧ alone.1.exchanges = shared.1.exchanges ∧
        alone.1.targets r.config = shared.1.targets r.config ∧
        alone.1.journal = shared.1.journal ∧
        (r.leaves (Round.storeBefore own mine k)).load contract.checksummed topic.toText
          = (r.leaves (Round.storeBefore store rounds i)).load contract.checksummed
              topic.toText := by
  constructor
  · intro ops hops contract topic
    exact ⟨Checkpoint.Store.load_saveAll_nil hops,
      Checkpoint.Store.length_rowsFor_saveAll_nil ops⟩
  · intro contract topic rounds store i r hi hr mine own k shared alone
    -- before this scan, its own store has the rows about the contract and the topic
    have hbefore : Round.storeBefore own mine k
        = (Round.storeBefore store rounds i).rowsFor contract.checksummed topic.toText := by
      rw [Round.storeBefore, Round.storeBefore, Round.rowsFor_foldl_leaves,
        take_length_filter_take]
    have halone : alone = Progress.overStore
        (some ((r.leaves (Round.storeBefore store rounds i)).rowsFor contract.checksummed
          topic.toText)) shared := by
      show r.outcome (Round.storeBefore own mine k) = _
      rw [hbefore, Round.outcome_rowsFor hr]
    have hmark : (r.leaves (Round.storeBefore own mine k)).load contract.checksummed topic.toText
        = (r.leaves (Round.storeBefore store rounds i)).load contract.checksummed
            topic.toText := by
      rw [hbefore, Round.leaves_rowsFor hr, Checkpoint.Store.load_rowsFor]
    rw [halone]
    exact ⟨getElem?_length_filter_take hi hr, rfl, rfl, rfl, rfl, rfl, rfl, hmark⟩

/-- Three saves, of which the first and the last are for the same contract and topic in different
letters; and three rounds, of which the first and the last are for the same topic. -/
theorem last_write_wins_two_topics :
    let ops : List Checkpoint.Saving := [⟨"0xAb".toList, "0xF".toList, 5⟩,
      ⟨"0xAb".toList, "0xE".toList, 9⟩, ⟨"0xaB".toList, "0xf".toList, 7⟩]
    let c : Config := { Config.default [] with fromBlock := 0, toBlock := 20, blockRange := 10 }
    let c' : Config := { c with toBlock := 30, eventTopic := ⟨List.replicate 32 0, rfl⟩ }
    let r := Round.silent { c with toBlock := 40 }
    let rounds := [Round.silent c, Round.silent c', r]
    let mine := rounds.filter (Round.isFor c.contract c.eventTopic)
    (∀ o ∈ ops, o.next.toNat < 2 ^ 63) ∧
      (Checkpoint.Store.saveAll [] ops).load "0XAB".toList "0XF".toList = .ok (some ⟨7, none⟩) ∧
      rounds[2]? = some r ∧ r.isFor c.contract c.eventTopic = true ∧ mine[1]? = some r ∧
      (r.outcome (Round.storeBefore [] mine 1)).1.journal
        = (r.outcome (Round.storeBefore [] rounds 2)).1.journal := by
  intro ops c c' r rounds mine
  have hops : ∀ o ∈ ops, o.next.toNat < 2 ^ 63 := by decide
  have hr : r.isFor c.contract c.eventTopic = true := by decide
  have hk : ((rounds.take 2).filter (Round.isFor c.contract c.eventTopic)).length = 1 := by
    decide
  obtain ⟨hsaves, hrounds⟩ := last_write_wins
  obtain ⟨hload, -⟩ := hsaves ops hops "0XAB".toList "0XF".toList
  obtain ⟨hmine, -, -, -, -, -, hjournal, -⟩ := hrounds c.contract c.eventTopic rounds [] 2 r rfl hr
  rw [hk] at hmine hjournal
  exact ⟨hops, hload, rfl, hr, hmine, hjournal⟩

end DepositTrail
