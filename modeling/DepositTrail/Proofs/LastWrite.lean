import DepositTrail.Proofs.Checkpoint

set_option autoImplicit false

/-! # The rows for a contract and a topic

Loading compares keys without regard to case, but saving looks for a row whose key is exactly
that in small letters. So of what one does and the other finds there is in common only this: a
row is about a contract and a topic, or it is not (`Row.isFor`). To save for a contract and a
topic is to save into the rows about them, and leaves all other rows alone
(`Store.rowsFor_save`, `Store.rowsFor_save_of_ne`).

From this follows what a store is after any number of saves. Its rows about a contract and a
topic are what the saves for these alone make of them (`Store.rowsFor_saveAll`); and where there
were none at first, there is the row of the last such save and no other
(`Store.rowsFor_saveAll_nil`).
-/

namespace DepositTrail.Checkpoint

/-- A call of `save`. -/
structure Saving where
  contract : Text
  topic : Text
  next : UInt64
deriving Repr, DecidableEq

/-- Whether a call is for a contract and a topic, whatever the case of their letters. -/
def Saving.isFor (contract topic : Text) (o : Saving) : Bool :=
  o.contract.lower = contract.lower && o.topic.lower = topic.lower

theorem Saving.isFor_iff {contract topic : Text} {o : Saving} :
    o.isFor contract topic = true
      ↔ o.contract.lower = contract.lower ∧ o.topic.lower = topic.lower := by
  simp [isFor]

namespace Store

/-- The store after some calls, one after the other. -/
def saveAll (s : Store) (ops : List Saving) : Store :=
  ops.foldl (fun s o => s.save o.contract o.topic o.next) s

/-- The rows about a contract and a topic. -/
def rowsFor (s : Store) (contract topic : Text) : Store := s.filter (Row.isFor contract topic)

section Rows

variable {s : Store} {contract topic : Text}

theorem rowsFor_nil : rowsFor [] contract topic = [] := rfl

/-- **Loading looks at the rows** about the contract and the topic alone. -/
theorem load_rowsFor : (s.rowsFor contract topic).load contract topic = s.load contract topic := by
  have hfind : (s.rowsFor contract topic).find? (Row.isFor contract topic)
      = s.find? (Row.isFor contract topic) := by
    simp [rowsFor, List.find?_filter]
  rw [load, load, hfind]

/-- A row about the contract and the topic is put among the rows about them. -/
theorem rowsFor_put {row : Row} (h : row.isFor contract topic = true) :
    (put row s).rowsFor contract topic = put row (s.rowsFor contract topic) := by
  induction s with
  | nil => simp [put, rowsFor, h]
  | cons r rest ih =>
      unfold rowsFor at ih ⊢
      by_cases hkey : r.contract = row.contract ∧ r.topic = row.topic
      · -- a row with the same key is about the same contract and topic
        have hr : r.isFor contract topic = true := by
          rw [Row.isFor, hkey.1, hkey.2]
          exact h
        rw [put, if_pos hkey, List.filter_cons_of_pos h, List.filter_cons_of_pos hr, put,
          if_pos hkey]
      · rw [put_cons_of_ne hkey]
        by_cases hr : r.isFor contract topic = true
        · rw [List.filter_cons_of_pos hr, List.filter_cons_of_pos hr, put_cons_of_ne hkey, ih]
        · rw [List.filter_cons_of_neg hr, List.filter_cons_of_neg hr, ih]

/-- A row about others is put elsewhere. -/
theorem rowsFor_put_of_ne {row : Row} (h : ¬ row.isFor contract topic = true) :
    (put row s).rowsFor contract topic = s.rowsFor contract topic := by
  induction s with
  | nil => simp [put, rowsFor, h]
  | cons r rest ih =>
      unfold rowsFor at ih ⊢
      by_cases hkey : r.contract = row.contract ∧ r.topic = row.topic
      · have hr : ¬ r.isFor contract topic = true := by
          rw [Row.isFor, hkey.1, hkey.2]
          exact h
        rw [put, if_pos hkey, List.filter_cons_of_neg h, List.filter_cons_of_neg hr]
      · rw [put_cons_of_ne hkey, List.filter_cons, List.filter_cons, ih]

/-! ## One save -/

/-- **To save for a contract and a topic** is to save into the rows about them. -/
theorem rowsFor_save {contract' topic' : Text} (hc : contract'.lower = contract.lower)
    (ht : topic'.lower = topic.lower) (next : UInt64) :
    (s.save contract' topic' next).rowsFor contract topic
      = (s.rowsFor contract topic).save contract topic next := by
  have hsaved : Row.saved contract' topic' next = Row.saved contract topic next := by
    rw [Row.saved, Row.saved, hc, ht]
  rw [save_eq_put, save_eq_put, hsaved]
  exact rowsFor_put ((isFor_saved _ _ _ _ _).mpr ⟨rfl, rfl⟩)

/-- To save for another contract or topic leaves the rows about these alone. -/
theorem rowsFor_save_of_ne {contract' topic' : Text}
    (h : ¬ (contract'.lower = contract.lower ∧ topic'.lower = topic.lower)) (next : UInt64) :
    (s.save contract' topic' next).rowsFor contract topic = s.rowsFor contract topic := by
  rw [save_eq_put]
  exact rowsFor_put_of_ne (mt (isFor_saved _ _ _ _ _).mp h)

end Rows

/-! ## Many saves -/

section SaveAll

variable {contract topic : Text}

theorem saveAll_cons (s : Store) (o : Saving) (ops : List Saving) :
    s.saveAll (o :: ops) = (s.save o.contract o.topic o.next).saveAll ops := rfl

theorem saveAll_concat (s : Store) (ops : List Saving) (o : Saving) :
    s.saveAll (ops ++ [o]) = (s.saveAll ops).save o.contract o.topic o.next := by
  rw [saveAll, saveAll, List.foldl_append]
  rfl

/-- **The rows about a contract and a topic** are what the saves for these make of them. -/
theorem rowsFor_saveAll (s : Store) (ops : List Saving) :
    (s.saveAll ops).rowsFor contract topic
      = (s.rowsFor contract topic).saveAll (ops.filter (Saving.isFor contract topic)) := by
  induction ops generalizing s with
  | nil => rfl
  | cons o ops ih =>
      rw [saveAll_cons, ih]
      by_cases ho : o.isFor contract topic = true
      · obtain ⟨hc, ht⟩ := Saving.isFor_iff.mp ho
        rw [List.filter_cons_of_pos ho, saveAll_cons, rowsFor_save hc ht]
        rw [save, save, hc, ht]
      · rw [List.filter_cons_of_neg ho, rowsFor_save_of_ne (mt Saving.isFor_iff.mpr ho)]

/-- Saves for one contract and topic leave what the last of them does. -/
theorem saveAll_of_isFor (s : Store) {ops : List Saving}
    (h : ∀ o ∈ ops, o.isFor contract topic = true) :
    s.saveAll ops = match ops.getLast? with
      | none => s
      | some o => s.save contract topic o.next := by
  induction ops using List.reverseRecOn with
  | nil => rfl
  | append_singleton ops o ih =>
      obtain ⟨hc, ht⟩ := Saving.isFor_iff.mp (h o (by simp))
      have ih := ih fun o' ho' => h o' (List.mem_append_left _ ho')
      have ho : (s.saveAll ops).save o.contract o.topic o.next
          = (s.saveAll ops).save contract topic o.next := by
        rw [save, save, hc, ht]
      rw [saveAll_concat, ho, List.getLast?_concat, ih]
      cases ops.getLast? with
      | none => rfl
      | some o' => exact save_save s contract topic o'.next o.next

/-- **After any saves into an empty store** there is one row about a contract and a topic, that
of the last save for them, or none if there was no such save. -/
theorem rowsFor_saveAll_nil (ops : List Saving) :
    (saveAll [] ops).rowsFor contract topic
      = ((ops.filter (Saving.isFor contract topic)).getLast?.map fun o =>
          Row.saved contract topic o.next).toList := by
  rw [rowsFor_saveAll, rowsFor_nil, saveAll_of_isFor [] fun o ho => List.of_mem_filter ho]
  cases (ops.filter (Saving.isFor contract topic)).getLast? <;> rfl

theorem length_rowsFor_saveAll_nil (ops : List Saving) :
    ((saveAll [] ops).rowsFor contract topic).length ≤ 1 := by
  rw [rowsFor_saveAll_nil]
  cases (ops.filter (Saving.isFor contract topic)).getLast? <;> simp

/-- **The last save is the one that is loaded.** -/
theorem load_saveAll_nil {ops : List Saving} (h : ∀ o ∈ ops, o.next.toNat < 2 ^ 63) :
    (saveAll [] ops).load contract topic
      = .ok ((ops.filter (Saving.isFor contract topic)).getLast?.map fun o =>
          ⟨o.next, none⟩) := by
  rw [← load_rowsFor, rowsFor_saveAll_nil]
  cases hlast : (ops.filter (Saving.isFor contract topic)).getLast? with
  | none => rfl
  | some o =>
      have hmem : o ∈ ops := List.mem_of_mem_filter (List.mem_of_getLast? hlast)
      have hsave : [Row.saved contract topic o.next] = save [] contract topic o.next := rfl
      rw [Option.map_some, Option.map_some, Option.toList_some, hsave,
        load_save written_nil contract topic (h o hmem)]

end SaveAll

end Store

end DepositTrail.Checkpoint
