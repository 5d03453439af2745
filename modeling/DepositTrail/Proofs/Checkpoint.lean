import DepositTrail.Address
import DepositTrail.Checkpoint
import DepositTrail.Proofs.HexDigits
import Mathlib

set_option autoImplicit false

/-! # Saving and loading a checkpoint

A store into which only `save` has written (`Store.Written`) can always be read, and gives
back the block that was saved last for a contract and a topic (`Store.load_save`), as long as
that block has 63 bits. A second save for the same contract and topic leaves no trace of the
first (`Store.save_save`), so that a store is told by the last saves alone.

Of a store with other rows the same holds for a contract and a topic if the row that is found
for them has them in small letters (`Store.Lowered`). If it has not, saving goes to another
row, and loading does not see it (`Store.load_save_of_not_lowered`). Small letters do not make one
key of two: contracts and topics that differ have keys that differ also in them (`lower_key_iff`).
-/

namespace DepositTrail

/-! ## Keys in small letters -/

@[simp] theorem Text.lower_lower (t : Text) : t.lower.lower = t.lower := by
  rw [Text.lower, Text.lower, List.map_map]
  exact List.map_congr_left fun c _ => c.toLower_toLower_eq_toLower

theorem lower_checksumCase (digits hash : Text) :
    (checksumCase digits hash).lower = digits.lower := by
  induction digits generalizing hash with
  | nil => rfl
  | cons c digits ih =>
      cases hash with
      | nil => rfl
      | cons h hash =>
          unfold checksumCase
          rw [Text.lower, List.map_cons]
          split
          · rw [Char.toLower_toUpper_eq_toLower]
            exact congrArg _ (ih hash)
          · exact congrArg _ (ih hash)

namespace Octets

variable {n : Nat}

@[simp] theorem lower_toText (o : Octets n) : o.toText.lower = o.toText := by
  have hdigits : (Hex.encode o.toList).lower = Hex.encode o.toList := Hex.spells_encode _
  rw [toText, Text.lower, List.map_append, ← Text.lower, ← Text.lower, hdigits]
  rfl

theorem toText_injective {o o' : Octets n} (h : o.toText = o'.toText) : o = o' := by
  have hdigits : Hex.encode o.toList = Hex.encode o'.toList := List.append_cancel_left h
  cases o with
  | mk bytes hlen =>
      cases o' with
      | mk bytes' hlen' =>
          obtain rfl : bytes = bytes' := Hex.encode_injective hdigits
          rfl

end Octets

/-- In small letters, nothing is left of the checksum. -/
@[simp] theorem Address.lower_checksummed (a : Address) : a.checksummed.lower = a.toText := by
  have hdigits : (Hex.encode a.toList).lower = Hex.encode a.toList := Hex.spells_encode _
  unfold checksummed
  rw [Text.lower, List.map_append, ← Text.lower, ← Text.lower, lower_checksumCase, hdigits]
  rfl

/-- **Different contracts and topics** have keys that differ also in small letters. -/
theorem lower_key_iff {contract contract' : Address} {topic topic' : Topic} :
    contract'.checksummed.lower = contract.checksummed.lower ∧
        topic'.toText.lower = topic.toText.lower
      ↔ contract' = contract ∧ topic' = topic := by
  simp only [Address.lower_checksummed, Octets.lower_toText]
  constructor
  · rintro ⟨hc, ht⟩
    exact ⟨Octets.toText_injective hc, Octets.toText_injective ht⟩
  · rintro ⟨rfl, rfl⟩
    exact ⟨rfl, rfl⟩

namespace Checkpoint

/-! ## Words of 64 bits in a column of 63 -/

theorem unsigned_signed {n : UInt64} (h : n.toNat < 2 ^ 63) : unsigned (signed n) = n := by
  have hb : (n.toNat : Int) < Cell.bound := by
    simp only [Cell.bound]
    omega
  simp [signed, hb, unsigned]

/-- A word of 64 bits that was kept and read back: it is lost if it has not 63 bits. -/
theorem toNat_unsigned_signed (n : UInt64) :
    (unsigned (signed n)).toNat = if n.toNat < 2 ^ 63 then n.toNat else 0 := by
  split
  · rename_i h
    rw [unsigned_signed h]
  · rename_i h
    have hlt := n.toNat_lt
    have hb : ¬ (n.toNat : Int) < Cell.bound := by
      simp only [Cell.bound]
      omega
    -- the number wraps around, is negative in the column, and is read as zero
    have hneg : signed n ≤ 0 := by
      rw [signed, if_neg hb]
      simp only [Cell.bound]
      omega
    rw [unsigned, Int.toNat_of_nonpos hneg]
    rfl

/-! ## Rows of a written store -/

/-- The row that `save` writes. -/
def Row.saved (contract topic : Text) (next : UInt64) : Row :=
  ⟨contract.lower, topic.lower, .whole (signed next), .saved⟩

namespace Store

/-- Every row was written by `save`. -/
def Written (s : Store) : Prop := ∀ r ∈ s, ∃ contract topic next, r = Row.saved contract topic next

theorem written_nil : Written [] := by
  intro r hr
  simp at hr

theorem save_eq_put (s : Store) (contract topic : Text) (next : UInt64) :
    s.save contract topic next = put (Row.saved contract topic next) s := rfl

/-- A row of the store after `put` is the new one or was there before. -/
theorem mem_put {row r : Row} {s : Store} (h : r ∈ put row s) : r = row ∨ r ∈ s := by
  induction s with
  | nil => simpa [put] using h
  | cons r' rest ih =>
      unfold put at h
      split at h
      · rcases List.mem_cons.mp h with h | h
        · exact Or.inl h
        · exact Or.inr (List.mem_cons_of_mem _ h)
      · rcases List.mem_cons.mp h with h | h
        · exact Or.inr (by simp [h])
        · rcases ih h with h | h
          · exact Or.inl h
          · exact Or.inr (List.mem_cons_of_mem _ h)

theorem Written.save {s : Store} (hs : s.Written) (contract topic : Text) (next : UInt64) :
    (s.save contract topic next).Written := by
  intro r hr
  rcases mem_put hr with rfl | hr
  · exact ⟨contract, topic, next, rfl⟩
  · exact hs r hr

/-- A written row is about a contract and a topic when these are its key in small letters. -/
theorem isFor_saved (contract topic contract' topic' : Text) (next : UInt64) :
    (Row.saved contract' topic' next).isFor contract topic
      ↔ contract'.lower = contract.lower ∧ topic'.lower = topic.lower := by
  simp [Row.isFor, Row.saved]

/-! ## Loading -/

/-- A written store can always be read. -/
theorem Written.load_ok {s : Store} (hs : s.Written) (contract topic : Text) :
    ∃ m, s.load contract topic = .ok m := by
  unfold load
  split
  · exact ⟨none, rfl⟩
  · rename_i r hr
    obtain ⟨c, t, n, rfl⟩ := hs r (List.mem_of_find?_eq_some hr)
    exact ⟨some ⟨unsigned (signed n), none⟩, rfl⟩

/-- The row that is found for a contract and a topic, if there is one, has them in small
letters, so that `save` puts its row in the place of this one. -/
def Lowered (s : Store) (contract topic : Text) : Prop :=
  ∀ r, s.find? (Row.isFor contract topic) = some r →
    r.contract = contract.lower ∧ r.topic = topic.lower

theorem Written.lowered {s : Store} (hs : s.Written) (contract topic : Text) :
    s.Lowered contract topic := by
  intro r hr
  obtain ⟨c, t, n, rfl⟩ := hs r (List.mem_of_find?_eq_some hr)
  exact (isFor_saved _ _ _ _ _).mp (List.find?_some hr)

/-- Where no row is found, nothing stands in the way of `save`. -/
theorem lowered_of_load_none {s : Store} {contract topic : Text}
    (h : s.load contract topic = .ok none) : s.Lowered contract topic := by
  intro r hr
  rw [load, hr] at h
  cases hm : r.mark <;> simp [hm] at h

theorem find?_put {s : Store} {contract topic : Text} (hs : s.Lowered contract topic)
    (next : UInt64) :
    (put (Row.saved contract topic next) s).find? (Row.isFor contract topic)
      = some (Row.saved contract topic next) := by
  have hrow : (Row.saved contract topic next).isFor contract topic = true :=
    (isFor_saved _ _ _ _ _).mpr ⟨rfl, rfl⟩
  induction s with
  | nil => simp [put, hrow]
  | cons r rest ih =>
      unfold put
      split
      · simp [hrow]
      · -- a row at the front with another key is not the one that is found
        rename_i hne
        have hr : ¬ r.isFor contract topic = true := fun h =>
          hne (hs r (List.find?_cons_of_pos h))
        rw [List.find?_cons_of_neg hr]
        refine ih fun r' hr' => hs r' ?_
        rw [List.find?_cons_of_neg hr]
        exact hr'

theorem put_cons_of_ne {row r : Row} {rest : Store}
    (h : ¬ (r.contract = row.contract ∧ r.topic = row.topic)) :
    put row (r :: rest) = r :: put row rest :=
  if_neg h

/-- A row that is found and has another key stays the one that is found. -/
theorem find?_put_of_ne {s : Store} {contract topic : Text} {r : Row} (next : UInt64)
    (h : s.find? (Row.isFor contract topic) = some r)
    (hne : ¬ (r.contract = contract.lower ∧ r.topic = topic.lower)) :
    (put (Row.saved contract topic next) s).find? (Row.isFor contract topic) = some r := by
  induction s with
  | nil => cases h
  | cons r' rest ih =>
      by_cases hr' : r'.isFor contract topic = true
      · rw [List.find?_cons_of_pos hr'] at h
        obtain rfl := Option.some.inj h
        rw [put_cons_of_ne hne, List.find?_cons_of_pos hr']
      · rw [List.find?_cons_of_neg hr'] at h
        -- a row with the key that is saved would have been found
        have hne' : ¬ (r'.contract = contract.lower ∧ r'.topic = topic.lower) := by
          rintro ⟨hc, ht⟩
          exact hr' (by simp [Row.isFor, hc, ht])
        rw [put_cons_of_ne hne', List.find?_cons_of_neg hr']
        exact ih h

/-- What is loaded after a save, whatever the block. -/
theorem load_save_of_lowered {s : Store} {contract topic : Text} (hs : s.Lowered contract topic)
    (next : UInt64) :
    (s.save contract topic next).load contract topic
      = .ok (some ⟨unsigned (signed next), none⟩) := by
  rw [save_eq_put, load, find?_put hs]
  rfl

/-- **What was saved is loaded.** -/
theorem load_save {s : Store} (hs : s.Written) (contract topic : Text) {next : UInt64}
    (h : next.toNat < 2 ^ 63) :
    (s.save contract topic next).load contract topic = .ok (some ⟨next, none⟩) := by
  rw [load_save_of_lowered (hs.lowered _ _), unsigned_signed h]

/-- **What was saved is never loaded** where a row is found that has another key. -/
theorem load_save_of_not_lowered {s : Store} {contract topic : Text}
    (hs : ¬ s.Lowered contract topic) (next : UInt64) :
    (s.save contract topic next).load contract topic = s.load contract topic := by
  obtain ⟨r, hr, hne⟩ : ∃ r, s.find? (Row.isFor contract topic) = some r ∧
      ¬ (r.contract = contract.lower ∧ r.topic = topic.lower) := by
    simpa only [Lowered, not_forall, exists_prop] using hs
  rw [save_eq_put, load, load, find?_put_of_ne next hr hne, hr]

theorem Lowered.save {s : Store} {contract topic : Text} (hs : s.Lowered contract topic)
    (next : UInt64) : (s.save contract topic next).Lowered contract topic := by
  intro r hr
  rw [save_eq_put, find?_put hs] at hr
  obtain rfl := Option.some.inj hr
  exact ⟨rfl, rfl⟩

/-! ## A single row -/

section SingleRow

variable {r : Row} {contract topic : Text}

theorem load_singleton (h : r.isFor contract topic = true) {m : Mark} (hm : r.mark = .ok m) :
    load [r] contract topic = .ok (some m) := by
  rw [load, List.find?_cons_of_pos h]
  simp only [hm]

/-- A row with capitals in its key is not the one that `save` replaces. -/
theorem not_lowered_singleton (h : r.isFor contract topic = true)
    (hkey : ¬ (r.contract = contract.lower ∧ r.topic = topic.lower)) :
    ¬ Lowered [r] contract topic := fun hs => hkey (hs r (List.find?_cons_of_pos h))

end SingleRow

/-! ## Saving again -/

theorem put_put (row row' : Row) (s : Store)
    (h : row.contract = row'.contract ∧ row.topic = row'.topic) :
    put row' (put row s) = put row' s := by
  induction s with
  | nil => simp [put, h]
  | cons r rest ih =>
      by_cases hr : r.contract = row.contract ∧ r.topic = row.topic
      · simp [put, hr, h]
      · have hr' : ¬ (r.contract = row'.contract ∧ r.topic = row'.topic) := by
          rw [← h.1, ← h.2]
          exact hr
        rw [put, if_neg hr, put, if_neg hr', put, if_neg hr', ih]

/-- A second save for a contract and a topic leaves no trace of the first. -/
theorem save_save (s : Store) (contract topic : Text) (n m : UInt64) :
    (s.save contract topic n).save contract topic m = s.save contract topic m :=
  put_put _ _ s ⟨rfl, rfl⟩

end Store

end Checkpoint

end DepositTrail
