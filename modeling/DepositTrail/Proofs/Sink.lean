import DepositTrail.Sink

set_option autoImplicit false

/-! # What a sink takes

A sink behaves as if all bytes that were ever offered to it had come at once: writing two
strings one after the other is writing them together (`write_append`). So what a scan leaves
in a sink is found by writing the lines of the scan in one piece.

Writing touches neither the number of flushes nor the flush that fails, and flushing touches
nothing that was taken.
-/

namespace DepositTrail.Sink

/-! ## Writing -/

theorem write_unlimited {s : Sink} (h : s.room = none) (bytes : List UInt8) :
    s.write bytes = ({ s with taken := s.taken ++ bytes }, .ok ()) := by
  simp [write, h]

theorem write_nil (s : Sink) : s.write [] = (s, .ok ()) := by
  obtain ⟨taken, room, flushes, failingFlush⟩ := s
  cases room with
  | none => simp [write]
  | some n => simp [write]

/-- **Two strings one after the other are one string**, also where the sink refuses. -/
theorem write_append (s : Sink) (a b : List UInt8) :
    s.write (a ++ b) = match s.write a with
      | (s', .ok ()) => s'.write b
      | (s', .error e) => (s', .error e) := by
  obtain ⟨taken, room, flushes, failingFlush⟩ := s
  cases room with
  | none => simp [write]
  | some n =>
      -- the room may run out in the first string, in the second, or in neither
      by_cases ha : a.length ≤ n
      · by_cases hb : b.length ≤ n - a.length
        · have hab : a.length + b.length ≤ n := by omega
          simp [write, ha, hb, hab, Nat.sub_sub]
        · have hab : ¬ a.length + b.length ≤ n := by omega
          simp [write, ha, hb, hab, List.take_append, List.take_of_length_le ha]
      · have hab : ¬ a.length + b.length ≤ n := by omega
        have hz : n - a.length = 0 := by omega
        simp [write, ha, hab, List.take_append, hz]

theorem write_append_of_ok {s s' : Sink} {a : List UInt8} (h : s.write a = (s', .ok ()))
    (b : List UInt8) : s.write (a ++ b) = s'.write b := by
  rw [write_append, h]

theorem write_append_of_error {s s' : Sink} {a : List UInt8} {e : SinkProblem}
    (h : s.write a = (s', .error e)) (b : List UInt8) :
    s.write (a ++ b) = (s', .error e) := by
  rw [write_append, h]

/-- A sink that has not refused holds all it was offered. -/
theorem taken_of_write_ok {s s' : Sink} {bytes : List UInt8}
    (h : s.write bytes = (s', .ok ())) : s'.taken = s.taken ++ bytes := by
  unfold write at h
  split at h
  · simp only [Prod.mk.injEq] at h
    rw [← h.1]
  · split at h
    · simp only [Prod.mk.injEq] at h
      rw [← h.1]
    · simp at h

/-- Whether it has refused or not, a sink holds a beginning of what it was offered. -/
theorem taken_write (s : Sink) (bytes : List UInt8) :
    ∃ t, t <+: bytes ∧ (s.write bytes).1.taken = s.taken ++ t := by
  unfold write
  split
  · exact ⟨bytes, List.prefix_refl bytes, rfl⟩
  · split
    · exact ⟨bytes, List.prefix_refl bytes, rfl⟩
    · exact ⟨_, List.take_prefix _ bytes, rfl⟩

@[simp] theorem write_flushes (s : Sink) (bytes : List UInt8) :
    (s.write bytes).1.flushes = s.flushes := by
  unfold write
  split
  · rfl
  · split <;> rfl

@[simp] theorem write_failingFlush (s : Sink) (bytes : List UInt8) :
    (s.write bytes).1.failingFlush = s.failingFlush := by
  unfold write
  split
  · rfl
  · split <;> rfl

/-! ## Room for some bytes -/

/-- The sink with room for `n` bytes in all. -/
def confined (n : Nat) (s : Sink) : Sink := { s with room := some (n - s.taken.length) }

section Confined

variable {s : Sink} {n : Nat} {bytes : List UInt8}

/-- What fits is written as if there were no bounds. -/
theorem write_confined (h : s.room = none) (hn : (s.taken ++ bytes).length ≤ n) :
    (s.confined n).write bytes = ((s.write bytes).1.confined n, .ok ()) := by
  rw [List.length_append] at hn
  have hfits : bytes.length ≤ n - s.taken.length := by omega
  simp [write, confined, h, hfits, Nat.sub_sub]

/-- What does not fit is cut off behind the last byte for which there is room. -/
theorem write_confined_full (hn : s.taken.length ≤ n) (hcut : n < (s.taken ++ bytes).length) :
    ∃ s', (s.confined n).write bytes = (s', .error .full) ∧
      s'.taken = (s.taken ++ bytes).take n := by
  rw [List.length_append] at hcut
  have hfull : ¬ bytes.length ≤ n - s.taken.length := by omega
  refine ⟨_, by simp only [write, confined, hfull, if_false]; rfl, ?_⟩
  simp [List.take_append, List.take_of_length_le hn]

end Confined

/-! ## Flushing -/

@[simp] theorem flush_taken (s : Sink) : s.flush.1.taken = s.taken := by
  unfold flush
  split <;> rfl

@[simp] theorem flush_room (s : Sink) : s.flush.1.room = s.room := by
  unfold flush
  split <;> rfl

@[simp] theorem flush_flushes (s : Sink) : s.flush.1.flushes = s.flushes + 1 := by
  unfold flush
  split <;> rfl

@[simp] theorem flush_failingFlush (s : Sink) : s.flush.1.failingFlush = s.failingFlush := by
  unfold flush
  split <;> rfl

/-- A flush changes nothing in what is taken after it. -/
theorem flush_write (s : Sink) (bytes : List UInt8) :
    s.flush.1.write bytes
      = ({ (s.write bytes).1 with flushes := s.flushes + 1 }, (s.write bytes).2) := by
  have hflush : s.flush.1 = { s with flushes := s.flushes + 1 } := by
    unfold flush
    split <;> rfl
  rw [hflush]
  obtain ⟨taken, room, flushes, failingFlush⟩ := s
  cases room with
  | none => rfl
  | some n => by_cases h : bytes.length ≤ n <;> simp [write, h]

/-! ## Healthy sinks -/

/-- A sink that takes everything and whose flushes never fail. -/
structure Healthy (s : Sink) : Prop where
  room : s.room = none
  failingFlush : s.failingFlush = none

theorem healthy_unlimited : Healthy unlimited := ⟨rfl, rfl⟩

theorem Healthy.write {s : Sink} (h : s.Healthy) (bytes : List UInt8) :
    (s.write bytes).1.Healthy := by
  rw [write_unlimited h.room]
  exact ⟨h.room, h.failingFlush⟩

theorem Healthy.flush {s : Sink} (h : s.Healthy) : s.flush.1.Healthy :=
  ⟨(flush_room s).trans h.room, (flush_failingFlush s).trans h.failingFlush⟩

/-! ## Flushes that were made -/

/-- The flush with a number was made, counted from the first one of the sink, and succeeded. -/
def Flushed (s : Sink) (n : Nat) : Prop := n < s.flushes ∧ s.failingFlush ≠ some n

end DepositTrail.Sink
