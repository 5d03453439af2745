import DepositTrail.Config
import Mathlib.Tactic.SplitIfs

set_option autoImplicit false

/-! # Settings that fit together

What a configuration without a problem guarantees, in natural numbers (`Config.Fits`), and which
problem any other configuration has (`Config.Misfit`). Durations that come from a number of
seconds or milliseconds are as long as the number says: no such number passes the greatest one.
-/

namespace DepositTrail

/-! ## Durations -/

namespace Duration

theorem nanos_clamp (n : Nat) : (clamp n).nanos = min n maxNanos := rfl

theorem nanos_injective {d e : Duration} (h : d.nanos = e.nanos) : d = e := by
  cases d
  cases e
  simpa using h

/-- A number of units, none longer than a second, never comes to more than the greatest duration. -/
theorem nanos_clamp_of_le (n : UInt64) {unit : Nat} (h : unit ≤ nanosPerSecond) :
    (clamp (n.toNat * unit)).nanos = n.toNat * unit := by
  have hn : n.toNat + 1 ≤ UInt64.size := n.toNat_lt
  have hle := Nat.mul_le_mul hn (Nat.le_refl nanosPerSecond)
  have hunit := Nat.mul_le_mul (Nat.le_refl n.toNat) h
  have hsecond : nanosPerSecond = 1000000000 := rfl
  rw [Nat.add_one_mul] at hle
  rw [nanos_clamp, maxNanos, Nat.min_eq_left (by omega)]

theorem nanos_ofMillis (n : UInt64) : (ofMillis n).nanos = n.toNat * nanosPerMilli :=
  nanos_clamp_of_le n (by decide)

theorem nanos_ofSeconds (n : UInt64) : (ofSeconds n).nanos = n.toNat * nanosPerSecond :=
  nanos_clamp_of_le n (Nat.le_refl _)

end Duration

/-! ## Conditions -/

namespace Config

/-- The conditions under which a configuration has no problem. -/
structure Fits (c : Config) : Prop where
  fromBlock_lt : c.fromBlock.toNat < c.toBlock.toNat
  blockRange_pos : 0 < c.blockRange.toNat
  pageSize_pos : 0 < c.pageSize.toNat
  pageSize_le : c.pageSize.toNat ≤ c.maxResults.toNat
  maxAttempts_pos : 0 < c.maxAttempts.toNat

/-- What is wrong with a configuration: the first condition that it does not meet. -/
inductive Misfit (c : Config) : ConfigProblem → Prop
  | blocks (h : c.toBlock.toNat ≤ c.fromBlock.toNat) :
      Misfit c (.invalid .fromBlock (.notBelow c.fromBlock c.toBlock))
  | range (hblocks : c.fromBlock.toNat < c.toBlock.toNat) (h : c.blockRange.toNat = 0) :
      Misfit c (.invalid .blockRange .notPositive)
  | size (hblocks : c.fromBlock.toNat < c.toBlock.toNat) (hrange : 0 < c.blockRange.toNat)
      (h : c.pageSize.toNat = 0) : Misfit c (.invalid .pageSize .notPositive)
  | results (hblocks : c.fromBlock.toNat < c.toBlock.toNat) (hrange : 0 < c.blockRange.toNat)
      (hsize : 0 < c.pageSize.toNat) (h : c.maxResults.toNat < c.pageSize.toNat) :
      Misfit c (.invalid .maxResults (.belowPageSize c.maxResults c.pageSize))
  | attempts (hblocks : c.fromBlock.toNat < c.toBlock.toNat) (hrange : 0 < c.blockRange.toNat)
      (hsize : 0 < c.pageSize.toNat) (hresults : c.pageSize.toNat ≤ c.maxResults.toNat)
      (h : c.maxAttempts.toNat = 0) : Misfit c (.invalid .maxAttempts .noAttempt)

/-- The conditions in natural numbers. -/
theorem problem?_eq (c : Config) :
    c.problem? =
      if c.toBlock.toNat ≤ c.fromBlock.toNat then
        some (.invalid .fromBlock (.notBelow c.fromBlock c.toBlock))
      else if c.blockRange.toNat = 0 then some (.invalid .blockRange .notPositive)
      else if c.pageSize.toNat = 0 then some (.invalid .pageSize .notPositive)
      else if c.maxResults.toNat < c.pageSize.toNat then
        some (.invalid .maxResults (.belowPageSize c.maxResults c.pageSize))
      else if c.maxAttempts.toNat = 0 then some (.invalid .maxAttempts .noAttempt)
      else none := by
  simp only [problem?, UInt64.le_iff_toNat_le, UInt64.lt_iff_toNat_lt, ← UInt64.toNat_inj,
    ← UInt32.toNat_inj, UInt64.toNat_zero, UInt32.toNat_zero]

/-- **A configuration has no problem** exactly if it meets all conditions. -/
theorem problem?_eq_none_iff {c : Config} : c.problem? = none ↔ c.Fits := by
  rw [problem?_eq]
  constructor
  · intro h
    split_ifs at h with hblocks hrange hsize hresults hattempts
    exact ⟨by omega, by omega, by omega, by omega, by omega⟩
  · rintro ⟨hblocks, hrange, hsize, hresults, hattempts⟩
    rw [if_neg (by omega), if_neg (by omega), if_neg (by omega), if_neg (by omega),
      if_neg (by omega)]

/-- The problem of a configuration is the first condition that it does not meet. -/
theorem problem?_eq_some_iff {c : Config} {p : ConfigProblem} :
    c.problem? = some p ↔ c.Misfit p := by
  rw [problem?_eq]
  constructor
  · intro h
    split_ifs at h with hblocks hrange hsize hresults hattempts
    all_goals obtain rfl := Option.some.inj h
    · exact .blocks hblocks
    · exact .range (by omega) hrange
    · exact .size (by omega) (by omega) hsize
    · exact .results (by omega) (by omega) (by omega) hresults
    · exact .attempts (by omega) (by omega) (by omega) (by omega) hattempts
  · intro h
    cases h with
    | blocks h => rw [if_pos h]
    | range hblocks h => rw [if_neg (by omega), if_pos h]
    | size hblocks hrange h => rw [if_neg (by omega), if_neg (by omega), if_pos h]
    | results hblocks hrange hsize h =>
        rw [if_neg (by omega), if_neg (by omega), if_neg (by omega), if_pos h]
    | attempts hblocks hrange hsize hresults h =>
        rw [if_neg (by omega), if_neg (by omega), if_neg (by omega), if_neg (by omega), if_pos h]

theorem fits_of_problem? {c : Config} (h : c.problem? = none) : c.Fits :=
  problem?_eq_none_iff.mp h

namespace Fits

variable {c : Config}

/-- There is at least one page for each window. -/
theorem maxPages_pos (h : c.Fits) : 0 < c.maxPages := by
  have hsize := h.pageSize_pos
  have hle := h.pageSize_le
  unfold maxPages
  exact Nat.div_pos (by omega) (by omega)

theorem max_blockRange (h : c.Fits) : max c.blockRange.toNat 1 = c.blockRange.toNat := by
  have hrange := h.blockRange_pos
  omega

/-- So many pages hold no more than the results that are served, and one more page would. -/
theorem mul_maxPages (h : c.Fits) :
    c.pageSize.toNat * c.maxPages ≤ c.maxResults.toNat ∧
      c.maxResults.toNat < c.pageSize.toNat * (c.maxPages + 1) := by
  have hsize := h.pageSize_pos
  have hmax : max c.pageSize.toNat 1 = c.pageSize.toNat := by omega
  rw [maxPages, hmax]
  exact ⟨Nat.mul_div_le _ _, Nat.lt_mul_div_succ _ hsize⟩

end Fits

end Config

end DepositTrail
