import DepositTrail.Text.Utf8
import Mathlib.Tactic.SplitIfs

set_option autoImplicit false

/-! # Text as bytes and back

What was written as UTF-8 is read back as it is, with no malformed run (`Text.decode?_utf8`), so
different texts have different bytes.

A character of more than one byte is a lead byte and bytes of six bits each. Only the byte after
the lead has bounds that hang on the lead: they keep out the spellings that are too long and the
surrogates. The reader is followed through the bytes after the lead once for all lengths
(`Text.scanUtf8_begun`); what is left to do for each length is arithmetic.
-/

namespace DepositTrail.Text

/-! ## Lead bytes by their number -/

theorem lead_of_lt {b : UInt8} (h : b.toNat < 0x80) : lead b = .whole (Char.ofNat b.toNat) := by
  have hlt : b < 0x80 := UInt8.lt_iff_toNat_lt.mpr h
  rw [lead, if_pos hlt]

theorem lead_two {b : UInt8} (h : 0xc2 ≤ b.toNat) (h' : b.toNat < 0xe0) :
    lead b = .begun ⟨1, 0x80, 0xbf, b.toNat - 0xc0⟩ := by
  have hlong : ¬ b.toNat < 0x80 := by omega
  have hlow : ¬ b.toNat < 0xc2 := Nat.not_lt.mpr h
  simp [lead, UInt8.lt_iff_toNat_lt, hlong, hlow, h']

theorem lead_three {b : UInt8} (h : 0xe0 ≤ b.toNat) (h' : b.toNat < 0xf0) :
    lead b = .begun ⟨2, if b = 0xe0 then 0xa0 else 0x80, if b = 0xed then 0x9f else 0xbf,
      b.toNat - 0xe0⟩ := by
  have hlong : ¬ b.toNat < 0x80 := by omega
  have hlow : ¬ b.toNat < 0xc2 := by omega
  have htwo : ¬ b.toNat < 0xe0 := Nat.not_lt.mpr h
  simp [lead, UInt8.lt_iff_toNat_lt, hlong, hlow, htwo, h']

theorem lead_four {b : UInt8} (h : 0xf0 ≤ b.toNat) (h' : b.toNat < 0xf5) :
    lead b = .begun ⟨3, if b = 0xf0 then 0x90 else 0x80, if b = 0xf4 then 0x8f else 0xbf,
      b.toNat - 0xf0⟩ := by
  have hlong : ¬ b.toNat < 0x80 := by omega
  have hlow : ¬ b.toNat < 0xc2 := by omega
  have htwo : ¬ b.toNat < 0xe0 := by omega
  have hthree : ¬ b.toNat < 0xf0 := Nat.not_lt.mpr h
  simp [lead, UInt8.lt_iff_toNat_lt, hlong, hlow, htwo, hthree, h']

/-! ## Bytes after the lead -/

/-- Whether a byte may stand after the lead of a character, apart from the bounds of the first. -/
def IsTail (b : UInt8) : Prop := 0x80 ≤ b ∧ b ≤ 0xbf

/-- The number of a character, whose lead has a value, with the bytes after it. -/
def valueWith (value : Nat) (bytes : List UInt8) : Nat :=
  bytes.foldl (fun n b => 64 * n + (b.toNat - 0x80)) value

theorem valueWith_cons (value : Nat) (b : UInt8) (bytes : List UInt8) :
    valueWith value (b :: bytes) = valueWith (64 * value + (b.toNat - 0x80)) bytes := by
  rw [valueWith, valueWith, List.foldl_cons]

/-- **A character begun** is read to its end, if its next byte keeps to the bounds and as many
bytes follow as are missing. -/
theorem scanUtf8_begun {p : Begun} {b : UInt8} {bytes : List UInt8} (rest : List UInt8)
    (hfirst : p.least ≤ b ∧ b ≤ p.most) (hmissing : p.missing = bytes.length + 1)
    (htail : ∀ x ∈ bytes, IsTail x) :
    scanUtf8 (some p) (b :: (bytes ++ rest))
      = some (Char.ofNat (valueWith p.value (b :: bytes))) :: scanUtf8 none rest := by
  induction bytes generalizing p b with
  | nil =>
      have hlast : p.missing ≤ 1 := Nat.le_of_eq hmissing
      rw [scanUtf8, if_pos hfirst]
      simp only [if_pos hlast]
      rfl
  | cons x bytes ih =>
      have hmore : ¬ p.missing ≤ 1 := by
        rw [hmissing, List.length_cons]
        omega
      -- the bytes after the first one have the same bounds in every character
      have hrest := ih (p := ⟨p.missing - 1, 0x80, 0xbf, 64 * p.value + (b.toNat - 0x80)⟩)
        (htail x List.mem_cons_self) (by rw [hmissing]; rfl)
        fun y hy => htail y (List.mem_cons_of_mem _ hy)
      rw [scanUtf8, if_pos hfirst]
      simp only [if_neg hmore, List.cons_append, hrest, ← valueWith_cons]

/-- A lead byte with the bytes after it is one character. -/
theorem scanUtf8_lead {p : Begun} {a b : UInt8} {c : Char} (bytes rest : List UInt8)
    (hlead : lead a = .begun p) (hfirst : p.least ≤ b ∧ b ≤ p.most)
    (hmissing : p.missing = bytes.length + 1) (htail : ∀ x ∈ bytes, IsTail x)
    (hvalue : valueWith p.value (b :: bytes) = c.toNat) :
    scanUtf8 none (a :: b :: (bytes ++ rest)) = some c :: scanUtf8 none rest := by
  rw [scanUtf8, hlead]
  simp only
  rw [scanUtf8_begun rest hfirst hmissing htail, hvalue, Char.ofNat_toNat]

/-! ## Whole texts -/

theorem toNat_ofNat_of_lt {n : Nat} (h : n < 256) : (UInt8.ofNat n).toNat = n := by
  rw [UInt8.toNat_ofNat']
  omega

theorem toNat_tail (n : Nat) : (UInt8.ofNat (n % 64 + 128)).toNat = n % 64 + 128 :=
  toNat_ofNat_of_lt (by omega)

/-- Six bits as a byte after a lead. -/
theorem isTail_ofNat (n : Nat) : IsTail (UInt8.ofNat (n % 64 + 128)) := by
  constructor <;> rw [UInt8.le_iff_toNat_le, toNat_tail]
  · exact Nat.le_add_left _ _
  · show n % 64 + 128 ≤ 191
    omega

/-- **One character** is read from its bytes. -/
theorem scanUtf8_char (c : Char) (rest : List UInt8) :
    scanUtf8 none (String.utf8EncodeChar c ++ rest) = some c :: scanUtf8 none rest := by
  have hvalid : c.toNat < 0xd800 ∨ 0xdfff < c.toNat ∧ c.toNat < 0x110000 := c.valid
  have hsame : c.val.toNat = c.toNat := rfl
  unfold String.utf8EncodeChar
  simp only [hsame]
  split_ifs with hone htwo hthree
  · have hlead : (UInt8.ofNat c.toNat).toNat = c.toNat := toNat_ofNat_of_lt (by omega)
    rw [List.cons_append, scanUtf8, lead_of_lt (by omega), hlead, Char.ofNat_toNat]
    rfl
  · have hlead : (UInt8.ofNat (c.toNat / 64 % 32 + 192)).toNat = c.toNat / 64 + 192 := by
      rw [toNat_ofNat_of_lt (by omega)]
      omega
    refine scanUtf8_lead [] rest (lead_two (by omega) (by omega)) (isTail_ofNat _) rfl
      (by simp) ?_
    simp only [valueWith, List.foldl_cons, List.foldl_nil, toNat_tail, hlead]
    omega
  · have hlead : (UInt8.ofNat (c.toNat / 4096 % 16 + 224)).toNat = c.toNat / 4096 + 224 := by
      rw [toNat_ofNat_of_lt (by omega)]
      omega
    refine scanUtf8_lead [_] rest (lead_three (by omega) (by omega)) ?_ rfl
      (List.forall_mem_singleton.mpr (isTail_ofNat _)) ?_
    · -- neither a shorter spelling nor a surrogate
      rw [UInt8.le_iff_toNat_le, UInt8.le_iff_toNat_le, toNat_tail]
      simp only [← UInt8.toNat_inj, hlead]
      constructor <;> split_ifs with h <;> simp only [UInt8.reduceToNat] at h ⊢ <;> omega
    · simp only [valueWith, List.foldl_cons, List.foldl_nil, toNat_tail, hlead]
      omega
  · have hlead : (UInt8.ofNat (c.toNat / 262144 % 8 + 240)).toNat = c.toNat / 262144 + 240 := by
      rw [toNat_ofNat_of_lt (by omega)]
      omega
    refine scanUtf8_lead [_, _] rest (lead_four (by omega) (by omega)) ?_ rfl
      (List.forall_mem_cons.mpr ⟨isTail_ofNat _, List.forall_mem_singleton.mpr (isTail_ofNat _)⟩) ?_
    · -- neither a shorter spelling nor a number beyond the last character
      rw [UInt8.le_iff_toNat_le, UInt8.le_iff_toNat_le, toNat_tail]
      simp only [← UInt8.toNat_inj, hlead]
      constructor <;> split_ifs with h <;> simp only [UInt8.reduceToNat] at h ⊢ <;> omega
    · simp only [valueWith, List.foldl_cons, List.foldl_nil, toNat_tail, hlead]
      omega

/-- What was written is read, character by character. -/
theorem scanUtf8_utf8 (t : Text) : scanUtf8 none t.utf8 = t.map some := by
  induction t with
  | nil => rfl
  | cons c t ih =>
      rw [utf8, List.flatMap_cons, scanUtf8_char, List.map_cons]
      exact congrArg (some c :: ·) ih

/-- **A text is read back from its bytes.** -/
theorem decode?_utf8 (t : Text) : decode? t.utf8 = some t := by
  rw [decode?, scanUtf8_utf8]
  induction t with
  | nil => rfl
  | cons c t ih => simp [ih]

/-- **A body is read back from its bytes**, unless it begins with a byte order mark. -/
theorem decodeBody_utf8 {t : Text} (h : t.head? ≠ some '\ufeff') : decodeBody t.utf8 = t := by
  have hlossy : decodeLossy t.utf8 = t := by
    rw [decodeLossy, scanUtf8_utf8, List.map_map]
    exact List.map_id t
  rw [decodeBody, hlossy]
  cases t with
  | nil => rfl
  | cons c t =>
      have hc : ¬ '\ufeff' = c := fun hc => h (hc ▸ rfl)
      simp [dropOpening, dropOpening?, hc]

/-- Different texts have different bytes. -/
theorem utf8_injective {t t' : Text} (h : t.utf8 = t'.utf8) : t = t' := by
  have hread := decode?_utf8 t
  rw [h, decode?_utf8] at hread
  exact (Option.some.inj hread).symm

end DepositTrail.Text
