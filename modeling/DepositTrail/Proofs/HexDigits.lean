import DepositTrail.Hex
import Mathlib.Data.List.Induction

set_option autoImplicit false

/-! # Hexadecimal digits of either case

A text spells bytes if in small letters it is what would be written for them (`Hex.Spells`). The
texts that spell something are those with an even number of hexadecimal digits and nothing else
(`Hex.exists_spells_iff`), and they are exactly the ones that are read, as the bytes that they
spell, after at most one mark `0x` (`Hex.decode_eq_ok_iff`).

The digits are looked for in the UTF-8 bytes of a text, and not in its characters. This makes no
difference: a character that is not ASCII has only bytes that are no digits.
-/

namespace DepositTrail

/-! ## Digits and their values -/

namespace Hex

/-- A decimal digit, or one of the first six letters in either case. -/
def IsDigit (c : Char) : Prop :=
  ('0' ≤ c ∧ c ≤ '9') ∨ ('a' ≤ c ∧ c ≤ 'f') ∨ ('A' ≤ c ∧ c ≤ 'F')

instance (c : Char) : Decidable (IsDigit c) := inferInstanceAs (Decidable (_ ∨ _))

theorem isSome_hexValue? {c : Char} : (Text.hexValue? c).isSome ↔ IsDigit c := by
  unfold Text.hexValue? IsDigit
  by_cases hnumber : '0' ≤ c ∧ c ≤ '9'
  · rw [if_pos hnumber]
    exact iff_of_true rfl (Or.inl hnumber)
  · rw [if_neg hnumber]
    by_cases hsmall : 'a' ≤ c ∧ c ≤ 'f'
    · rw [if_pos hsmall]
      exact iff_of_true rfl (Or.inr (Or.inl hsmall))
    · rw [if_neg hsmall]
      by_cases hcapital : 'A' ≤ c ∧ c ≤ 'F'
      · rw [if_pos hcapital]
        exact iff_of_true rfl (Or.inr (Or.inr hcapital))
      · rw [if_neg hcapital]
        exact iff_of_false nofun (not_or.mpr ⟨hnumber, not_or.mpr ⟨hsmall, hcapital⟩⟩)

theorem IsDigit.toNat_lt {c : Char} (h : IsDigit c) : c.toNat < 128 := by
  have hle : ∀ {a b : Char}, a ≤ b → a.toNat ≤ b.toNat := fun h => h
  rcases h with ⟨-, h⟩ | ⟨-, h⟩ | ⟨-, h⟩
  all_goals
    have hhigh := hle h
    simp only [Char.reduceToNat] at hhigh
    omega

/-- What holds of the characters between two numbers, looked at one by one. -/
theorem forall_between {P : Char → Prop} {first count : Nat}
    (h : ∀ n < count, P (Char.ofNat (first + n))) {c : Char} (hlow : first ≤ c.toNat)
    (hhigh : c.toNat < first + count) : P c := by
  have hc := h (c.toNat - first) (by omega)
  rwa [Nat.add_sub_cancel' hlow, Char.ofNat_toNat] at hc

/-- What holds of the digits, looked at one by one. -/
theorem forall_isDigit {P : Char → Prop} (hnumber : ∀ n < 10, P (Char.ofNat (48 + n)))
    (hsmall : ∀ n < 6, P (Char.ofNat (97 + n))) (hcapital : ∀ n < 6, P (Char.ofNat (65 + n)))
    {c : Char} (hc : IsDigit c) : P c := by
  rcases hc with ⟨hlow, hhigh⟩ | ⟨hlow, hhigh⟩ | ⟨hlow, hhigh⟩
  · exact forall_between hnumber hlow (Nat.lt_succ_of_le hhigh)
  · exact forall_between hsmall hlow (Nat.lt_succ_of_le hhigh)
  · exact forall_between hcapital hlow (Nat.lt_succ_of_le hhigh)

/-- What is the same for the capitals and their small letters, looked at one by one, is the same
for any character and its small letter: other characters stay what they are. -/
theorem apply_toLower {α : Type} {f : Char → α}
    (h : ∀ n < 26, f (Char.ofNat (65 + n)).toLower = f (Char.ofNat (65 + n))) (c : Char) :
    f c.toLower = f c := by
  by_cases hc : 'A' ≤ c ∧ c ≤ 'Z'
  · exact forall_between (P := fun c => f c.toLower = f c) h hc.1 (Nat.lt_succ_of_le hc.2)
  · exact congrArg f (dif_neg hc)

/-- A digit has the same value in either case. -/
theorem hexValue?_toLower (c : Char) : Text.hexValue? c.toLower = Text.hexValue? c :=
  apply_toLower (by decide) c

theorem hexValue?_digit {v : Nat} (hv : v < 16) : Text.hexValue? (digit v) = some v := by
  revert v
  decide

/-- **The value of a digit** is told by the digit in small letters. -/
theorem hexValue?_eq_some_iff {c : Char} {v : Nat} :
    Text.hexValue? c = some v ↔ v < 16 ∧ c.toLower = digit v := by
  constructor
  · intro h
    have hc : IsDigit c := isSome_hexValue?.mp (by rw [h]; rfl)
    exact forall_isDigit (P := fun c => ∀ v ∈ Text.hexValue? c, v < 16 ∧ c.toLower = digit v)
      (by decide) (by decide) (by decide) hc v h
  · rintro ⟨hv, h⟩
    rw [← hexValue?_toLower, h, hexValue?_digit hv]

theorem toNat_halves (b : UInt8) :
    16 * (b.toNat / 16) + b.toNat % 16 = b.toNat ∧ b.toNat / 16 < 16 ∧ b.toNat % 16 < 16 := by
  have hlt := b.toNat_lt
  omega

/-! ## Texts that spell bytes -/

/-- In small letters, a text is what is written for some bytes. -/
def Spells (digits : Text) (bytes : List UInt8) : Prop := digits.lower = encode bytes

@[simp] theorem spells_nil_iff {bytes : List UInt8} : Spells [] bytes ↔ bytes = [] := by
  cases bytes with
  | nil => simp [Spells, Text.lower, encode]
  | cons b rest => simp [Spells, Text.lower, encode, ofByte]

/-- One digit alone spells nothing. -/
theorem not_spells_singleton {c : Char} {bytes : List UInt8} : ¬ Spells [c] bytes := by
  cases bytes with
  | nil => simp [Spells, Text.lower, encode]
  | cons b rest => simp [Spells, Text.lower, encode, ofByte]

/-- The first two digits spell the first byte. -/
theorem spells_cons_cons_iff {a c : Char} {t : Text} {bytes : List UInt8} :
    Spells (a :: c :: t) bytes ↔
      ∃ high low rest, Text.hexValue? a = some high ∧ Text.hexValue? c = some low ∧
        Spells t rest ∧ bytes = UInt8.ofNat (16 * high + low) :: rest := by
  constructor
  · intro h
    cases bytes with
    | nil => simp [Spells, Text.lower, encode] at h
    | cons b rest =>
        obtain ⟨hsum, hhigh, hlow⟩ := toNat_halves b
        simp only [Spells, Text.lower, encode, List.map_cons, List.flatMap_cons, ofByte,
          List.cons_append, List.nil_append, List.cons.injEq] at h
        obtain ⟨ha, hc, ht⟩ := h
        refine ⟨b.toNat / 16, b.toNat % 16, rest, hexValue?_eq_some_iff.mpr ⟨hhigh, ha⟩,
          hexValue?_eq_some_iff.mpr ⟨hlow, hc⟩, ht, ?_⟩
        rw [hsum, UInt8.ofNat_toNat]
  · rintro ⟨high, low, rest, ha, hc, ht, rfl⟩
    obtain ⟨hhigh, ha⟩ := hexValue?_eq_some_iff.mp ha
    obtain ⟨hlow, hc⟩ := hexValue?_eq_some_iff.mp hc
    have hbyte : (UInt8.ofNat (16 * high + low)).toNat = 16 * high + low := by
      rw [UInt8.toNat_ofNat']
      omega
    have hdiv : (16 * high + low) / 16 = high := by omega
    have hmod : (16 * high + low) % 16 = low := by omega
    unfold Spells at ht ⊢
    simp only [Text.lower, encode, List.map_cons, List.flatMap_cons, ofByte, hbyte, hdiv, hmod,
      ha, hc] at ht ⊢
    rw [ht]
    rfl

/-- **What spells bytes**: an even number of digits, and nothing else. -/
theorem exists_spells_iff {t : Text} :
    (∃ bytes, Spells t bytes) ↔ t.length % 2 = 0 ∧ ∀ c ∈ t, IsDigit c := by
  -- the induction takes two digits at a time
  induction t using List.twoStepInduction with
  | nil => simp
  | singleton c =>
      constructor
      · rintro ⟨bytes, h⟩
        exact absurd h not_spells_singleton
      · rintro ⟨hlen, -⟩
        simp at hlen
  | cons_cons a c t ih _ =>
      constructor
      · rintro ⟨bytes, h⟩
        obtain ⟨high, low, rest, ha, hc, ht, -⟩ := spells_cons_cons_iff.mp h
        obtain ⟨hlen, hall⟩ := ih.mp ⟨rest, ht⟩
        refine ⟨by simp only [List.length_cons]; omega, ?_⟩
        intro d hd
        rcases List.mem_cons.mp hd with rfl | hd
        · exact isSome_hexValue?.mp (by rw [ha]; rfl)
        · rcases List.mem_cons.mp hd with rfl | hd
          · exact isSome_hexValue?.mp (by rw [hc]; rfl)
          · exact hall d hd
      · rintro ⟨hlen, hall⟩
        obtain ⟨high, ha⟩ :=
          Option.isSome_iff_exists.mp (isSome_hexValue?.mpr (hall a (by simp)))
        obtain ⟨low, hc⟩ :=
          Option.isSome_iff_exists.mp (isSome_hexValue?.mpr (hall c (by simp)))
        obtain ⟨rest, ht⟩ := ih.mpr
          ⟨by simp only [List.length_cons] at hlen; omega, fun d hd => hall d (by simp [hd])⟩
        exact ⟨_, spells_cons_cons_iff.mpr ⟨high, low, rest, ha, hc, ht, rfl⟩⟩

/-- Pairs of digits are read as the bytes that they spell. -/
theorem decodeFrom_eq_ok_iff {t : Text} (ht : t.length % 2 = 0) (position : Nat)
    {bytes : List UInt8} : decodeFrom position t = .ok bytes ↔ Spells t bytes := by
  induction t using List.twoStepInduction generalizing position bytes with
  | nil =>
      rw [decodeFrom, spells_nil_iff]
      constructor
      · rintro ⟨⟩
        rfl
      · rintro rfl
        rfl
      · simp
  | singleton c => simp at ht
  | cons_cons a c t ih _ =>
      have ht : t.length % 2 = 0 := by
        simp only [List.length_cons] at ht
        omega
      rw [spells_cons_cons_iff, decodeFrom]
      cases ha : Text.hexValue? a with
      | none => simp [digitAt, ha, bind, Except.bind]
      | some high =>
          cases hc : Text.hexValue? c with
          | none => simp [digitAt, ha, hc, bind, Except.bind]
          | some low =>
              cases hr : decodeFrom (position + 2) t with
              | error e =>
                  have hnone : ∀ rest, ¬ Spells t rest := by
                    intro rest h
                    rw [(ih ht (position + 2)).mpr h] at hr
                    cases hr
                  simp [digitAt, ha, hc, bind, Except.bind, hnone]
              | ok rest =>
                  have hrest := (ih ht (position + 2)).mp hr
                  simp only [digitAt, ha, hc, bind, Except.bind, pure, Except.pure,
                    Except.ok.injEq, Option.some.injEq]
                  constructor
                  · rintro rfl
                    exact ⟨high, low, rest, rfl, rfl, hrest, rfl⟩
                  · rintro ⟨high', low', rest', rfl, rfl, hrest', rfl⟩
                    rw [(ih ht (position + 2)).mpr hrest', Except.ok.injEq] at hr
                    rw [hr]

/-- A text spells the bytes that are read from it, and no others. -/
theorem Spells.unique {t : Text} {bytes bytes' : List UInt8} (h : Spells t bytes)
    (h' : Spells t bytes') : bytes = bytes' := by
  have hlen := (exists_spells_iff.mp ⟨bytes, h⟩).1
  have hread := (decodeFrom_eq_ok_iff hlen 0).mpr h
  rw [(decodeFrom_eq_ok_iff hlen 0).mpr h', Except.ok.injEq] at hread
  exact hread.symm

/-! ## Writing -/

/-- What is written for some bytes spells them. -/
theorem spells_encode (bytes : List UInt8) : Spells (encode bytes) bytes := by
  have hdigit : ∀ v < 16, (digit v).toLower = digit v := by decide
  unfold Spells
  induction bytes with
  | nil => rfl
  | cons b rest ih =>
      obtain ⟨-, hhigh, hlow⟩ := toNat_halves b
      rw [Text.lower] at ih
      simp only [encode, List.flatMap_cons, Text.lower, List.map_append] at ih ⊢
      rw [ih, ofByte, List.map_cons, List.map_cons, hdigit _ hhigh, hdigit _ hlow, List.map_nil]

/-- Different bytes are written differently. -/
theorem encode_injective {bytes bytes' : List UInt8} (h : encode bytes = encode bytes') :
    bytes = bytes' :=
  (spells_encode bytes).unique (h ▸ spells_encode bytes')

/-! ## Digits in the bytes of a text -/

theorem utf8EncodeChar_of_lt {c : Char} (h : c.toNat < 128) :
    String.utf8EncodeChar c = [UInt8.ofNat c.toNat] := by
  unfold String.utf8EncodeChar
  exact if_pos (Nat.le_of_lt_succ h)

/-- A character that is not ASCII has bytes, and they are no ASCII characters. -/
theorem utf8EncodeChar_of_ge {c : Char} (h : 128 ≤ c.toNat) :
    ∃ b rest, String.utf8EncodeChar c = b :: rest ∧ 128 ≤ b.toNat := by
  have hv : ¬ c.val.toNat ≤ 127 := by
    have : c.val.toNat = c.toNat := rfl
    omega
  unfold String.utf8EncodeChar
  simp only [if_neg hv]
  split_ifs
  all_goals
    refine ⟨_, _, rfl, ?_⟩
    rw [UInt8.toNat_ofNat']
    omega

/-- A byte is the number of its character. -/
theorem toNat_ofByte (b : UInt8) : (Char.ofNat b.toNat).toNat = b.toNat := by
  have hlt := b.toNat_lt
  rw [Char.ofNat, dif_pos (Or.inl (by omega))]
  rfl

@[simp] theorem bytewise_nil : bytewise [] = [] := rfl

theorem bytewise_cons_of_lt {c : Char} {t : Text} (h : c.toNat < 128) :
    bytewise (c :: t) = c :: bytewise t := by
  have hnat : (UInt8.ofNat c.toNat).toNat = c.toNat := by
    rw [UInt8.toNat_ofNat']
    omega
  simp [bytewise, Text.utf8, utf8EncodeChar_of_lt h, hnat]

theorem bytewise_cons_of_ge {c : Char} {t : Text} (h : 128 ≤ c.toNat) :
    ∃ d rest, bytewise (c :: t) = d :: rest ∧ ¬ IsDigit d := by
  obtain ⟨b, rest, hb, hge⟩ := utf8EncodeChar_of_ge h
  refine ⟨Char.ofNat b.toNat, _, by simp [bytewise, Text.utf8, hb]; rfl, fun hdigit => ?_⟩
  have hlt := hdigit.toNat_lt
  rw [toNat_ofByte] at hlt
  omega

/-- **The bytes of a text are digits** exactly if its characters are, and then they are the same
digits. -/
theorem bytewise_isDigit_iff {t : Text} :
    (∀ c ∈ bytewise t, IsDigit c) ↔ ∀ c ∈ t, IsDigit c := by
  induction t with
  | nil => simp
  | cons c t ih =>
      by_cases hc : c.toNat < 128
      · rw [bytewise_cons_of_lt hc, List.forall_mem_cons, List.forall_mem_cons, ih]
      · constructor
        · intro h
          obtain ⟨d, rest, hd, hno⟩ := bytewise_cons_of_ge (t := t) (Nat.le_of_not_lt hc)
          rw [hd] at h
          exact absurd (h d List.mem_cons_self) hno
        · intro h
          exact absurd (h c List.mem_cons_self).toNat_lt hc

theorem bytewise_of_isDigit {t : Text} (h : ∀ c ∈ t, IsDigit c) : bytewise t = t := by
  induction t with
  | nil => rfl
  | cons c t ih =>
      rw [bytewise_cons_of_lt (h c List.mem_cons_self).toNat_lt,
        ih fun d hd => h d (List.mem_cons_of_mem _ hd)]

/-! ## Marks -/

theorem dropOpening?_eq_some_iff {opening t rest : Text} :
    Text.dropOpening? opening t = some rest ↔ t = opening ++ rest := by
  induction opening generalizing t with
  | nil => simp [Text.dropOpening?]
  | cons o opening ih =>
      cases t with
      | nil => simp [Text.dropOpening?]
      | cons c t =>
          rw [Text.dropOpening?, List.cons_append, List.cons.injEq, ← ih]
          split
          · rename_i hc
            simp [hc]
          · rename_i hc
            simp [Ne.symm hc]

/-- Digits do not begin with a mark: its second character is none. -/
theorem dropOpening?_of_isDigit {c : Char} (hc : ¬ IsDigit c) {digits : Text}
    (h : ∀ d ∈ digits, IsDigit d) : Text.dropOpening? ['0', c] digits = none := by
  rw [Option.eq_none_iff_forall_ne_some]
  intro rest hrest
  rw [dropOpening?_eq_some_iff] at hrest
  exact hc (h c (by simp [hrest]))

/-! ## Reading -/

/-- **What is read as bytes** is what spells them, after at most one mark. -/
theorem decode_eq_ok_iff {t : Text} {bytes : List UInt8} :
    decode t = .ok bytes ↔ Spells (Text.dropOpening ['0', 'x'] t) bytes := by
  unfold decode
  generalize Text.dropOpening ['0', 'x'] t = digits
  simp only
  by_cases hall : ∀ c ∈ digits, IsDigit c
  · rw [bytewise_of_isDigit hall]
    split
    · rename_i hlen
      exact decodeFrom_eq_ok_iff hlen 0
    · rename_i hlen
      constructor
      · intro h
        cases h
      · intro h
        exact absurd (exists_spells_iff.mp ⟨bytes, h⟩).1 hlen
  · -- neither side holds where there is something else than digits
    have hno : ¬ ∃ bytes, Spells digits bytes := fun h => hall (exists_spells_iff.mp h).2
    constructor
    · intro h
      split at h
      · rename_i hlen
        have hspells := (decodeFrom_eq_ok_iff hlen 0).mp h
        exact absurd (bytewise_isDigit_iff.mp (exists_spells_iff.mp ⟨bytes, hspells⟩).2) hall
      · cases h
    · intro h
      exact absurd ⟨bytes, h⟩ hno

/-- A text is refused exactly if it spells nothing. -/
theorem decode_eq_error_iff {t : Text} :
    (∃ problem, decode t = .error problem) ↔
      ¬ ∃ bytes, Spells (Text.dropOpening ['0', 'x'] t) bytes := by
  cases h : decode t with
  | error problem =>
      refine ⟨fun _ => ?_, fun _ => ⟨problem, rfl⟩⟩
      rintro ⟨bytes, hbytes⟩
      rw [decode_eq_ok_iff.mpr hbytes] at h
      cases h
  | ok bytes =>
      constructor
      · rintro ⟨problem, ⟨⟩⟩
      · intro hno
        exact absurd ⟨bytes, decode_eq_ok_iff.mp h⟩ hno

end Hex

end DepositTrail
