import DepositTrail.Proofs.HexDigits
import DepositTrail.Proofs.Numerals
import Mathlib.Data.List.Forall2
import Mathlib.Data.Nat.Digits.Defs

set_option autoImplicit false

/-! # How numbers and bytes are written

A numeral of a base is at most one plus sign and then digits, of either case and with as many
zeros in front as one likes (`Text.IsNumeral`). Its number is that of its digits, the first of
them being the highest. A string of so many bytes is written with two digits for each byte, after
at most one mark `0x` or `0X` (`Octets.IsWritten`).

These are exactly the texts that are read, as what they are written for: a numeral as its number,
if this lies below the bound (`Text.readNumeral_eq_ok_iff`), and bytes as the bytes
(`Octets.read_eq_ok_iff`).
-/

namespace DepositTrail

namespace Text

/-! ## Digits of a base -/

/-- A character is the digit for a value, if need be after it has become a small letter. -/
def IsDigitOf (base : ℕ) (c : Char) (value : ℕ) : Prop :=
  value < base ∧ c.toLower = Nat.digitChar value

/-- Characters are the digits of a number, the highest digit first. -/
def AreDigitsOf (base : ℕ) (digits : Text) (n : ℕ) : Prop :=
  ∃ values, List.Forall₂ (IsDigitOf base) digits values ∧ Nat.ofDigits base values.reverse = n

/-- At most one plus sign, and then the digits of a number. -/
def IsNumeral (base : ℕ) (t : Text) (n : ℕ) : Prop :=
  ∃ sign digits, (sign = [] ∨ sign = ['+']) ∧ t = sign ++ digits ∧ digits ≠ [] ∧
    AreDigitsOf base digits n

variable {base bound n : ℕ}

theorem digitValue?_eq_some_iff (hbase : base ≤ 16) {c : Char} {value : ℕ} :
    digitValue? base c = some value ↔ IsDigitOf base c value := by
  rw [digitValue?, Option.filter_eq_some_iff, Hex.hexValue?_eq_some_iff, decide_eq_true_eq]
  constructor
  · rintro ⟨⟨-, hc⟩, hlt⟩
    exact ⟨hlt, hc⟩
  · rintro ⟨hlt, hc⟩
    exact ⟨⟨by omega, hc⟩, hlt⟩

theorem IsDigitOf.isDigit (hbase : base ≤ 16) {c : Char} {value : ℕ}
    (h : IsDigitOf base c value) : Hex.IsDigit c :=
  Hex.isSome_hexValue?.mp (by rw [Hex.hexValue?_eq_some_iff.mpr ⟨by have := h.1; omega, h.2⟩]; rfl)

theorem AreDigitsOf.isDigit (hbase : base ≤ 16) {digits : Text} (h : AreDigitsOf base digits n) :
    ∀ c ∈ digits, Hex.IsDigit c := by
  obtain ⟨values, hall, -⟩ := h
  induction hall with
  | nil => exact nofun
  | cons hc _ ih => exact List.forall_mem_cons.mpr ⟨hc.isDigit hbase, ih⟩

/-- The digits of a number are put together from the highest on. -/
theorem ofDigits_reverse (values : List ℕ) :
    Nat.ofDigits base values.reverse = values.foldl (fun n d => base * n + d) 0 := by
  rw [Nat.ofDigits_eq_foldr, List.foldr_reverse]
  simp only [Nat.cast_id, Nat.add_comm]

/-- Digits that follow do not make a number smaller. -/
theorem le_foldl_digits (hbase : 0 < base) (values : List ℕ) (value : ℕ) :
    value ≤ values.foldl (fun n d => base * n + d) value := by
  induction values generalizing value with
  | nil => exact Nat.le_refl value
  | cons d values ih =>
      calc value ≤ base * value := Nat.le_mul_of_pos_left value hbase
        _ ≤ base * value + d := Nat.le_add_right _ _
        _ ≤ values.foldl (fun n d => base * n + d) (base * value + d) := ih _

/-! ## Reading digits -/

/-- **Digits are read** as the number that they make up behind the value before them. -/
theorem readDigits_eq_ok_iff (hpos : 0 < base) (hbase : base ≤ 16) {digits : Text} {value : ℕ}
    (hvalue : value < bound) :
    readDigits base bound value digits = .ok n ↔
      ∃ values, List.Forall₂ (IsDigitOf base) digits values ∧
        values.foldl (fun n d => base * n + d) value = n ∧ n < bound := by
  induction digits generalizing value with
  | nil =>
      simp only [readDigits, Except.ok.injEq, List.forall₂_nil_left_iff, exists_eq_left,
        List.foldl_nil]
      exact ⟨fun h => ⟨h, h ▸ hvalue⟩, And.left⟩
  | cons c digits ih =>
      cases hc : digitValue? base c with
      | none =>
          have hno : ∀ d, ¬ IsDigitOf base c d := by
            intro d hd
            rw [(digitValue?_eq_some_iff hbase).mpr hd] at hc
            cases hc
          simp [readDigits, hc, List.forall₂_cons_left_iff, hno]
      | some d =>
          have hd := (digitValue?_eq_some_iff hbase).mp hc
          have honly : ∀ d', IsDigitOf base c d' ↔ d' = d := by
            intro d'
            rw [← digitValue?_eq_some_iff hbase, hc, Option.some.injEq, eq_comm]
          simp only [readDigits, hc, List.forall₂_cons_left_iff, honly]
          split
          · rename_i hnext
            rw [ih hnext]
            constructor
            · rintro ⟨values, hall, hn, hlt⟩
              exact ⟨d :: values, ⟨d, values, rfl, hall, rfl⟩, hn, hlt⟩
            · rintro ⟨_, ⟨_, values, rfl, hall, rfl⟩, hn, hlt⟩
              exact ⟨values, hall, hn, hlt⟩
          · -- the bound is passed with this digit, and the digits behind it do not undo that
            rename_i hnext
            constructor
            · intro h
              cases h
            · rintro ⟨_, ⟨d, values, rfl, hall, rfl⟩, hn, hlt⟩
              rw [List.foldl_cons] at hn
              have hle := le_foldl_digits hpos values (base * value + d)
              omega

theorem readDigits_zero_eq_ok_iff (hpos : 0 < base) (hbase : base ≤ 16) (hbound : 0 < bound)
    {digits : Text} :
    readDigits base bound 0 digits = .ok n ↔ AreDigitsOf base digits n ∧ n < bound := by
  rw [readDigits_eq_ok_iff hpos hbase hbound]
  constructor
  · rintro ⟨values, hall, hn, hlt⟩
    exact ⟨⟨values, hall, by rw [ofDigits_reverse, hn]⟩, hlt⟩
  · rintro ⟨⟨values, hall, hn⟩, hlt⟩
    exact ⟨values, hall, by rw [← hn, ofDigits_reverse], hlt⟩

theorem readNumeral_plus (base bound : ℕ) {digits : Text} (h : digits ≠ []) :
    readNumeral base bound ('+' :: digits) = readDigits base bound 0 digits := by
  obtain ⟨c, rest, rfl⟩ := List.exists_cons_of_ne_nil h
  rfl

/-- **What is read as a number** is its numeral, if the number lies below the bound. -/
theorem readNumeral_eq_ok_iff (hpos : 0 < base) (hbase : base ≤ 16) (hbound : 0 < bound)
    {t : Text} : readNumeral base bound t = .ok n ↔ IsNumeral base t n ∧ n < bound := by
  constructor
  · intro h
    unfold readNumeral at h
    split at h
    · cases h
    · cases h
    · rename_i digits hne
      obtain ⟨hdigits, hlt⟩ := (readDigits_zero_eq_ok_iff hpos hbase hbound).mp h
      exact ⟨⟨['+'], digits, Or.inr rfl, rfl, by simpa using hne, hdigits⟩, hlt⟩
    · rename_i hne _ _
      obtain ⟨hdigits, hlt⟩ := (readDigits_zero_eq_ok_iff hpos hbase hbound).mp h
      exact ⟨⟨[], t, Or.inl rfl, rfl, by simpa using hne, hdigits⟩, hlt⟩
  · rintro ⟨⟨sign, digits, hsign, rfl, hne, hdigits⟩, hlt⟩
    have hread := (readDigits_zero_eq_ok_iff hpos hbase hbound).mpr ⟨hdigits, hlt⟩
    rcases hsign with rfl | rfl
    · obtain ⟨c, rest, rfl⟩ := List.exists_cons_of_ne_nil hne
      have hplus : c ≠ '+' := by
        rintro rfl
        exact absurd (hdigits.isDigit hbase '+' List.mem_cons_self) (by decide)
      rw [List.nil_append, readNumeral_cons base bound rest hplus, hread]
    · rw [List.singleton_append, readNumeral_plus base bound hne, hread]

/-! ## Decimal digits -/

/-- Decimal digits are those of their number. -/
theorem areDigitsOf_valueOf {digits : Text} (h : ∀ c ∈ digits, isDigit c = true) :
    AreDigitsOf 10 digits (valueOf digits) := by
  refine ⟨digits.map fun c => c.toNat - '0'.toNat, ?_, ?_⟩
  · rw [List.forall₂_map_right_iff, List.forall₂_same]
    intro c hc
    exact (digitValue?_eq_some_iff (by decide)).mp (digitValue?_ten (h c hc))
  · rw [ofDigits_reverse, List.foldl_map]
    rfl

/-- Zeros in front of a numeral do not count. -/
theorem valueOf_zeros (zeros n : ℕ) : valueOf (List.replicate zeros '0' ++ decimal n) = n := by
  have hzero : (List.replicate zeros '0').foldl
      (fun n c => 10 * n + (c.toNat - '0'.toNat)) 0 = 0 := by
    induction zeros with
    | zero => rfl
    | succ zeros ih => rw [List.replicate_succ, List.foldl_cons]; exact ih
  rw [valueOf, List.foldl_append, hzero]
  exact valueOf_decimal n

/-- **The numeral of a number** with a sign and zeros in front, or without, is one of the number. -/
theorem isNumeral_decimal {sign : Text} (hsign : sign = [] ∨ sign = ['+']) (zeros n : ℕ) :
    IsNumeral 10 (sign ++ (List.replicate zeros '0' ++ decimal n)) n := by
  refine ⟨sign, _, hsign, rfl, by simp [decimal_ne_nil], ?_⟩
  have hall : ∀ c ∈ List.replicate zeros '0' ++ decimal n, isDigit c = true := by
    intro c hc
    rcases List.mem_append.mp hc with hc | hc
    · rw [List.eq_of_mem_replicate hc]
      decide
    · exact isDigit_of_mem_decimal hc
  have h := areDigitsOf_valueOf hall
  rwa [valueOf_zeros] at h

end Text

/-! ## Strings of bytes -/

namespace Hex

/-- A text of ASCII characters is its bytes, and no other text has the same bytes. -/
theorem bytewise_eq_iff {t ascii : Text} (h : ∀ c ∈ ascii, c.toNat < 128) :
    bytewise t = ascii ↔ t = ascii := by
  induction t generalizing ascii with
  | nil => simp [eq_comm]
  | cons c t ih =>
      by_cases hc : c.toNat < 128
      · rw [bytewise_cons_of_lt hc]
        cases ascii with
        | nil => simp
        | cons d ascii =>
            rw [List.cons.injEq, List.cons.injEq, ih fun e he => h e (List.mem_cons_of_mem _ he)]
      · -- the first byte of the text is none of the ASCII characters
        obtain ⟨b, rest, hb, hge⟩ := utf8EncodeChar_of_ge (Nat.le_of_not_lt hc)
        constructor
        · rintro rfl
          have hlt := h (Char.ofNat b.toNat) (by simp [bytewise, Text.utf8, hb])
          rw [toNat_ofByte] at hlt
          omega
        · rintro rfl
          exact absurd (h c List.mem_cons_self) hc

theorem length_encode (bytes : List UInt8) : (encode bytes).length = 2 * bytes.length := by
  induction bytes with
  | nil => rfl
  | cons b rest ih =>
      rw [encode] at ih
      rw [encode, List.flatMap_cons, List.length_append, ih, List.length_cons]
      simp only [ofByte, List.length_cons, List.length_nil]
      omega

/-- Two digits spell one byte. -/
theorem Spells.length {digits : Text} {bytes : List UInt8} (h : Spells digits bytes) :
    digits.length = 2 * bytes.length := by
  rw [← length_encode, ← h, Text.lower, List.length_map]

end Hex

namespace Octets

/-- What may stand before the digits. -/
def IsMark (mark : Text) : Prop := mark = [] ∨ mark = ['0', 'x'] ∨ mark = ['0', 'X']

/-- The digits of some bytes, behind a mark or without one. -/
def IsWritten {n : ℕ} (t : Text) (o : Octets n) : Prop :=
  ∃ mark digits, IsMark mark ∧ t = mark ++ digits ∧ Hex.Spells digits o.toList

/-- The text behind its mark. -/
def unmarked (t : Text) : Text :=
  match Text.dropOpening? ['0', 'x'] t with
  | some rest => rest
  | none => Text.dropOpening ['0', 'X'] t

theorem IsMark.length {mark : Text} (h : IsMark mark) : mark.length % 2 = 0 := by
  rcases h with rfl | rfl | rfl <;> rfl

/-- A mark and digits are ASCII characters. -/
theorem IsMark.ascii {mark digits : Text} (hmark : IsMark mark)
    (hdigits : ∀ c ∈ digits, Hex.IsDigit c) : ∀ c ∈ mark ++ digits, c.toNat < 128 := by
  have hfront : ∀ c ∈ mark, c.toNat < 128 := by
    rcases hmark with rfl | rfl | rfl <;> simp
  intro c hc
  rcases List.mem_append.mp hc with hc | hc
  · exact hfront c hc
  · exact (hdigits c hc).toNat_lt

theorem exists_mark (t : Text) : ∃ mark, IsMark mark ∧ t = mark ++ unmarked t := by
  unfold unmarked Text.dropOpening
  cases hsmall : Text.dropOpening? ['0', 'x'] t with
  | some rest => exact ⟨_, Or.inr (Or.inl rfl), Hex.dropOpening?_eq_some_iff.mp hsmall⟩
  | none =>
      cases hcapital : Text.dropOpening? ['0', 'X'] t with
      | some rest => exact ⟨_, Or.inr (Or.inr rfl), Hex.dropOpening?_eq_some_iff.mp hcapital⟩
      | none => exact ⟨[], Or.inl rfl, rfl⟩

/-- Digits are what stands behind their mark: they do not begin with a further one. -/
theorem unmarked_append {mark digits : Text} (hmark : IsMark mark)
    (hdigits : ∀ c ∈ digits, Hex.IsDigit c) : unmarked (mark ++ digits) = digits := by
  rcases hmark with rfl | rfl | rfl
  · rw [List.nil_append, unmarked, Text.dropOpening,
      Hex.dropOpening?_of_isDigit (by decide) hdigits,
      Hex.dropOpening?_of_isDigit (by decide) hdigits]
    rfl
  · rfl
  · rfl

/-- **What is read as so many bytes** is what is written for them. -/
theorem read_eq_ok_iff {n : ℕ} {t : Text} {o : Octets n} :
    read n t = .ok o ↔ IsWritten t o := by
  have hread : read n t = if (Hex.bytewise t).length % 2 = 1 then .error .oddLength
      else if (unmarked (Hex.bytewise t)).length ≠ 2 * n then .error .wrongLength
      else (Hex.decodeFrom 0 (unmarked (Hex.bytewise t))).bind fun bytes =>
        if h : bytes.length = n then .ok ⟨bytes, h⟩ else .error .wrongLength := by
    unfold read unmarked
    dsimp only
    generalize Hex.decodeFrom 0 _ = result
    cases result <;> rfl
  constructor
  · intro h
    obtain ⟨mark, hmark, ht⟩ := exists_mark (Hex.bytewise t)
    rw [hread] at h
    generalize unmarked (Hex.bytewise t) = digits at ht h
    split at h
    · cases h
    · split at h
      · cases h
      · rename_i hlength
        cases hbytes : Hex.decodeFrom 0 digits with
        | error e =>
            rw [hbytes] at h
            cases h
        | ok bytes =>
            rw [hbytes, Except.bind] at h
            split at h
            · cases h
              have hspells := (Hex.decodeFrom_eq_ok_iff (by omega) 0).mp hbytes
              have hall := (Hex.exists_spells_iff.mp ⟨bytes, hspells⟩).2
              exact ⟨mark, digits, hmark, (Hex.bytewise_eq_iff (hmark.ascii hall)).mp ht, hspells⟩
            · cases h
  · rintro ⟨mark, digits, hmark, rfl, hspells⟩
    have hall := (Hex.exists_spells_iff.mp ⟨_, hspells⟩).2
    have hlength : digits.length = 2 * n := by rw [hspells.length, o.length_eq]
    have heven : (mark ++ digits).length % 2 ≠ 1 := by
      have := hmark.length
      rw [List.length_append]
      omega
    rw [hread, (Hex.bytewise_eq_iff (hmark.ascii hall)).mpr rfl, unmarked_append hmark hall,
      if_neg heven, if_neg (not_not_intro hlength),
      (Hex.decodeFrom_eq_ok_iff (by omega) 0).mpr hspells, Except.bind]
    exact dif_pos o.length_eq

end Octets

end DepositTrail
