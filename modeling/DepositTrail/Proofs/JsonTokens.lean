import DepositTrail.Json.Printer
import DepositTrail.Json.Token
import DepositTrail.Proofs.Numerals
import Mathlib.Data.Char
import Mathlib.Data.List.Forall2
import Mathlib.Data.List.TakeDrop
import Mathlib.Tactic.SplitIfs

set_option autoImplicit false

/-! # Tokens of JSON text

Cutting a text never lacks steps: a token leaves less than it was cut from, so the tokens of a
text are its first token and the tokens of what this leaves (`Json.tokens_cons`).

A string is read character by character. What stands for a character between the quotation marks
is read as this character wherever it stands (`Json.StandsFor`). A whole number of one word is
read as itself, if no further digit, point or exponent follows it (`Json.Ends`). So each token is
cut off as what was written, and leaves what was behind it.
-/

namespace DepositTrail.Json

/-! ## What a token leaves -/

theorem length_of_afterString {t rest : Text} (h : afterString t = .ok rest) :
    rest.length < t.length := by
  fun_induction afterString t with
  | case3 t =>
      -- the closing mark
      cases h
      exact Nat.lt_succ_self _
  | case4 a b c d t n hquad ih =>
      have := ih h
      simp only [List.length_cons]
      omega
  | case7 e t hquad hu c hescape ih =>
      have := ih h
      simp only [List.length_cons]
      omega
  | case10 c t hend hquote hquad hu hescape hc ih =>
      -- a character that stands for itself
      exact Nat.lt_succ_of_lt (ih h)
  | case1 | case2 | case5 | case6 | case8 | case9 => cases h

theorem length_of_afterLetters {letters t rest : Text} (h : afterLetters letters t = .ok rest) :
    rest.length ≤ t.length := by
  fun_induction afterLetters letters t with
  | case1 t =>
      cases h
      exact le_refl _
  | case3 letters l t ih => exact Nat.le_succ_of_le (ih h)
  | case2 | case4 => cases h

theorem takeDigits_eq_ok {t digits rest : Text} (h : takeDigits t = .ok (digits, rest)) :
    digits ≠ [] ∧ digits ++ rest = t := by
  unfold takeDigits at h
  split at h
  · cases h
  · cases h
  · -- the other two cases are those without a digit
    rename_i hend hrest
    rw [List.span_eq_takeWhile_dropWhile] at h hend hrest
    obtain ⟨rfl, rfl⟩ := Prod.mk.inj (Except.ok.inj h)
    refine ⟨?_, List.takeWhile_append_dropWhile⟩
    intro hnil
    cases hdrop : t.dropWhile Text.isDigit with
    | nil => exact hend (by rw [hnil, hdrop])
    | cons c rest => exact hrest c rest (by rw [hnil, hdrop])

theorem length_of_takeDigits {t digits rest : Text} (h : takeDigits t = .ok (digits, rest)) :
    rest.length < t.length := by
  obtain ⟨hne, rfl⟩ := takeDigits_eq_ok h
  have := List.length_pos_iff.mpr hne
  rw [List.length_append]
  omega

theorem length_of_map_takeDigits {α : Type} {f : Text → α} {t rest : Text} {x : α}
    (h : (takeDigits t).map (fun r => (f r.1, r.2)) = .ok (x, rest)) :
    rest.length < t.length := by
  cases hdigits : takeDigits t with
  | error e =>
      rw [hdigits] at h
      cases h
  | ok r =>
      rw [hdigits] at h
      cases h
      exact length_of_takeDigits hdigits

theorem length_of_takeFraction {t rest : Text} {fraction : Option Text}
    (h : takeFraction t = .ok (fraction, rest)) : rest.length ≤ t.length := by
  unfold takeFraction at h
  split at h
  · exact Nat.le_succ_of_le (Nat.le_of_lt (length_of_map_takeDigits h))
  · cases h
    exact le_refl _

theorem length_of_takeExponent {t rest : Text} {exponent : Option (Bool × Text)}
    (h : takeExponent t = .ok (exponent, rest)) : rest.length ≤ t.length := by
  unfold takeExponent at h
  split at h
  · split_ifs at h with he
    · split at h
      · have := length_of_map_takeDigits (f := fun digits => some (true, digits)) h
        simp only [List.length_cons]
        omega
      all_goals
        have := length_of_map_takeDigits (f := fun digits => some (false, digits)) h
        simp only [List.length_cons]
        omega
    · cases h
      exact le_refl _
  · cases h
    exact le_refl _

/-- The sign of a number, if it has one, and the rest. -/
def takeSign : Text → Bool × Text
  | '-' :: t => (true, t)
  | t => (false, t)

/-- A number is scanned sign, digits, fraction and exponent in turn. -/
theorem scanNumber_eq (t : Text) :
    scanNumber t = do
      let (whole, t') ← takeDigits (takeSign t).2
      if whole.head? = some '0' ∧ whole.length ≠ 1 then .error (.invalidNumber, .invalidNumber)
      let (fraction, t') ← takeFraction t'
      let (exponent, t') ← takeExponent t'
      return (⟨(takeSign t).1, whole, fraction, exponent⟩, t') := rfl

theorem length_of_scanNumber {t rest : Text} {d : Decimal} (h : scanNumber t = .ok (d, rest)) :
    rest.length < t.length := by
  have hsign : (takeSign t).2.length ≤ t.length := by
    unfold takeSign
    split
    · exact Nat.le_succ _
    · exact le_refl _
  simp only [scanNumber_eq, bind, Except.bind, pure, Except.pure] at h
  cases hdigits : takeDigits (takeSign t).2 with
  | error e => simp [hdigits] at h
  | ok whole =>
      have := length_of_takeDigits hdigits
      simp only [hdigits] at h
      split_ifs at h
      cases hfraction : takeFraction whole.2 with
      | error e => simp [hfraction] at h
      | ok fraction =>
          have := length_of_takeFraction hfraction
          simp only [hfraction] at h
          cases hexponent : takeExponent fraction.2 with
          | error e => simp [hexponent] at h
          | ok exponent =>
              have := length_of_takeExponent hexponent
              simp only [hexponent, Except.ok.injEq, Prod.mk.injEq] at h
              obtain ⟨-, rfl⟩ := h
              omega

theorem length_of_cutWord {letters t rest : Text} {value : Json} {k : Token}
    (h : cutWord letters value t = .token k rest) : rest.length ≤ t.length := by
  unfold cutWord at h
  split at h
  · cases h
    exact length_of_afterLetters ‹_›
  · cases h

/-- **A token leaves less** than it was cut from. -/
theorem length_of_cut {c : Char} {t rest : Text} {k : Token} (h : cut c t = .token k rest) :
    rest.length ≤ t.length := by
  unfold cut at h
  split at h
  case h_7 =>
    -- a string
    split at h
    · cases h
      exact Nat.le_of_lt (length_of_afterString ‹_›)
    · cases h
  case h_8 | h_9 | h_10 => exact length_of_cutWord h
  case h_11 =>
    -- a number
    split_ifs at h
    split at h
    · cases h
      exact Nat.le_of_lt_succ (length_of_scanNumber ‹_›)
    · cases h
  all_goals
    cases h
    exact le_refl _

/-! ## Tokens one after the other -/

theorem tokensWithin_congr {n m : ℕ} {t : Text} (hn : t.length ≤ n) (hm : t.length ≤ m) :
    tokensWithin n t = tokensWithin m t := by
  induction n generalizing t m with
  | zero =>
      obtain rfl := List.length_eq_zero_iff.mp (Nat.le_zero.mp hn)
      cases m <;> rfl
  | succ n ih =>
      match t, m with
      | [], m => cases m <;> rfl
      | c :: t, m + 1 =>
          have hn' : t.length ≤ n := Nat.le_of_succ_le_succ hn
          have hm' : t.length ≤ m := Nat.le_of_succ_le_succ hm
          simp only [tokensWithin]
          split_ifs with hgap
          · exact ih hn' hm'
          · cases hcut : cut c t with
            | last k => rfl
            | token k rest =>
                have hrest := length_of_cut hcut
                simp only [ih (le_trans hrest hn') (le_trans hrest hm')]

/-- **The tokens of a text** are its first token and those of what this leaves: the steps never
run out. -/
theorem tokens_cons (c : Char) (t : Text) :
    tokens (c :: t)
      = if isGap c then tokens t
        else match cut c t with
          | .token k rest => k :: tokens rest
          | .last k => [k] := by
  rw [tokens, List.length_cons, tokensWithin]
  split_ifs with hgap
  · rfl
  · cases hcut : cut c t with
    | last k => rfl
    | token k rest => simp only [tokens, tokensWithin_congr (length_of_cut hcut) (le_refl _)]

theorem tokens_of_cut {c : Char} {t rest : Text} {k : Token} (hgap : isGap c = false)
    (h : cut c t = .token k rest) : tokens (c :: t) = k :: tokens rest := by
  rw [tokens_cons, hgap, h]
  rfl

/-! ## Strings -/

/-- What stands for a character between quotation marks: wherever it comes, it is read as this
character, and passed over when the string is. -/
structure StandsFor (c : Char) (t : Text) : Prop where
  read : ∀ rest, readString none (t ++ rest) = (readString none rest).map (c :: ·)
  passed : ∀ rest, afterString (t ++ rest) = afterString rest

/-- A character that is no mark and no control character stands for itself. -/
theorem standsFor_self {c : Char} (hquote : c ≠ '"') (hescape : c ≠ '\\') (hc : ¬ c < ' ') :
    StandsFor c [c] where
  read rest := by
    simp [readString, hescape, hc]
  passed rest := by
    simp [afterString, hescape, hc]

/-- No letter of an escape begins one by number. -/
theorem ne_of_simpleEscape? {c e : Char} (h : simpleEscape? e = some c) : e ≠ 'u' := by
  rintro rfl
  cases h

/-- An escape by letter stands for its character. -/
theorem standsFor_letter {c e : Char} (h : simpleEscape? e = some c) :
    StandsFor c ['\\', e] where
  read rest := by
    simp [readString, ne_of_simpleEscape? h, h]
  passed rest := by
    simp [afterString, ne_of_simpleEscape? h, h]

/-- An escape by number stands for its character, unless the number is half of a pair. -/
theorem standsFor_number {a b c d : Char} {n : ℕ} (h : hexQuad? a b c d = some n)
    (hleading : isLeading n = false) (htrailing : isTrailing n = false) :
    StandsFor (Char.ofNat n) ['\\', 'u', a, b, c, d] where
  read rest := by
    simp [readString, h, hleading, htrailing]
  passed rest := by
    simp [afterString, h]

/-- No number is both halves of a pair. -/
theorem not_isTrailing {n : ℕ} (h : isLeading n = true) : isTrailing n = false := by
  simp only [isLeading, Bool.and_eq_true, decide_eq_true_eq] at h
  simp only [isTrailing, Bool.and_eq_false_iff, decide_eq_false_iff_not]
  omega

/-- Two escapes by number that are the halves of a pair stand for one character. -/
theorem standsFor_pair {a b c d a' b' c' d' : Char} {high low : ℕ}
    (hhigh : hexQuad? a b c d = some high) (hlow : hexQuad? a' b' c' d' = some low)
    (hleading : isLeading high = true) (htrailing : isTrailing low = true) :
    StandsFor (Char.ofNat (0x10000 + 1024 * (high - 0xd800) + (low - 0xdc00)))
      ['\\', 'u', a, b, c, d, '\\', 'u', a', b', c', d'] where
  read rest := by
    simp [readString, hhigh, hlow, hleading, not_isTrailing hleading, htrailing]
  passed rest := by
    simp [afterString, hhigh, hlow]

/-- The text between two quotation marks is read as the characters for which its pieces stand. -/
theorem readString_flatten {t : Text} {pieces : List Text} (h : List.Forall₂ StandsFor t pieces)
    (rest : Text) : readString none (pieces.flatten ++ '"' :: rest) = .ok t := by
  induction h with
  | nil => rfl
  | cons hc _ ih =>
      rw [List.flatten_cons, List.append_assoc, hc.read, ih]
      rfl

theorem afterString_flatten {pieces : List Text}
    (h : ∀ piece ∈ pieces, ∀ rest, afterString (piece ++ rest) = afterString rest) (rest : Text) :
    afterString (pieces.flatten ++ '"' :: rest) = .ok rest := by
  induction pieces with
  | nil => rfl
  | cons piece pieces ih =>
      obtain ⟨hpiece, hpieces⟩ := List.forall_mem_cons.mp h
      rw [List.flatten_cons, List.append_assoc, hpiece, ih hpieces]

/-- A string with an end is cut off up to there, whatever is read of it. -/
theorem tokens_quoted {pieces : List Text}
    (h : ∀ piece ∈ pieces, ∀ rest, afterString (piece ++ rest) = afterString rest) (rest : Text) :
    tokens ('"' :: (pieces.flatten ++ '"' :: rest))
      = .string (readString none (pieces.flatten ++ '"' :: rest)) none :: tokens rest := by
  refine tokens_of_cut rfl ?_
  simp only [cut, afterString_flatten h]

/-- **A string** is cut off as the text for which its pieces stand. -/
theorem tokens_string {t : Text} {pieces : List Text} (h : List.Forall₂ StandsFor t pieces)
    (rest : Text) :
    tokens ('"' :: (pieces.flatten ++ '"' :: rest)) = .string (.ok t) none :: tokens rest := by
  have hpassed : ∀ piece ∈ pieces, ∀ rest, afterString (piece ++ rest) = afterString rest := by
    clear rest
    induction h with
    | nil => exact nofun
    | cons hc _ ih => exact List.forall_mem_cons.mpr ⟨hc.passed, ih⟩
  rw [tokens_quoted hpassed, readString_flatten h]

/-! ## Numbers -/

/-- Nothing that would go on with a number. -/
def Ends (t : Text) : Prop :=
  ∀ c ∈ t.head?, Text.isDigit c = false ∧ c ≠ '.' ∧ c ≠ 'e' ∧ c ≠ 'E'

theorem ends_nil : Ends [] := nofun

theorem ends_cons {c : Char} (h : Text.isDigit c = false ∧ c ≠ '.' ∧ c ≠ 'e' ∧ c ≠ 'E')
    (t : Text) : Ends (c :: t) := by
  intro d hd
  cases hd
  exact h

theorem takeDigits_append {digits rest : Text} (hne : digits ≠ [])
    (hdigits : ∀ c ∈ digits, Text.isDigit c = true)
    (hrest : ∀ c ∈ rest.head?, Text.isDigit c = false) :
    takeDigits (digits ++ rest) = .ok (digits, rest) := by
  have hstop : rest.takeWhile Text.isDigit = [] ∧ rest.dropWhile Text.isDigit = rest := by
    cases rest with
    | nil => exact ⟨rfl, rfl⟩
    | cons c rest =>
        have hc := hrest c rfl
        simp [hc]
  have hspan : (digits ++ rest).span Text.isDigit = (digits, rest) := by
    rw [List.span_eq_takeWhile_dropWhile, List.takeWhile_append_of_pos hdigits,
      List.dropWhile_append_of_pos hdigits, hstop.1, hstop.2, List.append_nil]
  unfold takeDigits
  rw [hspan]
  obtain ⟨c, digits, rfl⟩ := List.exists_cons_of_ne_nil hne
  rfl

theorem takeFraction_of_no_point {t : Text} (h : ∀ c ∈ t.head?, c ≠ '.') :
    takeFraction t = .ok (none, t) := by
  unfold takeFraction
  split
  · exact absurd rfl (h '.' rfl)
  · rfl

theorem takeExponent_of_ends {t : Text} (h : Ends t) : takeExponent t = .ok (none, t) := by
  unfold takeExponent
  split
  · rw [if_neg]
    rintro (rfl | rfl)
    · exact (h 'e' rfl).2.2.1 rfl
    · exact (h 'E' rfl).2.2.2 rfl
  · rfl

/-- A written number has the sign of the number and the numeral of its size. -/
theorem takeSign_writeInt (n : ℤ) (rest : Text) :
    takeSign (writeInt n ++ rest) = (decide (n < 0), Text.decimal n.natAbs ++ rest) := by
  unfold writeInt
  split_ifs with hn
  · simp [takeSign, hn]
  · -- a numeral does not begin with a sign
    obtain ⟨c, digits, hdecimal, hdigit⟩ := Text.decimal_eq_cons n.natAbs
    have hc : c ≠ '-' := by
      rintro rfl
      exact absurd hdigit (by decide)
    simp [hdecimal, takeSign, hc, hn]

theorem scanNumber_writeInt (n : ℤ) {rest : Text} (h : Ends rest) :
    scanNumber (writeInt n ++ rest)
      = .ok (⟨decide (n < 0), Text.decimal n.natAbs, none, none⟩, rest) := by
  have hdigits := takeDigits_append (Text.decimal_ne_nil n.natAbs)
    (fun c => Text.isDigit_of_mem_decimal) fun c hc => (h c hc).1
  have hfraction := takeFraction_of_no_point fun c hc => (h c hc).2.1
  -- a zero at the start of a numeral is all of it
  have hzero : ¬ ((Text.decimal n.natAbs).head? = some '0' ∧
      (Text.decimal n.natAbs).length ≠ 1) := by
    rintro ⟨hhead, hlength⟩
    obtain ⟨digits, hdecimal⟩ := List.head?_eq_some_iff.mp hhead
    rw [hdecimal, Text.decimal_eq_zero hdecimal] at hlength
    exact hlength rfl
  simp only [scanNumber_eq, takeSign_writeInt, hdigits, hfraction, takeExponent_of_ends h, bind,
    Except.bind, pure, Except.pure, if_neg hzero]

/-- Digits that are a number of one word all fit. -/
theorem absorbDigits_eq {digits : Text} {significand : ℕ} (count : ℕ)
    (h : Nat.ofDigitChars 10 digits significand < UInt64.size) :
    absorbDigits significand count digits
      = (Nat.ofDigitChars 10 digits significand, count + digits.length) := by
  induction digits generalizing significand count with
  | nil => simp [absorbDigits, Nat.ofDigitChars]
  | cons c digits ih =>
      rw [Nat.ofDigitChars_cons] at h ⊢
      have hnext := Nat.lt_of_le_of_lt (Text.le_ofDigitChars digits _) h
      rw [absorbDigits]
      simp only [if_pos hnext, ih (count + 1) h, List.length_cons, Prod.mk.injEq, true_and]
      omega

/-- The whole numbers that are kept exactly. -/
def Fits (n : ℤ) : Prop := -0x8000000000000000 ≤ n ∧ n < 0x10000000000000000

theorem value_whole {n : ℤ} (h : Fits n) :
    Decimal.value ⟨decide (n < 0), Text.decimal n.natAbs, none, none⟩ = .ok (.int n) := by
  obtain ⟨hlow, hhigh⟩ := h
  have hlt : n.natAbs < UInt64.size := by
    rw [UInt64.size]
    omega
  have hnumber : Nat.ofDigitChars 10 (Text.decimal n.natAbs) 0 = n.natAbs :=
    Text.valueOf_decimal n.natAbs
  have habsorb := absorbDigits_eq 0 (hnumber.symm ▸ hlt)
  rw [hnumber, Nat.zero_add] at habsorb
  simp only [Decimal.value, habsorb, Nat.sub_self, ne_eq, not_true_eq_false, if_false]
  by_cases hn : n < 0
  · have hsigned : 0 < n.natAbs ∧ n.natAbs ≤ signedBound := by
      rw [signedBound]
      omega
    have hvalue : -(n.natAbs : ℤ) = n := by omega
    simp only [hn, decide_true, not_true_eq_false, if_false, if_pos hsigned, hvalue]
    rfl
  · have hvalue : (n.natAbs : ℤ) = n := by omega
    simp only [hn, decide_false, Bool.false_eq_true, not_false_eq_true, if_true, hvalue]
    rfl

theorem cut_number {c : Char} (t : Text) (h : c = '-' ∨ Text.isDigit c = true) :
    cut c t = match scanNumber (c :: t) with
      | .ok (d, rest) => .token (.scalar d.value) rest
      | .error (wanted, passed) => .last (.broken wanted passed) := by
  unfold cut
  split
  case h_11 => exact if_pos h
  all_goals exact absurd h (by decide)

theorem isGap_number {c : Char} (h : c = '-' ∨ Text.isDigit c = true) : isGap c = false := by
  by_contra hgap
  simp only [isGap, Bool.not_eq_false, Bool.or_eq_true, decide_eq_true_eq] at hgap
  rcases hgap with ((rfl | rfl) | rfl) | rfl
  all_goals exact absurd h (by decide)

theorem writeInt_eq_cons (n : ℤ) :
    ∃ c t, writeInt n = c :: t ∧ (c = '-' ∨ Text.isDigit c = true) := by
  unfold writeInt
  split_ifs
  · exact ⟨_, _, rfl, .inl rfl⟩
  · obtain ⟨c, digits, hdecimal, hdigit⟩ := Text.decimal_eq_cons n.natAbs
    exact ⟨c, digits, hdecimal, .inr hdigit⟩

/-- **A written whole number** is cut off as this number. -/
theorem tokens_writeInt {n : ℤ} (h : Fits n) {rest : Text} (hrest : Ends rest) :
    tokens (writeInt n ++ rest) = .scalar (.ok (.int n)) :: tokens rest := by
  have hscan := scanNumber_writeInt n hrest
  obtain ⟨c, t, hwrite, hc⟩ := writeInt_eq_cons n
  rw [hwrite, List.cons_append] at hscan ⊢
  refine tokens_of_cut (isGap_number hc) ?_
  rw [cut_number _ hc, hscan]
  simp only [value_whole h]

/-! ## Words -/

theorem afterLetters_append (letters rest : Text) :
    afterLetters letters (letters ++ rest) = .ok rest := by
  induction letters with
  | nil => rfl
  | cons l letters ih => rw [List.cons_append, afterLetters, if_pos rfl, ih]

/-- **A written word** is cut off as its value. -/
theorem tokens_word {c : Char} {letters : Text} {value : Json} (hgap : isGap c = false)
    (hcut : ∀ t, cut c t = cutWord letters value t) (rest : Text) :
    tokens (c :: (letters ++ rest)) = .scalar (.ok value) :: tokens rest := by
  refine tokens_of_cut hgap ?_
  rw [hcut, cutWord, afterLetters_append]

end DepositTrail.Json
