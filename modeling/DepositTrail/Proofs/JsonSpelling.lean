import DepositTrail.Proofs.NumeralGrammar
import DepositTrail.Proofs.JsonTokens

set_option autoImplicit false

/-! # Strings and numbers of JSON as they may be written

A string may be written in many ways: most characters stand for themselves, eight of them have an
escape of one letter, and each has an escape by its number, in digits of either case; a number
beyond four digits is written as a pair of halves (`Json.IsCharOf`). Whatever is chosen for each of
its characters, the string is cut off as the same token (`Json.tokens_of_isStringOf`).

Some strings of JSON's grammar are no text, since they have a half without the other, and some of
its numbers cannot be kept. These too have an end (`Json.IsString`, `Json.IsNumber`), so each is
cut off as one token, which may hold a problem in the place of a value.
-/

namespace DepositTrail.Json

/-! ## Characters -/

/-- The letters of the short escapes, each with the character that it stands for. -/
def letters : List (Char × Char) :=
  [('"', '"'), ('\\', '\\'), ('/', '/'), ('b', '\x08'), ('f', '\x0c'), ('n', '\x0a'),
    ('r', '\x0d'), ('t', '\x09')]

/-- Four hexadecimal digits of either case, and their number. -/
def IsQuad (n : ℕ) (digits : Text) : Prop := digits.length = 4 ∧ Text.AreDigitsOf 16 digits n

/-- What may be written for a character. -/
inductive IsCharOf (c : Char) : Text → Prop
  | self (hquote : c ≠ '"') (hescape : c ≠ '\\') (hcontrol : ' ' ≤ c) : IsCharOf c [c]
  | letter {e : Char} (h : (e, c) ∈ letters) : IsCharOf c ['\\', e]
  | number {digits : Text} (h : IsQuad c.toNat digits) : IsCharOf c ('\\' :: 'u' :: digits)
  | pair {high low : Text} (hlarge : 0x10000 ≤ c.toNat)
      (hhigh : IsQuad (0xd800 + (c.toNat - 0x10000) / 0x400) high)
      (hlow : IsQuad (0xdc00 + (c.toNat - 0x10000) % 0x400) low) :
      IsCharOf c ('\\' :: 'u' :: (high ++ '\\' :: 'u' :: low))

/-- What may be written between quotation marks as one character or one half of a pair. -/
inductive IsChar : Text → Prop
  | self {c : Char} (hquote : c ≠ '"') (hescape : c ≠ '\\') (hcontrol : ' ' ≤ c) : IsChar [c]
  | letter {e c : Char} (h : (e, c) ∈ letters) : IsChar ['\\', e]
  | number {n : ℕ} {digits : Text} (h : IsQuad n digits) : IsChar ('\\' :: 'u' :: digits)

theorem simpleEscape?_of_mem {e c : Char} (h : (e, c) ∈ letters) : simpleEscape? e = some c := by
  have hall : ∀ p ∈ letters, simpleEscape? p.1 = some p.2 := by decide
  exact hall (e, c) h

theorem isQuad_of_digits {n a b c d : ℕ} {digits : Text}
    (h : List.Forall₂ (Text.IsDigitOf 16) digits [a, b, c, d])
    (hn : 4096 * a + 256 * b + 16 * c + d = n) : IsQuad n digits := by
  refine ⟨h.length_eq, _, h, ?_⟩
  rw [Text.ofDigits_reverse]
  simp only [List.foldl_cons, List.foldl_nil]
  omega

theorem IsQuad.hexQuad? {n : ℕ} {digits : Text} (h : IsQuad n digits) :
    ∃ a b c d, digits = [a, b, c, d] ∧ hexQuad? a b c d = some n := by
  obtain ⟨hlength, values, hall, hn⟩ := h
  obtain ⟨a, b, c, d, rfl⟩ := List.length_eq_four.mp hlength
  have hvalue : ∀ {e : Char} {v : ℕ}, Text.IsDigitOf 16 e v → Text.hexValue? e = some v :=
    Hex.hexValue?_eq_some_iff.mpr
  match values, hall with
  | [va, vb, vc, vd], .cons ha (.cons hb (.cons hc (.cons hd .nil))) =>
      have hsum : 4096 * va + 256 * vb + 16 * vc + vd = n := by
        rw [← hn, Text.ofDigits_reverse]
        simp only [List.foldl_cons, List.foldl_nil]
        omega
      refine ⟨a, b, c, d, rfl, ?_⟩
      simp [Json.hexQuad?, hvalue ha, hvalue hb, hvalue hc, hvalue hd, hsum]

/-- What may be written for a character stands for it. -/
theorem IsCharOf.standsFor {c : Char} {t : Text} (h : IsCharOf c t) : StandsFor c t := by
  cases h with
  | self hquote hescape hcontrol => exact standsFor_self hquote hescape (not_lt.mpr hcontrol)
  | letter h => exact standsFor_letter (simpleEscape?_of_mem h)
  | pair hlarge hhigh hlow =>
      obtain ⟨a, b, d, e, rfl, hfirst⟩ := hhigh.hexQuad?
      obtain ⟨a', b', d', e', rfl, hsecond⟩ := hlow.hexQuad?
      have hlt : c.toNat < 0x110000 := by
        rcases c.valid with h | h
        · exact lt_trans h (by decide)
        · exact h.2
      have hstands := standsFor_pair hfirst hsecond
        (by simp only [isLeading, Bool.and_eq_true, decide_eq_true_eq]; omega)
        (by simp only [isTrailing, Bool.and_eq_true, decide_eq_true_eq]; omega)
      -- the halves hold the number of the character above U+FFFF, ten bits each
      have hvalue : 0x10000 + 1024 * (0xd800 + (c.toNat - 0x10000) / 0x400 - 0xd800)
          + (0xdc00 + (c.toNat - 0x10000) % 0x400 - 0xdc00) = c.toNat := by
        omega
      rwa [hvalue, Char.ofNat_toNat] at hstands
  | number h =>
      obtain ⟨a, b, d, e, rfl, hquad⟩ := h.hexQuad?
      -- no character has the number of a half of a pair
      have hvalid : c.toNat < 0xd800 ∨ 0xdfff < c.toNat ∧ c.toNat < 0x110000 := c.valid
      have hleading : isLeading c.toNat = false := by
        simp only [isLeading, Bool.and_eq_false_iff, decide_eq_false_iff_not]
        omega
      have htrailing : isTrailing c.toNat = false := by
        simp only [isTrailing, Bool.and_eq_false_iff, decide_eq_false_iff_not]
        omega
      have hstands := standsFor_number hquad hleading htrailing
      rwa [Char.ofNat_toNat] at hstands

/-- What is written for a character is one of the things that may be. -/
theorem isCharOf_writeChar (c : Char) : IsCharOf c (writeChar c) := by
  unfold writeChar
  split_ifs with hquote hescape hb ht hn hf hr hcontrol
  rotate_left 7
  · -- the number of a control character has two digits
    have hdigits : ∀ n < 0x20, (escapeDigit (n / 16)).toLower = Nat.digitChar (n / 16) ∧
        (escapeDigit n).toLower = Nat.digitChar (n % 16) := by decide
    obtain ⟨hhigh, hlow⟩ := hdigits c.toNat hcontrol
    have hlt : c.toNat < 0x20 := hcontrol
    have hzero : Text.IsDigitOf 16 '0' 0 := ⟨by decide, by decide⟩
    exact .number (isQuad_of_digits
      (.cons hzero (.cons hzero (.cons ⟨by omega, hhigh⟩ (.cons ⟨by omega, hlow⟩ .nil))))
      (by omega))
  · exact .self hquote hescape (not_lt.mp hcontrol)
  all_goals
    subst_vars
    exact .letter (by decide)

/-- What may be written for a character is one or two of the pieces of a string. -/
theorem IsCharOf.pieces {c : Char} {t : Text} (h : IsCharOf c t) :
    ∃ pieces : List Text, (∀ piece ∈ pieces, IsChar piece) ∧ t = pieces.flatten := by
  cases h with
  | self hquote hescape hcontrol =>
      exact ⟨[_], List.forall_mem_singleton.mpr (.self hquote hescape hcontrol), by simp⟩
  | letter h => exact ⟨[_], List.forall_mem_singleton.mpr (.letter h), by simp⟩
  | number h => exact ⟨[_], List.forall_mem_singleton.mpr (.number h), by simp⟩
  | @pair high low _ hhigh hlow =>
      refine ⟨['\\' :: 'u' :: high, '\\' :: 'u' :: low], ?_, by simp⟩
      exact List.forall_mem_cons.mpr ⟨.number hhigh, List.forall_mem_singleton.mpr (.number hlow)⟩

/-- A piece of a string is passed over. -/
theorem IsChar.passed {t : Text} (h : IsChar t) (rest : Text) :
    afterString (t ++ rest) = afterString rest := by
  cases h with
  | self hquote hescape hcontrol =>
      exact (standsFor_self hquote hescape (not_lt.mpr hcontrol)).passed rest
  | letter h => exact (standsFor_letter (simpleEscape?_of_mem h)).passed rest
  | number h =>
      obtain ⟨a, b, c, d, rfl, hquad⟩ := h.hexQuad?
      simp [afterString, hquad]

/-! ## Strings -/

/-- What may be written for a text: its characters between quotation marks. -/
def IsStringOf (s t : Text) : Prop :=
  ∃ pieces : List Text, List.Forall₂ IsCharOf s pieces ∧ t = '"' :: (pieces.flatten ++ ['"'])

/-- A string of JSON's grammar, which may have a half of a pair without the other one. -/
def IsString (t : Text) : Prop :=
  ∃ pieces : List Text, (∀ piece ∈ pieces, IsChar piece) ∧ t = '"' :: (pieces.flatten ++ ['"'])

theorem IsStringOf.isString {s t : Text} (h : IsStringOf s t) : IsString t := by
  obtain ⟨pieces, hall, rfl⟩ := h
  suffices h : ∃ pieces' : List Text, (∀ piece ∈ pieces', IsChar piece) ∧
      pieces.flatten = pieces'.flatten by
    obtain ⟨pieces', hpieces, hflatten⟩ := h
    exact ⟨pieces', hpieces, by rw [hflatten]⟩
  induction hall with
  | nil => exact ⟨[], nofun, rfl⟩
  | cons hc _ ih =>
      obtain ⟨first, hfirst, rfl⟩ := hc.pieces
      obtain ⟨rest, hrest, hflatten⟩ := ih
      refine ⟨first ++ rest, List.forall_mem_append.mpr ⟨hfirst, hrest⟩, ?_⟩
      rw [List.flatten_cons, hflatten, List.flatten_append]

theorem forall₂_writeChar (t : Text) : List.Forall₂ IsCharOf t (t.map writeChar) := by
  rw [List.forall₂_map_right_iff, List.forall₂_same]
  exact fun c _ => isCharOf_writeChar c

/-- What is written for a text is one of the things that may be. -/
theorem isStringOf_writeText (t : Text) : IsStringOf t (writeText t) :=
  ⟨t.map writeChar, forall₂_writeChar t, by rw [writeText, List.flatMap_def]⟩

/-- **What may be written for a text** is cut off as this text. -/
theorem tokens_of_isStringOf {s t : Text} (h : IsStringOf s t) (rest : Text) :
    tokens (t ++ rest) = .string (.ok s) none :: tokens rest := by
  obtain ⟨pieces, hall, rfl⟩ := h
  have hstands : List.Forall₂ StandsFor s pieces := hall.imp fun _ _ => IsCharOf.standsFor
  rw [List.cons_append, List.append_assoc]
  exact tokens_string hstands rest

/-- A string is cut off as one token. -/
theorem tokens_of_isString {t : Text} (h : IsString t) (rest : Text) :
    ∃ r, tokens (t ++ rest) = .string r none :: tokens rest := by
  obtain ⟨pieces, hall, rfl⟩ := h
  rw [List.cons_append, List.append_assoc]
  exact ⟨_, tokens_quoted (fun piece hpiece => (hall piece hpiece).passed) rest⟩

/-! ## Numbers -/

/-- At least one digit, and nothing else. -/
def IsDigits (t : Text) : Prop := t ≠ [] ∧ ∀ c ∈ t, '0' ≤ c ∧ c ≤ '9'

/-- Nothing, or digits behind a point. -/
def IsFraction (t : Text) : Prop := t = [] ∨ ∃ digits, IsDigits digits ∧ t = '.' :: digits

/-- Nothing, or digits behind the letter E, in either case and with a sign or without. -/
def IsExponent (t : Text) : Prop :=
  t = [] ∨ ∃ e sign digits, (e = 'e' ∨ e = 'E') ∧ (sign = [] ∨ sign = ['+'] ∨ sign = ['-']) ∧
    IsDigits digits ∧ t = e :: (sign ++ digits)

/-- A number of JSON's grammar. Only zero itself begins with a zero. -/
def IsNumber (t : Text) : Prop :=
  ∃ sign whole fraction exponent, (sign = [] ∨ sign = ['-']) ∧ IsDigits whole ∧
    (whole.head? = some '0' → whole = ['0']) ∧ IsFraction fraction ∧ IsExponent exponent ∧
    t = sign ++ (whole ++ (fraction ++ exponent))

theorem IsDigits.isDigit {t : Text} (h : IsDigits t) : ∀ c ∈ t, Text.isDigit c = true :=
  fun c hc => Text.isDigit_iff.mpr (h.2 c hc)

theorem takeExponent_append {t rest : Text} (h : IsExponent t) (hrest : Ends rest) :
    ∃ exponent, takeExponent (t ++ rest) = .ok (exponent, rest) := by
  rcases h with rfl | ⟨e, sign, digits, he, hsign, hall, rfl⟩
  · exact ⟨none, takeExponent_of_ends hrest⟩
  · have hdigits := takeDigits_append hall.1 hall.isDigit fun c hc => (hrest c hc).1
    rcases hsign with rfl | rfl | rfl
    · -- a digit is no sign
      obtain ⟨c, digits, rfl⟩ := List.exists_cons_of_ne_nil hall.1
      have hc := hall.isDigit c List.mem_cons_self
      have hminus : c ≠ '-' := Text.ne_of_isDigit hc (by decide)
      have hplus : c ≠ '+' := Text.ne_of_isDigit hc (by decide)
      rw [List.cons_append] at hdigits
      simp [takeExponent, he, hminus, hplus, hdigits, Except.map]
    · simp only [List.cons_append, takeExponent, if_pos he, List.nil_append, hdigits]
      exact ⟨_, rfl⟩
    · simp only [List.cons_append, takeExponent, if_pos he, List.nil_append, hdigits]
      exact ⟨_, rfl⟩

/-- Neither a digit nor a point comes before or in the place of an exponent. -/
theorem IsExponent.head {t rest : Text} (h : IsExponent t) (hrest : Ends rest) :
    ∀ c ∈ (t ++ rest).head?, Text.isDigit c = false ∧ c ≠ '.' := by
  rcases h with rfl | ⟨e, sign, digits, he, -, -, rfl⟩
  · exact fun c hc => ⟨(hrest c hc).1, (hrest c hc).2.1⟩
  · intro c hc
    obtain rfl : e = c := by simpa using hc
    rcases he with rfl | rfl <;> decide

theorem takeFraction_append {t rest : Text} (h : IsFraction t)
    (hrest : ∀ c ∈ rest.head?, Text.isDigit c = false ∧ c ≠ '.') :
    ∃ fraction, takeFraction (t ++ rest) = .ok (fraction, rest) := by
  rcases h with rfl | ⟨digits, hall, rfl⟩
  · exact ⟨none, takeFraction_of_no_point fun c hc => (hrest c hc).2⟩
  · have hdigits := takeDigits_append hall.1 hall.isDigit fun c hc => (hrest c hc).1
    simp only [List.cons_append, takeFraction, hdigits]
    exact ⟨_, rfl⟩

theorem IsFraction.head {t rest : Text} (h : IsFraction t)
    (hrest : ∀ c ∈ rest.head?, Text.isDigit c = false ∧ c ≠ '.') :
    ∀ c ∈ (t ++ rest).head?, Text.isDigit c = false := by
  rcases h with rfl | ⟨digits, -, rfl⟩
  · exact fun c hc => (hrest c hc).1
  · intro c hc
    obtain rfl : '.' = c := by simpa using hc
    decide

theorem takeSign_append {sign t : Text} (hsign : sign = [] ∨ sign = ['-'])
    (ht : ∀ c ∈ t.head?, c ≠ '-') : ∃ negative, takeSign (sign ++ t) = (negative, t) := by
  rcases hsign with rfl | rfl
  · refine ⟨false, ?_⟩
    rw [List.nil_append]
    unfold takeSign
    split
    · exact absurd rfl (ht '-' rfl)
    · rfl
  · exact ⟨true, rfl⟩

/-- **A number is scanned to its end**, if nothing follows that would go on with it. -/
theorem scanNumber_append {t rest : Text} (h : IsNumber t) (hrest : Ends rest) :
    ∃ d, scanNumber (t ++ rest) = .ok (d, rest) := by
  obtain ⟨sign, whole, fraction, exponent, hsign, hwhole, hzero, hfraction, hexponent, rfl⟩ := h
  have hback := hexponent.head hrest
  obtain ⟨exponent', htakeExponent⟩ := takeExponent_append hexponent hrest
  obtain ⟨fraction', htakeFraction⟩ := takeFraction_append hfraction hback
  have htakeDigits := takeDigits_append hwhole.1 hwhole.isDigit (hfraction.head hback)
  obtain ⟨negative, htakeSign⟩ := takeSign_append hsign
    (t := whole ++ (fraction ++ (exponent ++ rest))) (by
      obtain ⟨c, digits, rfl⟩ := List.exists_cons_of_ne_nil hwhole.1
      intro d hd
      obtain rfl : c = d := by simpa using hd
      exact Text.ne_of_isDigit (hwhole.isDigit c List.mem_cons_self) (by decide))
  have hlone : ¬ (whole.head? = some '0' ∧ whole.length ≠ 1) := by
    rintro ⟨hhead, hlength⟩
    rw [hzero hhead] at hlength
    exact hlength rfl
  simp only [List.append_assoc, scanNumber_eq, htakeSign, htakeDigits, if_neg hlone, htakeFraction,
    htakeExponent, bind, Except.bind, pure, Except.pure]
  exact ⟨_, rfl⟩

/-- **A number** is cut off as one token, if nothing follows that would go on with it. -/
theorem tokens_of_isNumber {t rest : Text} (h : IsNumber t) (hrest : Ends rest) :
    ∃ r, tokens (t ++ rest) = .scalar r :: tokens rest := by
  obtain ⟨d, hscan⟩ := scanNumber_append h hrest
  obtain ⟨sign, whole, fraction, exponent, hsign, hwhole, -, -, -, rfl⟩ := h
  obtain ⟨digit, digits, rfl⟩ := List.exists_cons_of_ne_nil hwhole.1
  have hdigit := hwhole.isDigit digit List.mem_cons_self
  refine ⟨d.value, ?_⟩
  rcases hsign with rfl | rfl
  all_goals
    simp only [List.nil_append, List.cons_append] at hscan ⊢
    refine tokens_of_cut (isGap_number ?_) ?_
    · simp [hdigit]
    · rw [cut_number _ (by simp [hdigit]), hscan]

end DepositTrail.Json
