import DepositTrail.Deposit
import DepositTrail.Proofs.HexDigits
import Mathlib.Tactic.Linarith
import Mathlib.Tactic.Ring

set_option autoImplicit false

/-! # Data in which strings are found

Data of a contract are read through numbers that stand in it, and anybody can have written them.
What they may be for a string to be found is said by `Abi.Refers`, on numbers without bounds: the
word in the head lies in the data and says a place, the word at this place lies in the data and
says a length, and so many bytes after it lie in the data. Places and lengths have less than 64
bits. Nothing is asked of the order of the places, of their distances, or of what else the bytes
are used for.

Where no string is found, the reason is the first of five things that can be wrong with it
(`Abi.Defect`). Of a row of strings, the first one that is not found decides
(`stringsFrom_eq_error_iff`).

Together with the law about digits this says of each text what comes of reading it as the data of
a deposit (`Deposit.decode_cases`).
-/

namespace DepositTrail

namespace Abi

/-! ## Numbers in big-endian bytes -/

theorem foldl_bigEndian (n : Nat) (bytes : List UInt8) :
    bytes.foldl (fun n b => 256 * n + b.toNat) n
      = n * 256 ^ bytes.length + ofBigEndian bytes := by
  unfold ofBigEndian
  induction bytes generalizing n with
  | nil => simp
  | cons b rest ih =>
      rw [List.foldl_cons, List.foldl_cons, ih, ih (256 * 0 + b.toNat), List.length_cons]
      ring

@[simp] theorem ofBigEndian_nil : ofBigEndian [] = 0 := rfl

theorem ofBigEndian_cons (b : UInt8) (rest : List UInt8) :
    ofBigEndian (b :: rest) = b.toNat * 256 ^ rest.length + ofBigEndian rest := by
  show rest.foldl (fun n b => 256 * n + b.toNat) (256 * 0 + b.toNat) = _
  rw [foldl_bigEndian, Nat.mul_zero, Nat.zero_add]

theorem ofBigEndian_append (a b : List UInt8) :
    ofBigEndian (a ++ b) = ofBigEndian a * 256 ^ b.length + ofBigEndian b := by
  show (a ++ b).foldl (fun n b => 256 * n + b.toNat) 0 = _
  rw [List.foldl_append, foldl_bigEndian]
  rfl

theorem ofBigEndian_lt (bytes : List UInt8) : ofBigEndian bytes < 256 ^ bytes.length := by
  induction bytes with
  | nil => simp
  | cons b rest ih =>
      have hb := b.toNat_lt
      rw [ofBigEndian_cons, List.length_cons, Nat.pow_succ]
      calc b.toNat * 256 ^ rest.length + ofBigEndian rest
          < b.toNat * 256 ^ rest.length + 256 ^ rest.length := Nat.add_lt_add_left ih _
        _ = (b.toNat + 1) * 256 ^ rest.length := by ring
        _ ≤ 256 * 256 ^ rest.length := Nat.mul_le_mul_right _ hb
        _ = 256 ^ rest.length * 256 := Nat.mul_comm _ _

/-- Bytes are the number zero exactly if they are all zero. -/
theorem ofBigEndian_eq_zero_iff {bytes : List UInt8} :
    ofBigEndian bytes = 0 ↔ ∀ b ∈ bytes, b = 0 := by
  induction bytes with
  | nil => simp
  | cons b rest ih =>
      have hpos : 0 < 256 ^ rest.length := Nat.pow_pos (by decide)
      rw [ofBigEndian_cons, List.forall_mem_cons, ← ih, Nat.add_eq_zero_iff, Nat.mul_eq_zero,
        or_iff_left (Nat.ne_of_gt hpos), ← UInt8.toNat_inj]
      rfl

/-- **A word has less than 64 bits** exactly if its first 24 bytes are zero, and then it is the
number of the others. -/
theorem ofBigEndian_word {word : List UInt8} (h : word.length = wordSize) :
    (ofBigEndian word < 2 ^ 64 ↔ ∀ b ∈ word.take 24, b = 0) ∧
      ((∀ b ∈ word.take 24, b = 0) → ofBigEndian word = ofBigEndian (word.drop 24)) := by
  have hlen : (word.drop 24).length = 8 := by
    rw [List.length_drop, h]
    rfl
  have hlow := ofBigEndian_lt (word.drop 24)
  have hsplit : ofBigEndian word
      = ofBigEndian (word.take 24) * 2 ^ 64 + ofBigEndian (word.drop 24) := by
    have happend := ofBigEndian_append (word.take 24) (word.drop 24)
    rw [List.take_append_drop, hlen] at happend
    exact happend
  rw [hlen] at hlow
  rw [← ofBigEndian_eq_zero_iff, hsplit]
  constructor
  · constructor
    · intro hlt
      by_contra hne
      have hone : 1 * 2 ^ 64 ≤ ofBigEndian (word.take 24) * 2 ^ 64 :=
        Nat.mul_le_mul_right _ (Nat.pos_of_ne_zero hne)
      omega
    · intro hzero
      rw [hzero, Nat.zero_mul, Nat.zero_add]
      exact hlow
  · intro hzero
    rw [hzero, Nat.zero_mul, Nat.zero_add]

/-! ## Words -/

/-- The bytes of the word at a place. -/
def wordBytes (data : List UInt8) (place : Nat) : List UInt8 := (data.drop place).take wordSize

/-- The word at a place lies in the data, and is a number. -/
structure WordAt (data : List UInt8) (place n : Nat) : Prop where
  inside : place + wordSize ≤ data.length
  value : ofBigEndian (wordBytes data place) = n

section Reading

variable {data : List UInt8} {place n : Nat} {e : Problem}

theorem length_wordBytes (h : place + wordSize ≤ data.length) :
    (wordBytes data place).length = wordSize := by
  rw [wordBytes, List.length_take, List.length_drop]
  omega

/-- What comes of reading a word as a place or a length: the number, if it has less than 64
bits. -/
theorem sizeAt_eq (data : List UInt8) (place : Nat) :
    sizeAt data place
      = if place + wordSize ≤ data.length then
          if ofBigEndian (wordBytes data place) < 2 ^ 64 then
            .ok (ofBigEndian (wordBytes data place))
          else .error (.notSize (wordBytes data place))
        else .error .overrun := by
  unfold sizeAt slice
  by_cases hinside : place + wordSize ≤ data.length
  · obtain ⟨hsmall, hvalue⟩ := ofBigEndian_word (length_wordBytes hinside)
    have hall : ((wordBytes data place).take 24).all (· = 0) = true
        ↔ ∀ b ∈ (wordBytes data place).take 24, b = 0 := by simp
    rw [if_pos hinside, if_pos hinside]
    show (if ((wordBytes data place).take 24).all (· = 0) = true then
        .ok (ofBigEndian ((wordBytes data place).drop 24))
      else .error (.notSize (wordBytes data place)) : Except Problem Nat) = _
    by_cases hzero : ∀ b ∈ (wordBytes data place).take 24, b = 0
    · rw [if_pos (hall.mpr hzero), if_pos (hsmall.mpr hzero), hvalue hzero]
    · rw [if_neg (mt hall.mp hzero), if_neg (mt hsmall.mp hzero)]
  · rw [if_neg hinside, if_neg hinside]
    rfl

theorem sizeAt_eq_ok_iff : sizeAt data place = .ok n ↔ WordAt data place n ∧ n < 2 ^ 64 := by
  rw [sizeAt_eq]
  constructor
  · intro h
    split_ifs at h with hinside hsmall
    obtain rfl := Except.ok.inj h
    exact ⟨⟨hinside, rfl⟩, hsmall⟩
  · rintro ⟨⟨hinside, rfl⟩, hsmall⟩
    rw [if_pos hinside, if_pos hsmall]

/-- A word is not read if it does not lie in the data, or has 64 bits or more. -/
theorem sizeAt_eq_error_iff :
    sizeAt data place = .error e ↔
      (data.length < place + wordSize ∧ e = .overrun) ∨
        ∃ n, WordAt data place n ∧ 2 ^ 64 ≤ n ∧ e = .notSize (wordBytes data place) := by
  rw [sizeAt_eq]
  constructor
  · intro h
    split_ifs at h with hinside hsmall
    · exact Or.inr ⟨_, ⟨hinside, rfl⟩, Nat.le_of_not_lt hsmall, (Except.error.inj h).symm⟩
    · exact Or.inl ⟨Nat.lt_of_not_le hinside, (Except.error.inj h).symm⟩
  · rintro (⟨hshort, rfl⟩ | ⟨n, ⟨hinside, rfl⟩, hlarge, rfl⟩)
    · rw [if_neg (Nat.not_le_of_lt hshort)]
    · rw [if_pos hinside, if_neg (Nat.not_lt_of_le hlarge)]

/-! ## Strings -/

/-- The word at `head` leads to a string. -/
def Refers (data : List UInt8) (head : Nat) (s : List UInt8) : Prop :=
  ∃ place length, WordAt data head place ∧ place < 2 ^ 64 ∧
    WordAt data place length ∧ length < 2 ^ 64 ∧
    place + wordSize + length ≤ data.length ∧ s = (data.drop (place + wordSize)).take length

/-- What is wrong first where the word at `head` leads to no string: the word in the head, the
word with the length, or the bytes of the string. -/
inductive Defect (data : List UInt8) (head : Nat) : Problem → Prop
  | headOutside (short : data.length < head + wordSize) : Defect data head .overrun
  | placeTooLarge {n : Nat} (word : WordAt data head n) (large : 2 ^ 64 ≤ n) :
      Defect data head (.notSize (wordBytes data head))
  | lengthOutside {place : Nat} (word : WordAt data head place) (small : place < 2 ^ 64)
      (short : data.length < place + wordSize) : Defect data head .overrun
  | lengthTooLarge {place n : Nat} (word : WordAt data head place) (small : place < 2 ^ 64)
      (length : WordAt data place n) (large : 2 ^ 64 ≤ n) :
      Defect data head (.notSize (wordBytes data place))
  | contentOutside {place n : Nat} (word : WordAt data head place) (small : place < 2 ^ 64)
      (length : WordAt data place n) (lengthSmall : n < 2 ^ 64)
      (short : data.length < place + wordSize + n) : Defect data head .overrun

variable {head : Nat} {s : List UInt8}

theorem slice_eq_ok_iff : slice data place n = .ok s ↔
    place + n ≤ data.length ∧ s = (data.drop place).take n := by
  unfold slice
  constructor
  · intro h
    split_ifs at h with hinside
    exact ⟨hinside, (Except.ok.inj h).symm⟩
  · rintro ⟨hinside, rfl⟩
    rw [if_pos hinside]

theorem slice_eq_error_iff : slice data place n = .error e ↔
    data.length < place + n ∧ e = .overrun := by
  unfold slice
  constructor
  · intro h
    split_ifs at h with hinside
    exact ⟨Nat.lt_of_not_le hinside, (Except.error.inj h).symm⟩
  · rintro ⟨hshort, rfl⟩
    rw [if_neg (Nat.not_le_of_lt hshort)]

/-- **A string is read** exactly where the word in the head leads to it. -/
theorem stringAt_eq_ok_iff : stringAt data head = .ok s ↔ Refers data head s := by
  constructor
  · intro h
    unfold stringAt at h
    cases hplace : sizeAt data head with
    | error e => simp [hplace, bind, Except.bind] at h
    | ok place =>
        cases hlength : sizeAt data place with
        | error e => simp [hplace, hlength, bind, Except.bind] at h
        | ok length =>
            simp only [hplace, hlength, bind, Except.bind] at h
            obtain ⟨hword, hsmall⟩ := sizeAt_eq_ok_iff.mp hplace
            obtain ⟨hword', hsmall'⟩ := sizeAt_eq_ok_iff.mp hlength
            obtain ⟨hinside, hs⟩ := slice_eq_ok_iff.mp h
            exact ⟨place, length, hword, hsmall, hword', hsmall', hinside, hs⟩
  · rintro ⟨place, length, hword, hsmall, hword', hsmall', hinside, hs⟩
    unfold stringAt
    rw [sizeAt_eq_ok_iff.mpr ⟨hword, hsmall⟩]
    simp only [bind, Except.bind, sizeAt_eq_ok_iff.mpr ⟨hword', hsmall'⟩]
    exact slice_eq_ok_iff.mpr ⟨hinside, hs⟩

/-- **A string is not read** because of the first thing that is wrong. -/
theorem stringAt_eq_error_iff : stringAt data head = .error e ↔ Defect data head e := by
  constructor
  · intro h
    unfold stringAt at h
    cases hplace : sizeAt data head with
    | error e' =>
        obtain rfl : e' = e := by simpa [hplace, bind, Except.bind] using h
        rcases sizeAt_eq_error_iff.mp hplace with ⟨hshort, rfl⟩ | ⟨n, hword, hlarge, rfl⟩
        · exact .headOutside hshort
        · exact .placeTooLarge hword hlarge
    | ok place =>
        obtain ⟨hword, hsmall⟩ := sizeAt_eq_ok_iff.mp hplace
        cases hlength : sizeAt data place with
        | error e' =>
            obtain rfl : e' = e := by simpa [hplace, hlength, bind, Except.bind] using h
            rcases sizeAt_eq_error_iff.mp hlength with ⟨hshort, rfl⟩ | ⟨n, hword', hlarge, rfl⟩
            · exact .lengthOutside hword hsmall hshort
            · exact .lengthTooLarge hword hsmall hword' hlarge
        | ok length =>
            obtain ⟨hword', hsmall'⟩ := sizeAt_eq_ok_iff.mp hlength
            simp only [hplace, hlength, bind, Except.bind] at h
            obtain ⟨hshort, rfl⟩ := slice_eq_error_iff.mp h
            exact .contentOutside hword hsmall hword' hsmall' hshort
  · intro h
    unfold stringAt
    cases h with
    | headOutside short =>
        rw [sizeAt_eq_error_iff.mpr (Or.inl ⟨short, rfl⟩)]
        rfl
    | placeTooLarge word large =>
        rw [sizeAt_eq_error_iff.mpr (Or.inr ⟨_, word, large, rfl⟩)]
        rfl
    | lengthOutside word small short =>
        rw [sizeAt_eq_ok_iff.mpr ⟨word, small⟩]
        simp only [bind, Except.bind, sizeAt_eq_error_iff.mpr (Or.inl ⟨short, rfl⟩)]
    | lengthTooLarge word small length large =>
        rw [sizeAt_eq_ok_iff.mpr ⟨word, small⟩]
        simp only [bind, Except.bind, sizeAt_eq_error_iff.mpr (Or.inr ⟨_, length, large, rfl⟩)]
    | contentOutside word small length lengthSmall short =>
        rw [sizeAt_eq_ok_iff.mpr ⟨word, small⟩]
        simp only [bind, Except.bind, sizeAt_eq_ok_iff.mpr ⟨length, lengthSmall⟩]
        exact slice_eq_error_iff.mpr ⟨short, rfl⟩

/-- No string is read and not read. -/
theorem Refers.not_defect (h : Refers data head s) : ¬ Defect data head e := by
  intro hdefect
  have hok := stringAt_eq_ok_iff.mpr h
  rw [stringAt_eq_error_iff.mpr hdefect] at hok
  cases hok

/-! ## Rows of strings -/

/-- The word with number `i + 1` of a head is the one with number `i` of the rest of it. -/
theorem word_succ (head i : Nat) :
    head + wordSize * (i + 1) = head + wordSize + wordSize * i := by
  rw [Nat.mul_add, Nat.mul_one]
  omega

/-- **A row of strings is read** exactly where each word of the head leads to its string. -/
theorem stringsFrom_eq_ok_iff {strings : List (List UInt8)} :
    stringsFrom data n head = .ok strings ↔
      strings.length = n ∧
        ∀ i s, strings[i]? = some s → Refers data (head + wordSize * i) s := by
  induction n generalizing head strings with
  | zero =>
      rw [stringsFrom, Except.ok.injEq, List.length_eq_zero_iff]
      constructor
      · rintro rfl
        exact ⟨rfl, fun i s h => by simp at h⟩
      · rintro ⟨rfl, -⟩
        rfl
  | succ n ih =>
      rw [stringsFrom]
      constructor
      · intro h
        cases hs : stringAt data head with
        | error e => simp [hs, bind, Except.bind] at h
        | ok s =>
            cases hrest : stringsFrom data n (head + wordSize) with
            | error e => simp [hs, hrest, bind, Except.bind] at h
            | ok rest =>
                obtain rfl : s :: rest = strings := by
                  simpa [hs, hrest, bind, Except.bind, pure, Except.pure] using h
                obtain ⟨hlen, hall⟩ := ih.mp hrest
                refine ⟨by rw [List.length_cons, hlen], fun i t ht => ?_⟩
                cases i with
                | zero =>
                    obtain rfl : s = t := by simpa using ht
                    exact stringAt_eq_ok_iff.mp hs
                | succ i =>
                    rw [word_succ]
                    exact hall i t (by simpa using ht)
      · rintro ⟨hlen, hall⟩
        cases strings with
        | nil => simp at hlen
        | cons s rest =>
            have hs : stringAt data head = .ok s := stringAt_eq_ok_iff.mpr (hall 0 s rfl)
            have hrest : stringsFrom data n (head + wordSize) = .ok rest := by
              refine ih.mpr ⟨by simpa using hlen, fun i t ht => ?_⟩
              rw [← word_succ]
              exact hall (i + 1) t (by simpa using ht)
            simp [hs, hrest, bind, Except.bind, pure, Except.pure]

/-- **A row of strings is not read** because of the first string that is not found. -/
theorem stringsFrom_eq_error_iff :
    stringsFrom data n head = .error e ↔
      ∃ i < n, (∀ j < i, ∃ s, Refers data (head + wordSize * j) s) ∧
        Defect data (head + wordSize * i) e := by
  induction n generalizing head with
  | zero => simp [stringsFrom]
  | succ n ih =>
      rw [stringsFrom]
      cases hs : stringAt data head with
      | error e' =>
          have hdefect := stringAt_eq_error_iff.mp hs
          simp only [bind, Except.bind, Except.error.injEq]
          constructor
          · rintro rfl
            exact ⟨0, Nat.succ_pos n, fun j hj => absurd hj (Nat.not_lt_zero j), hdefect⟩
          · rintro ⟨i, -, hbefore, hi⟩
            cases i with
            | zero =>
                have hfirst : stringAt data head = .error e := stringAt_eq_error_iff.mpr hi
                rw [hs] at hfirst
                exact Except.error.inj hfirst
            | succ i =>
                obtain ⟨s, hrefers⟩ := hbefore 0 (Nat.succ_pos i)
                exact absurd hdefect hrefers.not_defect
      | ok s =>
          have hrefers := stringAt_eq_ok_iff.mp hs
          have hstep : (stringsFrom data n (head + wordSize) >>= fun rest => pure (s :: rest))
              = .error e ↔ stringsFrom data n (head + wordSize) = .error e := by
            cases stringsFrom data n (head + wordSize) <;>
              simp [bind, Except.bind, pure, Except.pure]
          show (stringsFrom data n (head + wordSize) >>= fun rest => pure (s :: rest))
            = .error e ↔ _
          rw [hstep, ih]
          constructor
          · rintro ⟨i, hi, hbefore, hdefect⟩
            refine ⟨i + 1, Nat.succ_lt_succ hi, fun j hj => ?_, by rw [word_succ]; exact hdefect⟩
            cases j with
            | zero => exact ⟨s, hrefers⟩
            | succ j =>
                rw [word_succ]
                exact hbefore j (Nat.lt_of_succ_lt_succ hj)
          · rintro ⟨i, hi, hbefore, hdefect⟩
            cases i with
            | zero => exact absurd hdefect hrefers.not_defect
            | succ i =>
                refine ⟨i, Nat.lt_of_succ_lt_succ hi, fun j hj => ?_, by
                  rw [← word_succ]; exact hdefect⟩
                rw [← word_succ]
                exact hbefore (j + 1) (Nat.succ_lt_succ hj)

end Reading

end Abi

/-! ## Deposits -/

namespace Deposit

/-- A deposit is its five strings. -/
theorem strings_injective {d d' : Deposit} (h : d.strings = d'.strings) : d = d' := by
  cases d
  cases d'
  simpa [strings] using h

/-- The data of a deposit are read as a row of five strings. -/
theorem ofBytes_strings (data : List UInt8) :
    (ofBytes data).map strings = Abi.stringsFrom data 5 0 := by
  unfold ofBytes
  simp only [Abi.stringsFrom, Abi.wordSize, Nat.reduceMul, Nat.reduceAdd]
  -- the first string that is not read decides on both sides
  obtain e | pubkey := Abi.stringAt data 0
  · rfl
  obtain e | withdrawalCredentials := Abi.stringAt data 32
  · rfl
  obtain e | amount := Abi.stringAt data 64
  · rfl
  obtain e | signature := Abi.stringAt data 96
  · rfl
  obtain e | index := Abi.stringAt data 128
  · rfl
  rfl

theorem ofBytes_eq_ok_iff {data : List UInt8} {d : Deposit} :
    ofBytes data = .ok d ↔ Abi.stringsFrom data 5 0 = .ok d.strings := by
  rw [← ofBytes_strings]
  cases ofBytes data with
  | error e => simp [Except.map]
  | ok d' =>
      simp only [Except.map, Except.ok.injEq]
      constructor
      · rintro rfl
        rfl
      · exact strings_injective

theorem ofBytes_eq_error_iff {data : List UInt8} {e : Abi.Problem} :
    ofBytes data = .error e ↔ Abi.stringsFrom data 5 0 = .error e := by
  rw [← ofBytes_strings]
  cases ofBytes data <;> simp [Except.map]

/-- What comes of a text whose digits spell some bytes is what comes of the bytes. -/
theorem decode_of_spells {t : Text} {data : List UInt8}
    (h : Hex.Spells (Text.dropOpening ['0', 'x'] t) data) :
    decode t = (ofBytes data).mapError .layout := by
  unfold decode
  rw [Hex.decode_eq_ok_iff.mpr h]
  simp only
  cases ofBytes data <;> rfl

theorem length_strings (d : Deposit) : d.strings.length = 5 := rfl

/-- **What comes of reading a text as the data of a deposit.** The text is refused for its digits
exactly if, without at most one mark, it is no even number of digits. Otherwise it spells bytes,
and the deposit is read exactly if each of the five words of the head leads to a string, and
then its strings are these. If not, it is refused for the first thing that is wrong with the
first string that is not found. -/
theorem decode_cases (t : Text) :
    let digits := Text.dropOpening ['0', 'x'] t
    ((∃ reason, decode t = .error (.hex reason)) ↔
        ¬ (digits.length % 2 = 0 ∧ ∀ c ∈ digits, Hex.IsDigit c)) ∧
      ((digits.length % 2 = 0 ∧ ∀ c ∈ digits, Hex.IsDigit c) → ∃ data, Hex.Spells digits data) ∧
      ∀ data, Hex.Spells digits data →
        ((∃ d, decode t = .ok d) ↔ ∀ i < 5, ∃ s, Abi.Refers data (32 * i) s) ∧
          (∀ d, decode t = .ok d ↔
            ∀ i s, d.strings[i]? = some s → Abi.Refers data (32 * i) s) ∧
          ((¬ ∃ d, decode t = .ok d) → ∃ e, decode t = .error (.layout e)) ∧
          ∀ e, decode t = .error (.layout e) ↔
            ∃ i < 5, (∀ j < i, ∃ s, Abi.Refers data (32 * j) s) ∧
              Abi.Defect data (32 * i) e := by
  intro digits
  refine ⟨?_, Hex.exists_spells_iff.mpr, fun data hdata => ?_⟩
  · rw [← Hex.exists_spells_iff, ← Hex.decode_eq_error_iff]
    unfold decode
    cases Hex.decode t with
    | error reason =>
        refine ⟨fun _ => ⟨reason, rfl⟩, fun _ => ⟨reason, rfl⟩⟩
    | ok bytes =>
        -- data that are bytes are refused for their layout only
        simp only
        cases ofBytes bytes <;> simp
  · have hdecode := decode_of_spells hdata
    have hstart : ∀ i, 0 + Abi.wordSize * i = 32 * i := fun i => Nat.zero_add _
    have hok : ∀ d, decode t = .ok d ↔
        ∀ i s, d.strings[i]? = some s → Abi.Refers data (32 * i) s := by
      intro d
      have hmap : decode t = .ok d ↔ ofBytes data = .ok d := by
        rw [hdecode]
        cases ofBytes data <;> simp [Except.mapError]
      rw [hmap, ofBytes_eq_ok_iff, Abi.stringsFrom_eq_ok_iff]
      simp only [hstart, d.length_strings, true_and]
    have herror : ∀ e, decode t = .error (.layout e) ↔
        ∃ i < 5, (∀ j < i, ∃ s, Abi.Refers data (32 * j) s) ∧ Abi.Defect data (32 * i) e := by
      intro e
      have hmap : decode t = .error (.layout e) ↔ ofBytes data = .error e := by
        rw [hdecode]
        cases ofBytes data <;> simp [Except.mapError]
      rw [hmap, ofBytes_eq_error_iff, Abi.stringsFrom_eq_error_iff]
      simp only [hstart]
    have htotal : (∃ d, decode t = .ok d) ∨ ∃ e, decode t = .error (.layout e) := by
      rw [hdecode]
      cases ofBytes data with
      | error e => exact Or.inr ⟨e, rfl⟩
      | ok d => exact Or.inl ⟨d, rfl⟩
    refine ⟨⟨?_, fun hall => ?_⟩, hok, htotal.resolve_left, herror⟩
    · rintro ⟨d, hd⟩ i hi
      have hget : d.strings[i]? = some d.strings[i] := List.getElem?_eq_getElem hi
      exact ⟨_, (hok d).mp hd i _ hget⟩
    · -- where each string is found, nothing can be wrong
      refine htotal.resolve_right ?_
      rintro ⟨e, he⟩
      obtain ⟨i, hi, -, hdefect⟩ := (herror e).mp he
      obtain ⟨s, hs⟩ := hall i hi
      exact hs.not_defect hdefect

/-- Five strings that overlap. The first one holds the second one with its length; the third one
has the first word of the head for its length, and takes the rest of the head; the length of the
fourth one is not aligned; and the fifth one is the second one again. -/
theorem decode_cases_overlapping :
    let word : UInt8 → List UInt8 := fun n => List.replicate 31 0 ++ [n]
    let head : List UInt8 := [160, 192, 0, 226, 192].flatMap word
    let data : List UInt8 := head ++ word 34 ++ word 2 ++ [120, 121] ++ word 1 ++ [122]
    let t : Text := "0x".toList ++ Hex.encode data
    let second : List UInt8 := [120, 121]
    decode t = .ok ⟨word 2 ++ second, second, head.drop 32 ++ word 34, [122], second⟩ := by
  intro word head data t second
  have hspells : Hex.Spells (Text.dropOpening ['0', 'x'] t) data := Hex.spells_encode data
  let d : Deposit := ⟨word 2 ++ second, second, head.drop 32 ++ word 34, [122], second⟩
  let place : Nat → Nat := fun i => [160, 192, 0, 226, 192].getD i 0
  let length : Nat → Nat := fun i => [34, 2, 160, 1, 2].getD i 0
  have hlayout : ∀ i < 5,
      (32 * i + Abi.wordSize ≤ data.length ∧
        Abi.ofBigEndian (Abi.wordBytes data (32 * i)) = place i) ∧
      (place i + Abi.wordSize ≤ data.length ∧
        Abi.ofBigEndian (Abi.wordBytes data (place i)) = length i) ∧
      (place i < 2 ^ 64 ∧ length i < 2 ^ 64 ∧ place i + Abi.wordSize + length i ≤ data.length) ∧
      d.strings[i]? = some ((data.drop (place i + Abi.wordSize)).take (length i)) := by
    decide +kernel
  refine (((decode_cases t).2.2 data hspells).2.1 d).mpr fun i s hs => ?_
  obtain ⟨hhead, hplace, ⟨hbits, hbits', hinside⟩, hs'⟩ :=
    hlayout i (List.getElem?_eq_some_iff.mp hs).1
  exact ⟨place i, length i, ⟨hhead.1, hhead.2⟩, hbits, ⟨hplace.1, hplace.2⟩, hbits', hinside,
    Option.some.inj (hs.symm.trans hs')⟩

end Deposit

end DepositTrail
