import DepositTrail.Proofs.AbiLayout

set_option autoImplicit false

/-! # Data that were written

Strings in the standard layout are read back as they are (`stringsFrom_encode`), and so a deposit
is read back from the digits of its data, in either case, with or without a mark before them and
with anything behind them (`Deposit.decode_encode`).

In the standard layout the place of a string depends on the lengths of all strings before it, and
they come with zeros behind them. The induction goes through the head and the strings at once: it
is about any data in which, from some place of the head on, the words of the strings that are left
stand, and from the place that the first of them says on, these strings.
-/

namespace DepositTrail

namespace Abi

/-! ## Numbers -/

@[simp] theorem length_toBigEndian (count n : Nat) : (toBigEndian count n).length = count := by
  induction count generalizing n with
  | zero => rfl
  | succ count ih => rw [toBigEndian, List.length_append, ih, List.length_singleton]

/-- What was written of a number is read. -/
theorem ofBigEndian_toBigEndian (count n : Nat) :
    ofBigEndian (toBigEndian count n) = n % 256 ^ count := by
  induction count generalizing n with
  | zero => simp [toBigEndian, Nat.mod_one]
  | succ count ih =>
      have hbyte : ofBigEndian [UInt8.ofNat (n % 256)] = n % 256 := by
        rw [ofBigEndian_cons, UInt8.toNat_ofNat']
        simp
      rw [toBigEndian, ofBigEndian_append, ih, hbyte, List.length_singleton, Nat.pow_one]
      calc n / 256 % 256 ^ count * 256 + n % 256
          = n % 256 + 256 * (n / 256 % 256 ^ count) := by rw [Nat.add_comm, Nat.mul_comm]
        _ = n % (256 * 256 ^ count) := (Nat.mod_mul).symm
        _ = n % 256 ^ (count + 1) := by rw [Nat.pow_succ, Nat.mul_comm]

@[simp] theorem length_word (n : Nat) : (word n).length = wordSize := length_toBigEndian _ _

theorem length_heads (place : Nat) (strings : List (List UInt8)) :
    (heads place strings).length = wordSize * strings.length := by
  induction strings generalizing place with
  | nil => rfl
  | cons s rest ih =>
      rw [heads, List.length_append, length_word, ih, List.length_cons, Nat.mul_add, Nat.mul_one,
        Nat.add_comm]

/-! ## What stands from a place on -/

section Places

variable {data a b : List UInt8} {place n : Nat}

/-- What stands behind the bytes at a place. -/
theorem drop_length_add (h : data.drop place = a ++ b) : data.drop (place + a.length) = b := by
  rw [← List.drop_drop, h, List.drop_left]

/-- The bytes at a place lie in the data, if there are any. -/
theorem add_length_le (h : data.drop place = a ++ b) (ha : a ≠ []) :
    place + a.length ≤ data.length := by
  have hlen : data.length - place = a.length + b.length := by
    rw [← List.length_drop, h, List.length_append]
  have hpos := List.length_pos_iff.mpr ha
  omega

theorem wordAt_of_drop (h : data.drop place = word n ++ b) (hn : n < 2 ^ 64) :
    WordAt data place n := by
  have hne : word n ≠ [] := by
    intro hnil
    have hlen := length_word n
    rw [hnil] at hlen
    cases hlen
  constructor
  · have hle := add_length_le h hne
    rwa [length_word] at hle
  · have htake : wordBytes data place = word n := by
      rw [wordBytes, h, ← length_word n, List.take_left]
    have hbig : n < 256 ^ wordSize := Nat.lt_of_lt_of_le hn (by decide)
    rw [htake, word, ofBigEndian_toBigEndian, Nat.mod_eq_of_lt hbig]

/-- A word in the head leads to the string that stands where it says. -/
theorem refers_of_drop {head : Nat} {s x y : List UInt8}
    (hhead : data.drop head = word place ++ x) (htail : data.drop place = tail s ++ y)
    (hplace : place < 2 ^ 64) (hs : s.length < 2 ^ 64) : Refers data head s := by
  have hlength : data.drop place = word s.length ++ (s ++ (filling s.length ++ y)) := by
    rw [htail, tail, List.append_assoc, List.append_assoc]
  have hcontent : data.drop (place + wordSize) = s ++ (filling s.length ++ y) := by
    rw [← length_word s.length]
    exact drop_length_add hlength
  have hword := wordAt_of_drop hlength hs
  refine ⟨place, s.length, wordAt_of_drop hhead hplace, hplace, hword, hs, ?_, ?_⟩
  · -- an empty string lies in the data because its length does
    by_cases hempty : s = []
    · rw [hempty]
      exact hword.inside
    · exact add_length_le hcontent hempty
  · rw [hcontent, List.take_left]

end Places

/-! ## The standard layout -/

/-- **A head and its strings**: where the words of some strings stand, and from the place of the
first of them on these strings, each word leads to its string. -/
theorem refers_of_heads {data x y : List UInt8} {strings : List (List UInt8)} {head place : Nat}
    (hheads : data.drop head = heads place strings ++ x)
    (htails : data.drop place = strings.flatMap tail ++ y)
    (hfits : place + (strings.flatMap tail).length < 2 ^ 64) :
    ∀ i s, strings[i]? = some s → Refers data (head + wordSize * i) s := by
  induction strings generalizing head place with
  | nil =>
      intro i s hs
      simp at hs
  | cons first rest ih =>
      rw [heads, List.append_assoc] at hheads
      rw [List.flatMap_cons, List.append_assoc] at htails
      rw [List.flatMap_cons, List.length_append] at hfits
      have hlength : (tail first).length
          = wordSize + first.length + (filling first.length).length := by
        rw [tail, List.length_append, List.length_append, length_word]
      intro i s hs
      cases i with
      | zero =>
          obtain rfl : first = s := by simpa using hs
          exact refers_of_drop hheads htails (by omega) (by omega)
      | succ i =>
          -- the words and the strings that are left stand behind the first ones
          have hheads' := drop_length_add hheads
          have htails' := drop_length_add htails
          rw [length_word] at hheads'
          have hrest := ih hheads' htails' (by omega) i s (by simpa using hs)
          rwa [word_succ]

/-- **What was written in the standard layout is read**, whatever stands behind it. -/
theorem stringsFrom_encode (strings : List (List UInt8)) (extra : List UInt8)
    (h : (encode strings).length < 2 ^ 64) :
    stringsFrom (encode strings ++ extra) strings.length 0 = .ok strings := by
  rw [stringsFrom_eq_ok_iff]
  refine ⟨rfl, ?_⟩
  have hlength : (encode strings).length
      = wordSize * strings.length + (strings.flatMap tail).length := by
    rw [encode, List.length_append, length_heads]
  have hheads : (encode strings ++ extra).drop 0
      = heads (wordSize * strings.length) strings ++ (strings.flatMap tail ++ extra) := by
    rw [List.drop_zero, encode, List.append_assoc]
  have htails := drop_length_add hheads
  rw [length_heads, Nat.zero_add] at htails
  exact refers_of_heads hheads htails (by omega)

/-- One byte, and behind it nothing: the head of two words, and two strings of two words and one. -/
example : encode [[0xab], []]
    = word 64 ++ word 128 ++ (word 1 ++ 0xab :: List.replicate 31 0) ++ word 0 := by
  decide +kernel

end Abi

/-! ## Deposits -/

namespace Deposit

@[simp] theorem length_toLittleEndian (count n : Nat) :
    (toLittleEndian count n).length = count := by
  induction count generalizing n with
  | zero => rfl
  | succ count ih => rw [toLittleEndian, List.length_cons, ih]

theorem ofLittleEndian_toLittleEndian (count n : Nat) :
    ofLittleEndian (toLittleEndian count n) = n % 256 ^ count := by
  induction count generalizing n with
  | zero => simp [toLittleEndian, ofLittleEndian, Nat.mod_one]
  | succ count ih =>
      have hbyte : (UInt8.ofNat (n % 256)).toNat = n % 256 := by
        rw [UInt8.toNat_ofNat']
        simp
      rw [toLittleEndian]
      show (UInt8.ofNat (n % 256)).toNat + 256 * ofLittleEndian (toLittleEndian count (n / 256))
        = _
      rw [hbyte, ih, Nat.pow_succ, Nat.mul_comm (256 ^ count)]
      exact (Nat.mod_mul).symm

/-- The eight bytes of a number are this number. -/
theorem number?_toLittleEndian (n : UInt64) : number? (toLittleEndian 8 n.toNat) = some n := by
  have hlt : n.toNat < 256 ^ 8 := n.toNat_lt
  rw [number?, if_pos (length_toLittleEndian 8 n.toNat), ofLittleEndian_toLittleEndian,
    Nat.mod_eq_of_lt hlt, UInt64.ofNat_toNat]

/-- Digits have no mark at their start. -/
theorem dropOpening_of_spells {digits : Text} {data : List UInt8} (h : Hex.Spells digits data) :
    Text.dropOpening ['0', 'x'] digits = digits := by
  have hall := (Hex.exists_spells_iff.mp ⟨data, h⟩).2
  rw [Text.dropOpening, Hex.dropOpening?_of_isDigit (by decide) hall]
  rfl

/-- **Reading a deposit undoes writing it.** Five strings of any lengths, written in the standard
layout, are read back from the digits of what was written, in any mix of capitals and small
letters, without a mark or with one before them, and with any bytes behind them. If the amount
is the eight bytes of a number, this number is the amount, and the same holds of the index. -/
theorem decode_encode (d : Deposit) (h : (Abi.encode d.strings).length < 2 ^ 64)
    (extra : List UInt8) (digits : Text)
    (hdigits : digits.lower = Hex.encode (Abi.encode d.strings ++ extra)) :
    decode digits = .ok d ∧ decode ('0' :: 'x' :: digits) = .ok d ∧
      (∀ a : UInt64, d.amount = toLittleEndian 8 a.toNat → d.amountGwei = some a) ∧
      ∀ i : UInt64, d.index = toLittleEndian 8 i.toNat → d.depositIndex = some i := by
  have hspells : Hex.Spells digits (Abi.encode d.strings ++ extra) := hdigits
  have hread : ofBytes (Abi.encode d.strings ++ extra) = .ok d :=
    ofBytes_eq_ok_iff.mpr (Abi.stringsFrom_encode d.strings extra h)
  have hboth : ∀ t, Text.dropOpening ['0', 'x'] t = digits → decode t = .ok d := by
    intro t ht
    rw [decode_of_spells (ht ▸ hspells), hread]
    rfl
  refine ⟨hboth digits (dropOpening_of_spells hspells), hboth _ rfl, ?_, ?_⟩
  · intro a ha
    rw [amountGwei, ha]
    exact number?_toLittleEndian a
  · intro i hi
    rw [depositIndex, hi]
    exact number?_toLittleEndian i

/-- A deposit with a key of 48 bytes, an empty string and one that fills a word, in capitals and
with two bytes behind it. -/
theorem decode_encode_capitals :
    let d : Deposit := ⟨List.replicate 48 0xab, [], toLittleEndian 8 32000000000,
      List.replicate 32 0xcd, toLittleEndian 8 7⟩
    let digits : Text := (Hex.encode (Abi.encode d.strings ++ [0xef, 0x01])).map Char.toUpper
    (Abi.encode d.strings).length < 2 ^ 64 ∧
      digits.lower = Hex.encode (Abi.encode d.strings ++ [0xef, 0x01]) ∧
      decode ('0' :: 'x' :: digits) = .ok d ∧
      d.amountGwei = some 32000000000 ∧ d.depositIndex = some 7 := by
  intro d digits
  have h : (Abi.encode d.strings).length < 2 ^ 64 := by decide +kernel
  have hdigits : digits.lower = Hex.encode (Abi.encode d.strings ++ [0xef, 0x01]) := by
    decide +kernel
  obtain ⟨-, hmarked, hamount, hindex⟩ := decode_encode d h [0xef, 0x01] digits hdigits
  exact ⟨h, hdigits, hmarked, hamount 32000000000 rfl, hindex 7 rfl⟩

end Deposit

end DepositTrail
