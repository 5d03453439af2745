import DepositTrail.Proofs.Numerals
import DepositTrail.Proofs.AbiRoundTrip
import DepositTrail.Proofs.Sink
import DepositTrail.Proofs.Utf8
import DepositTrail.Record
import Mathlib.Data.Char
import Mathlib.Data.List.Forall2

set_option autoImplicit false

/-! # Lines of deposits

Records are written one line each, and a sink without a limit takes all of them. The lines are
found again at their ends, if no line has an end in its middle (`DepositRecord.splitOn_text`); this
holds of lines of any form.

A line of text has six fields with a blank between them. For a deposit none of the fields is empty
and none has a blank or an end of a line in it, whatever its bytes are: they are numbers in
decimal, bytes in hexadecimal, and hyphens (`Deposit.isWord_of_mem_fields`). So the line falls
into its fields again, and each of them is read as what it was written for: the text of some
deposits tells all there is in their records (`Deposit.text_lossless`). What the record leaves out
is an amount or an index that is no string of eight bytes; without such a thing the text tells the
deposits themselves.
-/

namespace DepositTrail

/-! ## Records one after the other -/

namespace DepositRecord

/-- Write the lines of some records to a sink, one after the other, until it refuses. -/
def writeAll (format : OutputFormat) : List DepositRecord → Sink → Sink × Except SinkProblem Unit
  | [], s => (s, .ok ())
  | r :: rest, s =>
      match s.write (r.line format).utf8 with
      | (s, .ok ()) => writeAll format rest s
      | (s, .error e) => (s, .error e)

/-- A line without its end. -/
def body (format : OutputFormat) (r : DepositRecord) : Text :=
  match format with
  | .text => [' '].intercalate r.fields
  | .jsonLines => (Json.obj r.members).write

/-- The lines of some records, each with its end. -/
def text (format : OutputFormat) (rs : List DepositRecord) : Text := rs.flatMap (line format)

variable (format : OutputFormat)

theorem line_eq (r : DepositRecord) : r.line format = r.body format ++ ['\n'] := by
  cases format <;> rfl

theorem text_cons (r : DepositRecord) (rs : List DepositRecord) :
    text format (r :: rs) = r.body format ++ '\n' :: text format rs := by
  rw [text, List.flatMap_cons, line_eq, List.append_assoc]
  rfl

/-- Writing records is writing the text of all of them. -/
theorem writeAll_eq (rs : List DepositRecord) (s : Sink) :
    writeAll format rs s = s.write (text format rs).utf8 := by
  induction rs generalizing s with
  | nil => exact (Sink.write_nil s).symm
  | cons r rs ih =>
      have hsplit : (text format (r :: rs)).utf8
          = (r.line format).utf8 ++ (text format rs).utf8 := by
        simp [text, Text.utf8]
      rw [writeAll, hsplit, Sink.write_append]
      rcases s.write (r.line format).utf8 with ⟨s', ⟨⟩ | ⟨⟩⟩
      · rfl
      · exact ih s'

/-- A sink without a limit takes all lines. -/
theorem writeAll_unlimited (rs : List DepositRecord) :
    writeAll format rs Sink.unlimited
      = ({ Sink.unlimited with taken := (text format rs).utf8 }, .ok ()) := by
  rw [writeAll_eq, Sink.write_unlimited rfl]
  rfl

/-- **Lines are found again** at their ends, and behind the last one there is nothing. -/
theorem splitOn_text {rs : List DepositRecord} (h : ∀ r ∈ rs, '\n' ∉ r.body format) :
    (text format rs).splitOn '\n' = rs.map (body format) ++ [[]] := by
  induction rs with
  | nil => exact List.splitOn_nil '\n'
  | cons r rs ih =>
      rw [text_cons, List.splitOn_append_cons_self_of_not_mem (h r List.mem_cons_self),
        ih fun x hx => h x (List.mem_cons_of_mem _ hx)]
      rfl

end DepositRecord

/-! ## Words -/

/-- A text with something in it, and nothing that comes before the visible characters. -/
structure IsWord (t : Text) : Prop where
  ne_nil : t ≠ []
  visible : ∀ c ∈ t, ' ' < c

theorem IsWord.notMem {t : Text} (h : IsWord t) {c : Char} (hc : c ≤ ' ') : c ∉ t :=
  fun hmem => absurd (h.visible c hmem) (not_lt_of_ge hc)

/-- What stands in texts with a character between them is this character, or in one of them. -/
theorem mem_intercalate {sep c : Char} {ts : List Text} (h : c ∈ [sep].intercalate ts) :
    c = sep ∨ ∃ t ∈ ts, c ∈ t := by
  induction ts with
  | nil =>
      rw [List.intercalate_nil] at h
      cases h
  | cons t ts ih =>
      rcases eq_or_ne ts [] with rfl | hne
      · rw [List.intercalate_singleton] at h
        exact .inr ⟨t, List.mem_cons_self, h⟩
      · rw [List.intercalate_cons_of_ne_nil hne, List.append_assoc] at h
        rcases List.mem_append.mp h with h | h
        · exact .inr ⟨t, List.mem_cons_self, h⟩
        · rcases List.mem_cons.mp h with h | h
          · exact .inl h
          · exact (ih h).imp_right fun ⟨x, hx, hc⟩ => ⟨x, List.mem_cons_of_mem _ hx, hc⟩

theorem isWord_decimal (n : ℕ) : IsWord (Text.decimal n) where
  ne_nil := Text.decimal_ne_nil n
  visible := by
    intro c hc
    have hdigit := (Text.isDigit_iff.mp (Text.isDigit_of_mem_decimal hc)).1
    exact lt_of_lt_of_le (by decide : ' ' < '0') hdigit

theorem isWord_field (n : Option UInt64) : IsWord (DepositRecord.field n) := by
  cases n with
  | none => exact ⟨List.cons_ne_nil _ _, List.forall_mem_singleton.mpr (by decide)⟩
  | some n => exact isWord_decimal n.toNat

/-- A mark with the digits of some bytes, of which there may be none. -/
theorem isWord_encode (bytes : List UInt8) : IsWord ('0' :: 'x' :: Hex.encode bytes) where
  ne_nil := List.cons_ne_nil _ _
  visible := by
    refine List.forall_mem_cons.mpr ⟨by decide, List.forall_mem_cons.mpr ⟨by decide, ?_⟩⟩
    intro c hc
    have hdigit := (Hex.exists_spells_iff.mp ⟨bytes, Hex.spells_encode bytes⟩).2 c hc
    rcases hdigit with ⟨hlow, -⟩ | ⟨hlow, -⟩ | ⟨hlow, -⟩
    · exact lt_of_lt_of_le (by decide : ' ' < '0') hlow
    · exact lt_of_lt_of_le (by decide : ' ' < 'a') hlow
    · exact lt_of_lt_of_le (by decide : ' ' < 'A') hlow

/-! ## Fields read back -/

/-- What a line of text tells about a deposit. -/
structure DepositLine where
  block : UInt64
  pubkey : List UInt8
  withdrawalCredentials : List UInt8
  amountGwei : Option UInt64
  signature : List UInt8
  index : Option UInt64
deriving Repr, DecidableEq

namespace DepositLine

/-- A number of 64 bits. -/
def number? (t : Text) : Option UInt64 :=
  (Text.readNumeral 10 UInt64.size t).toOption.map UInt64.ofNat

/-- A number, or none where a hyphen stands. -/
def field? (t : Text) : Option (Option UInt64) :=
  if t = ['-'] then some none else (number? t).map some

/-- Bytes in hexadecimal. -/
def bytes? (t : Text) : Option (List UInt8) := (Hex.decode t).toOption

/-- Read a line of six fields, without its end. -/
def ofLine? (line : Text) : Option DepositLine :=
  match line.splitOn ' ' with
  | [block, pubkey, credentials, amount, signature, index] => do
      return ⟨← number? block, ← bytes? pubkey, ← bytes? credentials, ← field? amount,
        ← bytes? signature, ← field? index⟩
  | _ => none

/-- Read all lines, the last of which must have its end. -/
def ofBytes? (bytes : List UInt8) : Option (List DepositLine) := do
  let t ← Text.decode? bytes
  let pieces := t.splitOn '\n'
  if pieces.getLast? = some [] then pieces.dropLast.mapM ofLine? else none

@[simp] theorem number?_decimal (n : UInt64) : number? (Text.decimal n.toNat) = some n := by
  rw [number?, Text.readNumeral_decimal n.toNat_lt]
  simp [Except.toOption]

@[simp] theorem field?_field (n : Option UInt64) : field? (DepositRecord.field n) = some n := by
  cases n with
  | none => rfl
  | some n =>
      -- a hyphen is no digit
      have hne : Text.decimal n.toNat ≠ ['-'] := by
        intro h
        have hdigit := Text.isDigit_of_mem_decimal (h ▸ List.mem_singleton_self '-')
        exact absurd hdigit (by decide)
      rw [DepositRecord.field, field?, if_neg hne, number?_decimal, Option.map_some]

@[simp] theorem bytes?_encode (bytes : List UInt8) :
    bytes? ('0' :: 'x' :: Hex.encode bytes) = some bytes := by
  have hspells : Hex.Spells (Text.dropOpening ['0', 'x'] ('0' :: 'x' :: Hex.encode bytes)) bytes :=
    Hex.spells_encode bytes
  rw [bytes?, Hex.decode_eq_ok_iff.mpr hspells]
  rfl

end DepositLine

/-! ## Deposits -/

namespace Deposit

/-- What is told about a deposit in a block. -/
def told (d : Deposit) (block : UInt64) : DepositLine where
  block := block
  pubkey := d.pubkey
  withdrawalCredentials := d.withdrawalCredentials
  amountGwei := d.amountGwei
  signature := d.signature
  index := d.depositIndex

variable (d : Deposit) (block : UInt64)

/-- The fields of a deposit are words. -/
theorem isWord_of_mem_fields : ∀ f ∈ (d.record block).fields, IsWord f := by
  simp only [DepositRecord.fields, record, List.forall_mem_cons]
  exact ⟨isWord_decimal _, isWord_encode _, isWord_encode _, isWord_field _, isWord_encode _,
    isWord_field _, fun _ h => absurd h List.not_mem_nil⟩

/-- The line of a deposit falls into its fields. -/
theorem splitOn_body : ((d.record block).body .text).splitOn ' ' = (d.record block).fields :=
  List.splitOn_intercalate ' '
    (fun f hf => (isWord_of_mem_fields d block f hf).notMem (le_refl ' '))
    (by simp [DepositRecord.fields])

/-- A line of a deposit does not end in its middle. -/
theorem notMem_body : '\n' ∉ (d.record block).body .text := by
  intro h
  rcases mem_intercalate h with h | ⟨f, hf, h⟩
  · exact absurd h (by decide)
  · exact (isWord_of_mem_fields d block f hf).notMem (by decide) h

/-- **A line of text tells its deposit.** -/
theorem ofLine?_body : DepositLine.ofLine? ((d.record block).body .text) = some (d.told block) := by
  rw [DepositLine.ofLine?, splitOn_body]
  simp [DepositRecord.fields, record, told]

/-- The lines of some deposits are read as what they tell, one after the other. -/
theorem mapM_ofLine?_body (xs : List (UInt64 × Deposit)) :
    (xs.map fun x => (x.2.record x.1).body .text).mapM DepositLine.ofLine?
      = some (xs.map fun x => x.2.told x.1) := by
  induction xs with
  | nil => rfl
  | cons x xs ih => simp [ofLine?_body, ih]

/-! ## Numbers of eight bytes -/

/-- A number has the bytes of which it was made. -/
theorem toLittleEndian_ofLittleEndian (bytes : List UInt8) :
    toLittleEndian bytes.length (ofLittleEndian bytes) = bytes := by
  induction bytes with
  | nil => rfl
  | cons b bytes ih =>
      have hlt := b.toNat_lt
      have hmod : (b.toNat + 256 * ofLittleEndian bytes) % 256 = b.toNat := by omega
      have hdiv : (b.toNat + 256 * ofLittleEndian bytes) / 256 = ofLittleEndian bytes := by omega
      show UInt8.ofNat ((b.toNat + 256 * ofLittleEndian bytes) % 256) ::
          toLittleEndian bytes.length ((b.toNat + 256 * ofLittleEndian bytes) / 256) = b :: bytes
      rw [hmod, hdiv, ih, UInt8.ofNat_toNat]

theorem ofLittleEndian_lt (bytes : List UInt8) : ofLittleEndian bytes < 256 ^ bytes.length := by
  have h := ofLittleEndian_toLittleEndian bytes.length (ofLittleEndian bytes)
  rw [toLittleEndian_ofLittleEndian] at h
  rw [h]
  exact Nat.mod_lt _ (Nat.pow_pos (by decide))

/-- A string of eight bytes is found again from its number. -/
theorem map_number? {bytes : List UInt8} (h : bytes.length = 8) :
    (number? bytes).map (fun n => toLittleEndian 8 n.toNat) = some bytes := by
  have hlt := ofLittleEndian_lt bytes
  rw [h] at hlt
  have hnat : (UInt64.ofNat (ofLittleEndian bytes)).toNat = ofLittleEndian bytes := by
    rw [UInt64.toNat_ofNat']
    exact Nat.mod_eq_of_lt hlt
  rw [number?, if_pos h, Option.map_some, hnat, ← h, toLittleEndian_ofLittleEndian]

/-- Whether amount and index are strings of eight bytes, and so are numbers. -/
def HasNumbers (d : Deposit) : Prop := d.amount.length = 8 ∧ d.index.length = 8

instance (d : Deposit) : Decidable d.HasNumbers := inferInstanceAs (Decidable (_ ∧ _))

end Deposit

/-- The deposit of a line with both numbers, and its block. -/
def DepositLine.deposit? (l : DepositLine) : Option (UInt64 × Deposit) := do
  let amount ← l.amountGwei
  let index ← l.index
  return (l.block, ⟨l.pubkey, l.withdrawalCredentials, Deposit.toLittleEndian 8 amount.toNat,
    l.signature, Deposit.toLittleEndian 8 index.toNat⟩)

namespace Deposit

/-- With both numbers, what is told of a deposit is all of it. -/
theorem deposit?_told {d : Deposit} (h : d.HasNumbers) (block : UInt64) :
    (d.told block).deposit? = some (block, d) := by
  obtain ⟨amount, hamount, hbytes⟩ := Option.map_eq_some_iff.mp (map_number? h.1)
  obtain ⟨index, hindex, hbytes'⟩ := Option.map_eq_some_iff.mp (map_number? h.2)
  simp only [DepositLine.deposit?, told, amountGwei, depositIndex, hamount, hindex, hbytes,
    hbytes', Option.bind_eq_bind, Option.bind_some, Option.pure_def]

theorem mapM_deposit?_told {xs : List (UInt64 × Deposit)} (h : ∀ x ∈ xs, x.2.HasNumbers) :
    (xs.map fun x => x.2.told x.1).mapM DepositLine.deposit? = some xs := by
  induction xs with
  | nil => rfl
  | cons x xs ih =>
      have hrest := ih fun y hy => h y (List.mem_cons_of_mem _ hy)
      simp only [List.map_cons, List.mapM_cons, deposit?_told (h x List.mem_cons_self), hrest,
        Option.bind_eq_bind, Option.bind_some, Option.pure_def]

/-! ## All together -/

/-- The records of some deposits, each with the block it is in. -/
def records (xs : List (UInt64 × Deposit)) : List DepositRecord := xs.map fun x => x.2.record x.1

/-- The text of some deposits falls into their lines. -/
theorem splitOn_records (xs : List (UInt64 × Deposit)) :
    (DepositRecord.text .text (records xs)).splitOn '\n'
      = (xs.map fun x => (x.2.record x.1).body .text) ++ [[]] := by
  rw [DepositRecord.splitOn_text, records, List.map_map]
  · rfl
  · intro r hr
    obtain ⟨x, -, rfl⟩ := List.mem_map.mp hr
    exact notMem_body x.2 x.1

/-- What the text of some deposits is read as. -/
theorem ofBytes?_text (xs : List (UInt64 × Deposit)) :
    DepositLine.ofBytes? (DepositRecord.text .text (records xs)).utf8
      = some (xs.map fun x => x.2.told x.1) := by
  simp only [DepositLine.ofBytes?, Text.decode?_utf8, splitOn_records, List.getLast?_append,
    List.getLast?_singleton, Option.some_or, if_true, List.dropLast_concat, mapM_ofLine?_body,
    Option.bind_eq_bind, Option.bind_some]

/-- What is told of a deposit is all there is in its record. -/
theorem record_eq_of_told_eq {x y : UInt64 × Deposit} (h : y.2.told y.1 = x.2.told x.1) :
    y.2.record y.1 = x.2.record x.1 := by
  injection h with hblock hpubkey hcredentials hamount hsignature hindex
  rw [record, record, hblock, hpubkey, hcredentials, hamount, hsignature, hindex]

theorem records_eq_of_told_eq {xs ys : List (UInt64 × Deposit)}
    (h : (ys.map fun y => y.2.told y.1) = xs.map fun x => x.2.told x.1) :
    records ys = records xs := by
  rw [records, records, ← List.forall₂_eq_eq_eq, List.forall₂_map_left_iff,
    List.forall₂_map_right_iff]
  rw [← List.forall₂_eq_eq_eq, List.forall₂_map_left_iff, List.forall₂_map_right_iff] at h
  exact h.imp fun _ _ => record_eq_of_told_eq

/-- **The text of deposits loses nothing.** Whatever the bytes of some deposits are, all their
lines are written, and what was written is a text that falls into one line for each deposit, with
nothing behind the last one. No line is empty, and each falls into six fields, of which none is
empty either, and which are read as what is told of the deposit in its block. So deposits with the
same bytes written have the same records; and where amount and index are strings of eight bytes,
they are the same deposits, which are found again in what is told of them. -/
theorem text_lossless (xs : List (UInt64 × Deposit)) :
    ∃ sink t lines,
      DepositRecord.writeAll .text (records xs) Sink.unlimited = (sink, .ok ()) ∧
      Text.decode? sink.taken = some t ∧ t.splitOn '\n' = lines ++ [[]] ∧
      List.Forall₂ (fun line x => line ≠ [] ∧ (line.splitOn ' ').length = 6 ∧
        (∀ f ∈ line.splitOn ' ', f ≠ []) ∧
        DepositLine.ofLine? line = some (told x.2 x.1)) lines xs ∧
      DepositLine.ofBytes? sink.taken = some (xs.map fun x => x.2.told x.1) ∧
      (∀ x ∈ xs, x.2.HasNumbers → (x.2.told x.1).deposit? = some x) ∧
      ∀ ys, (DepositRecord.writeAll .text (records ys) Sink.unlimited).1.taken = sink.taken →
        records ys = records xs ∧
        ((∀ x ∈ xs, x.2.HasNumbers) → (∀ y ∈ ys, y.2.HasNumbers) → ys = xs) := by
  refine ⟨_, _, _, DepositRecord.writeAll_unlimited .text (records xs), Text.decode?_utf8 _,
    splitOn_records xs, ?_, ofBytes?_text xs, fun x _ h => deposit?_told h x.1, ?_⟩
  · rw [List.forall₂_map_left_iff, List.forall₂_same]
    intro x _
    have hfields := splitOn_body x.2 x.1
    have hlength : (((x.2.record x.1).body .text).splitOn ' ').length = 6 := by
      rw [hfields]
      rfl
    refine ⟨?_, hlength, ?_, ofLine?_body x.2 x.1⟩
    · -- an empty line would be one empty field
      intro hempty
      rw [hempty, List.splitOn_nil] at hlength
      cases hlength
    · intro f hf
      rw [hfields] at hf
      exact (isWord_of_mem_fields x.2 x.1 f hf).ne_nil
  · intro ys htaken
    rw [DepositRecord.writeAll_unlimited] at htaken
    have htold : some (ys.map fun y => y.2.told y.1) = some (xs.map fun x => x.2.told x.1) := by
      rw [← ofBytes?_text, ← ofBytes?_text]
      exact congrArg DepositLine.ofBytes? htaken
    rw [Option.some.injEq] at htold
    refine ⟨records_eq_of_told_eq htold, ?_⟩
    intro hxs hys
    have h := mapM_deposit?_told hys
    rw [htold, mapM_deposit?_told hxs, Option.some.injEq] at h
    exact h.symm

/-- A deposit without any bytes and one whose numbers are as large as can be: the hyphens of the
first one and the numbers of the second one are told apart, and only the second one is found
again. -/
theorem text_lossless_without_bytes :
    let bare : Deposit := ⟨[], [], [], [], []⟩
    let full : Deposit := ⟨[0xAB], [], List.replicate 8 0xFF, [0x00], [1, 0, 0, 0, 0, 0, 0, 0]⟩
    let sink := (DepositRecord.writeAll .text (records [(0, bare), (7, full)]) Sink.unlimited).1
    Text.decode? sink.taken
        = some "0 0x 0x - 0x -\n7 0xab 0x 18446744073709551615 0x00 1\n".toList ∧
      DepositLine.ofBytes? sink.taken = some [⟨0, [], [], none, [], none⟩,
        ⟨7, [0xAB], [], some 18446744073709551615, [0x00], some 1⟩] ∧
      ¬ bare.HasNumbers ∧ (bare.told 0).deposit? = none ∧
      full.HasNumbers ∧ (full.told 7).deposit? = some (7, full) := by
  intro bare full sink
  have hfull : full.HasNumbers := by decide
  obtain ⟨sink', t, lines, hwritten, htext, -, -, hread, hfound, -⟩ :=
    text_lossless [(0, bare), (7, full)]
  have hsink : sink = sink' := congrArg Prod.fst hwritten
  rw [hsink]
  refine ⟨?_, hread.trans (by decide +kernel), by decide, by decide, hfull,
    hfound (7, full) (by simp) hfull⟩
  rw [← hsink]
  decide +kernel

end Deposit

end DepositTrail
