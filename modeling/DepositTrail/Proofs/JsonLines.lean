import DepositTrail.Proofs.DepositLines
import DepositTrail.Proofs.JsonTexts

set_option autoImplicit false

/-! # Lines of JSON

A written JSON value has no character below the space in it (`Json.le_of_mem_write`), and so no
end of a line, whatever its strings are. A record is written as an object; its line is read back as
an object with the six members of the record and no others. So the lines of some records are found
again and tell what is in the records, without any condition on the strings
(`DepositRecord.lines_read_back`).

The characters below the space are not all control characters. The others stand in a line as they
are.
-/

namespace DepositTrail

namespace Json

/-! ## Values on one line -/

theorem le_of_mem_writeChar (c : Char) : ∀ d ∈ writeChar c, ' ' ≤ d := by
  have hdigits : ∀ n < 0x20, ' ' ≤ escapeDigit (n / 16) ∧ ' ' ≤ escapeDigit n := by decide
  unfold writeChar
  split_ifs with hquote hescape hb ht hn hf hr hcontrol
  case neg => exact List.forall_mem_singleton.mpr (not_lt.mp hcontrol)
  all_goals simp_all

theorem le_of_mem_writeText (t : Text) : ∀ c ∈ writeText t, ' ' ≤ c := by
  rw [writeText, List.forall_mem_cons, List.forall_mem_append, List.forall_mem_singleton]
  refine ⟨by decide, ?_, by decide⟩
  intro d hd
  obtain ⟨c, -, h⟩ := List.mem_flatMap.mp hd
  exact le_of_mem_writeChar c d h

theorem le_of_mem_writeInt (n : ℤ) : ∀ c ∈ writeInt n, ' ' ≤ c := by
  have hdecimal : ∀ c ∈ Text.decimal n.natAbs, ' ' ≤ c := fun c hc =>
    le_of_lt ((isWord_decimal n.natAbs).visible c hc)
  unfold writeInt
  split_ifs
  · exact List.forall_mem_cons.mpr ⟨by decide, hdecimal⟩
  · exact hdecimal

theorem le_of_mem_writeItems {items : List Json} (h : ∀ v ∈ items, ∀ c ∈ write v, ' ' ≤ c) :
    ∀ c ∈ writeItems items, ' ' ≤ c := by
  induction items with
  | nil => exact List.forall_mem_singleton.mpr (by decide)
  | cons v items ih =>
      obtain ⟨hv, hitems⟩ := List.forall_mem_cons.mp h
      rw [writeItems, List.forall_mem_cons, List.forall_mem_append]
      exact ⟨by decide, hv, ih hitems⟩

theorem le_of_mem_writeMembers {members : List (Text × Json)}
    (h : ∀ m ∈ members, ∀ c ∈ write m.2, ' ' ≤ c) : ∀ c ∈ writeMembers members, ' ' ≤ c := by
  induction members with
  | nil => exact List.forall_mem_singleton.mpr (by decide)
  | cons m members ih =>
      obtain ⟨k, v⟩ := m
      obtain ⟨hv, hmembers⟩ := List.forall_mem_cons.mp h
      rw [writeMembers, List.forall_mem_cons, List.forall_mem_append, List.forall_mem_cons,
        List.forall_mem_append]
      exact ⟨by decide, le_of_mem_writeText k, by decide, hv, ih hmembers⟩

/-- **A written value** has no character below the space in it. -/
theorem le_of_mem_write {depth : ℕ} {v : Json} (h : Plain depth v) :
    ∀ c ∈ write v, ' ' ≤ c := by
  induction h with
  | null => simp [write]
  | bool b => cases b <;> simp [write]
  | @int _ n _ => exact le_of_mem_writeInt n
  | str t => exact le_of_mem_writeText t
  | @arr _ items _ ih =>
      cases items with
      | nil => simp [write]
      | cons v items =>
          obtain ⟨hv, hitems⟩ := List.forall_mem_cons.mp ih
          rw [write, List.forall_mem_cons, List.forall_mem_append]
          exact ⟨by decide, hv, le_of_mem_writeItems hitems⟩
  | @obj _ members _ ih =>
      cases members with
      | nil => simp [write]
      | cons m members =>
          obtain ⟨k, v⟩ := m
          obtain ⟨hv, hmembers⟩ := List.forall_mem_cons.mp ih
          rw [write, List.forall_mem_cons, List.forall_mem_append, List.forall_mem_cons,
            List.forall_mem_append]
          exact ⟨by decide, le_of_mem_writeText k, by decide, hv, le_of_mem_writeMembers hmembers⟩

end Json

/-! ## Records as objects -/

/-- The control characters: those below the space, and those from U+007F to U+009F. -/
def IsControl (c : Char) : Prop := c < ' ' ∨ '\x7f' ≤ c ∧ c ≤ '\u009f'

namespace DepositRecord

open Json (member?)

/-- An object that has what is in a record, and nothing else. -/
structure Shown (r : DepositRecord) (members : List (Text × Json)) : Prop where
  keys : (members.map Prod.fst).Perm
    ["block".toList, "pubkey".toList, "withdrawal_credentials".toList, "amount_gwei".toList,
      "signature".toList, "index".toList]
  block : member? "block".toList members = some (.int r.block.toNat)
  pubkey : member? "pubkey".toList members = some (.str r.pubkey)
  withdrawalCredentials :
    member? "withdrawal_credentials".toList members = some (.str r.withdrawalCredentials)
  amountGwei : member? "amount_gwei".toList members
    = some (r.amountGwei.elim .null fun n => .int n.toNat)
  signature : member? "signature".toList members = some (.str r.signature)
  index : member? "index".toList members = some (r.index.elim .null fun n => .int n.toNat)

theorem fits_toNat (n : UInt64) : Json.Fits n.toNat := by
  have hlt := n.toNat_lt
  constructor
  · omega
  · exact_mod_cast hlt

theorem jsonNumber_eq (n : Option UInt64) : jsonNumber n = n.elim .null fun n => .int n.toNat := by
  cases n <;> rfl

theorem plain_jsonNumber (n : Option UInt64) (depth : ℕ) : Json.Plain depth (jsonNumber n) := by
  cases n with
  | none => exact .null
  | some n => exact .int (fits_toNat n)

variable (r : DepositRecord)

theorem plain_members : Json.Plain Json.nestingLimit (.obj r.members) := by
  refine .obj ?_
  simp only [members, List.forall_mem_cons]
  exact ⟨.int (fits_toNat _), .str _, .str _, plain_jsonNumber _ _, .str _, plain_jsonNumber _ _,
    nofun⟩

/-- A line of JSON has no character below the space in it. -/
theorem le_of_mem_body : ∀ c ∈ r.body .jsonLines, ' ' ≤ c :=
  Json.le_of_mem_write r.plain_members

/-- The members of a record in the order of their keys. -/
def ordered : List (Text × Json) :=
  [("amount_gwei".toList, jsonNumber r.amountGwei), ("block".toList, .int r.block.toNat),
    ("index".toList, jsonNumber r.index), ("pubkey".toList, .str r.pubkey),
    ("signature".toList, .str r.signature),
    ("withdrawal_credentials".toList, .str r.withdrawalCredentials)]

theorem normal_members : (Json.obj r.members).normal = .obj r.ordered := by
  have hnumber : ∀ n, (jsonNumber n).normal = jsonNumber n := fun n => by cases n <;> rfl
  simp only [Json.normal, members, Json.normalMembers, hnumber]
  rfl

theorem shown_ordered : r.Shown r.ordered where
  keys := by
    have hkeys : r.ordered.map Prod.fst
        = ["amount_gwei".toList, "block".toList, "index".toList, "pubkey".toList,
            "signature".toList, "withdrawal_credentials".toList] := rfl
    rw [hkeys]
    decide +kernel
  block := rfl
  pubkey := rfl
  withdrawalCredentials := rfl
  amountGwei := congrArg some (jsonNumber_eq r.amountGwei)
  signature := rfl
  index := congrArg some (jsonNumber_eq r.index)

/-- **A line of JSON is read back** as an object with what is in the record. -/
theorem read_body : Json.read (r.body .jsonLines) = .ok (.obj r.ordered) := by
  rw [← normal_members]
  exact Json.read_write r.plain_members

/-! ## All together -/

/-- **Lines of JSON are read back.** Whatever is in some records, all their lines are written, and
what was written is a text that falls into one line for each record, with nothing behind the last
one. A line has no character below the space in it, and so no other end of a line than its own; it
is read as an object that has what is in its record and nothing else. -/
theorem lines_read_back (rs : List DepositRecord) :
    ∃ sink t lines,
      writeAll .jsonLines rs Sink.unlimited = (sink, .ok ()) ∧
      Text.decode? sink.taken = some t ∧ t.splitOn '\n' = lines ++ [[]] ∧
      List.Forall₂ (fun line r => r.line .jsonLines = line ++ ['\n'] ∧ (∀ c ∈ line, ' ' ≤ c) ∧
        ∃ members, Json.read line = .ok (.obj members) ∧ Shown r members) lines rs := by
  refine ⟨_, _, _, writeAll_unlimited .jsonLines rs, Text.decode?_utf8 _,
    splitOn_text .jsonLines ?_, ?_⟩
  · intro r _ h
    exact absurd (r.le_of_mem_body '\n' h) (by decide)
  · rw [List.forall₂_map_left_iff, List.forall₂_same]
    intro r _
    exact ⟨r.line_eq .jsonLines, r.le_of_mem_body, r.ordered, r.read_body, r.shown_ordered⟩

/-- The character U+007F is a control character that is written as it is. -/
theorem line_with_control_character :
    let r : DepositRecord := ⟨1, ['\x7f'], ['0', 'x'], none, ['0', 'x'], none⟩
    ¬ ∃ line, (writeAll .jsonLines [r] Sink.unlimited).1.taken = Text.utf8 (line ++ ['\n']) ∧
      ∀ c ∈ line, ¬ IsControl c := by
  intro r
  rintro ⟨line, htaken, hline⟩
  rw [writeAll_unlimited] at htaken
  have htext : text .jsonLines [r] = line ++ ['\n'] := Text.utf8_injective htaken
  have hmem : '\x7f' ∈ line ++ ['\n'] := by
    rw [← htext]
    decide +kernel
  rcases List.mem_append.mp hmem with h | h
  · exact hline _ h (.inr (by decide))
  · exact absurd h (by decide)

end DepositRecord

end DepositTrail
