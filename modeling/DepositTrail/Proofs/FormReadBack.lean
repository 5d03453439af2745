import DepositTrail.Proofs.Numerals
import DepositTrail.Proofs.Question
import DepositTrail.Proofs.HexDigits
import DepositTrail.Proofs.Utf8

set_option autoImplicit false

/-! # Forms and back

A form is read without any regard to how it was written: it falls into parameters at the
ampersands, a parameter into name and value at its first equals sign, and in both of them a plus
sign is a blank and a percent sign with two digits a byte. What is written for a byte has no
ampersand and no equals sign in it and is read as this byte (`Endpoint.percentDecode_formByte`), so
the form of any parameters is read back as these (`Endpoint.readForm?_form`): whatever one of them
holds, it changes none of the others.

The parameters of a page request stand at the end of its target, behind the endpoint's own path and
query, and an ampersand keeps them apart from a query that is not empty. So they are found there
again, and the target tells the whole request (`Client.parameters_read_back`).
-/

namespace DepositTrail

namespace Endpoint

/-! ## Reading forms -/

/-- In a form a plus sign stands for a blank. -/
def unplus (c : Char) : Char := if c = '+' then ' ' else c

/-- The text that a text in a form stands for, if its bytes are UTF-8. -/
def readFormText? (t : Text) : Option Text := Text.decode? (percentDecode (t.map unplus))

/-- Name and value of a parameter, which the first equals sign divides. -/
def readFormPair? (t : Text) : Option (Text × Text) := do
  let name ← readFormText? (t.takeWhile (· ≠ '='))
  let value ← readFormText? ((t.dropWhile (· ≠ '=')).drop 1)
  return (name, value)

/-- The parameters of a form. -/
def readForm? (t : Text) : Option (List (Text × Text)) := (t.splitOn '&').mapM readFormPair?

/-! ## Bytes -/

/-- What stands for itself in a form is a letter, a digit or one of four marks. -/
theorem ne_of_staysInForm {b : UInt8} (h : staysInForm b = true) {c : Char}
    (hc : (c.isAlphanum || ['*', '-', '.', '_'].contains c) = false) : Char.ofNat b.toNat ≠ c := by
  rintro rfl
  rw [staysInForm, hc, Bool.and_false] at h
  cases h

/-- The digits behind a percent sign are no marks, and have the value of the half byte. -/
theorem toUpper_digit {v : ℕ} (hv : v < 16) :
    Text.hexValue? (Hex.digit v).toUpper = some v ∧ (Hex.digit v).toUpper ≠ '&' ∧
      (Hex.digit v).toUpper ≠ '=' ∧ unplus (Hex.digit v).toUpper = (Hex.digit v).toUpper := by
  revert v
  decide

theorem ne_of_mem_formByte {b : UInt8} {c : Char} (h : c ∈ formByte b) : c ≠ '&' ∧ c ≠ '=' := by
  obtain ⟨-, hhigh, hlow⟩ := Hex.toNat_halves b
  unfold formByte at h
  split at h
  · rename_i hstays
    rw [List.mem_singleton.mp h]
    exact ⟨ne_of_staysInForm hstays (by decide), ne_of_staysInForm hstays (by decide)⟩
  · split at h
    · rw [List.mem_singleton.mp h]
      decide
    · simp only [percentByte, List.mem_cons, List.not_mem_nil, or_false] at h
      rcases h with rfl | rfl | rfl
      · decide
      · exact ⟨(toUpper_digit hhigh).2.1, (toUpper_digit hhigh).2.2.1⟩
      · exact ⟨(toUpper_digit hlow).2.1, (toUpper_digit hlow).2.2.1⟩

theorem percentDecode_cons_of_ne {c : Char} (h : c ≠ '%') (t : Text) :
    percentDecode (c :: t) = String.utf8EncodeChar c ++ percentDecode t := by
  rw [percentDecode]
  intro a b t' hc
  exact absurd hc h

/-- **A byte is read back** from what is written for it in a form, whatever comes behind. -/
theorem percentDecode_formByte (b : UInt8) (t : Text) :
    percentDecode ((formByte b ++ t).map unplus) = b :: percentDecode (t.map unplus) := by
  unfold formByte
  split
  · -- a character that stands for itself is its own byte
    rename_i hstays
    have hlt : b.toNat < 128 := by
      simp only [staysInForm, Bool.and_eq_true, decide_eq_true_eq] at hstays
      exact UInt8.lt_iff_toNat_lt.mp hstays.1
    have hplus : unplus (Char.ofNat b.toNat) = Char.ofNat b.toNat :=
      if_neg (ne_of_staysInForm hstays (by decide))
    have hbyte : String.utf8EncodeChar (Char.ofNat b.toNat) = [b] := by
      rw [Hex.utf8EncodeChar_of_lt (by rwa [Hex.toNat_ofByte]), Hex.toNat_ofByte,
        UInt8.ofNat_toNat]
    rw [List.singleton_append, List.map_cons, hplus,
      percentDecode_cons_of_ne (ne_of_staysInForm hstays (by decide)), hbyte]
    rfl
  · split
    · rename_i hblank
      subst hblank
      exact percentDecode_cons_of_ne (by decide) _
    · obtain ⟨hsum, hhigh, hlow⟩ := Hex.toNat_halves b
      obtain ⟨hx, -, -, hxplus⟩ := toUpper_digit hhigh
      obtain ⟨hy, -, -, hyplus⟩ := toUpper_digit hlow
      have hmark : unplus '%' = '%' := by decide
      simp only [percentByte, List.cons_append, List.nil_append, List.map_cons, hxplus, hyplus,
        hmark]
      rw [percentDecode, hx, hy]
      simp only [hsum, UInt8.ofNat_toNat]

/-! ## Texts and parameters -/

theorem notMem_formText (t : Text) : '&' ∉ formText t ∧ '=' ∉ formText t := by
  constructor
  all_goals
    intro h
    obtain ⟨b, -, hb⟩ := List.mem_flatMap.mp h
    have hne := ne_of_mem_formByte hb
    simp at hne

theorem percentDecode_bytes (bytes : List UInt8) :
    percentDecode ((bytes.flatMap formByte).map unplus) = bytes := by
  induction bytes with
  | nil => rfl
  | cons b bytes ih => rw [List.flatMap_cons, percentDecode_formByte, ih]

/-- **A text is read back** from what is written for it in a form. -/
theorem readFormText?_formText (t : Text) : readFormText? (formText t) = some t := by
  rw [readFormText?, formText, percentDecode_bytes, Text.decode?_utf8]

theorem readFormPair?_formPair (p : Text × Text) : readFormPair? (formPair p) = some p := by
  obtain ⟨name, value⟩ := p
  have hname : ∀ c ∈ formText name, decide (c ≠ '=') = true := by
    intro c hc
    exact decide_eq_true (ne_of_mem_of_not_mem hc (notMem_formText name).2)
  have hfront : (formPair (name, value)).takeWhile (· ≠ '=') = formText name := by
    rw [formPair, List.takeWhile_append_of_pos hname]
    simp
  have hback : ((formPair (name, value)).dropWhile (· ≠ '=')).drop 1 = formText value := by
    rw [formPair, List.dropWhile_append_of_pos hname]
    simp
  simp only [readFormPair?, hfront, hback, readFormText?_formText]
  rfl

theorem notMem_formPair (p : Text × Text) : '&' ∉ formPair p := by
  rw [formPair, List.mem_append, List.mem_cons]
  rintro (h | h | h)
  · exact (notMem_formText p.1).1 h
  · exact absurd h (by decide)
  · exact (notMem_formText p.2).1 h

/-- **The form of some parameters is read back** as these, whatever their names and values are. -/
theorem readForm?_form {ps : List (Text × Text)} (h : ps ≠ []) : readForm? (form ps) = some ps := by
  have hsplit : (form ps).splitOn '&' = ps.map formPair := by
    refine List.splitOn_intercalate '&' ?_ (by simpa using h)
    intro t ht
    obtain ⟨p, -, rfl⟩ := List.mem_map.mp ht
    exact notMem_formPair p
  have hpairs : (readFormPair? ∘ formPair) = fun p => pure (id p) := by
    funext p
    exact readFormPair?_formPair p
  rw [readForm?, hsplit, List.mapM_map, hpairs, List.mapM_pure, List.map_id]
  rfl

/-! ## Targets -/

/-- The beginning of every target: the endpoint's own path and query, up to where the parameters
follow. -/
def own (e : Endpoint) : Text := e.path ++ '?' :: (if e.query = [] then [] else e.query ++ ['&'])

theorem target_eq_own (e : Endpoint) (r : PageRequest) :
    e.target r = e.own ++ form (parameters r) := by
  simp [target, own, queryOf]

/-- The parameters tell the whole request. -/
theorem parameters_injective {r r' : PageRequest} (h : parameters r = parameters r') : r = r' := by
  obtain ⟨address, fromBlock, toBlock, page, offset, ⟨key⟩⟩ := r
  obtain ⟨address', fromBlock', toBlock', page', offset', ⟨key'⟩⟩ := r'
  simp only [parameters, List.cons.injEq, Prod.mk.injEq, true_and, and_true] at h
  obtain ⟨haddress, hfrom, hto, hpage, hoffset, hkey⟩ := h
  rw [haddress, Text.decimal_injective hfrom, Text.decimal_injective hto,
    Text.decimal_injective hpage, Text.decimal_injective hoffset,
    show key = key' from hkey]

end Endpoint

namespace Client

/-- Every target that is sent for a request is the one of the request. -/
theorem target?_eq_of_mem_targets {σ : Type} {client : Client} {course : Course σ}
    {r : PageRequest} {t : Text} (h : t ∈ client.targets (course.exchanges r)) :
    client.target? r = some t := by
  obtain ⟨x, hx, ht⟩ := List.mem_filterMap.mp h
  rwa [request_of_mem_exchanges (List.mem_filter.mp hx).1] at ht

/-- **Parameters are read back from the target.** Every target that is sent for a request begins
with the path and the query of the customer's address, and what follows them is a form: whatever
the address of the contract and the key are, it is read as the eight parameters of the request in
their order, each with its own value. So the same target is never sent for two different
requests. -/
theorem parameters_read_back {c : Config} {e : Endpoint}
    (he : Endpoint.read? c.apiUrl = some e) :
    (∀ r : PageRequest, ∃ added, (Client.ofConfig c).target? r = some (e.own ++ added) ∧
      Endpoint.readForm? added = some
        [("module".toList, "logs".toList), ("action".toList, "getLogs".toList),
          ("address".toList, r.address), ("fromBlock".toList, Text.decimal r.fromBlock),
          ("toBlock".toList, Text.decimal r.toBlock), ("page".toList, Text.decimal r.page),
          ("offset".toList, Text.decimal r.offset), ("apikey".toList, r.apiKey.reveal)]) ∧
    (∀ {σ : Type} (explorer : Explorer σ) (s : σ) (r : PageRequest),
      ∀ t ∈ (Client.ofConfig c).targets (((Client.ofConfig c).ask explorer r s).exchanges r),
        (Client.ofConfig c).target? r = some t) ∧
    ∀ r r' : PageRequest,
      (Client.ofConfig c).target? r = (Client.ofConfig c).target? r' → r = r' := by
  have htarget : ∀ r, (Client.ofConfig c).target? r
      = some (e.own ++ Endpoint.form (Endpoint.parameters r)) := by
    intro r
    rw [target?, ofConfig, he, Option.map_some, Endpoint.target_eq_own]
  have hform : ∀ r, Endpoint.readForm? (Endpoint.form (Endpoint.parameters r))
      = some (Endpoint.parameters r) := fun r => Endpoint.readForm?_form (List.cons_ne_nil _ _)
  refine ⟨fun r => ⟨_, htarget r, hform r⟩, fun explorer s r t ht => target?_eq_of_mem_targets ht,
    fun r r' h => ?_⟩
  rw [htarget, htarget, Option.some.injEq, List.append_cancel_left_eq] at h
  have hread := hform r
  rw [h, hform r', Option.some.injEq] at hread
  exact Endpoint.parameters_injective hread.symm

/-- An address with a query of its own, a contract with marks in its address, and a key with every
mark of a form in it. -/
theorem parameters_read_back_marks :
    let c := { Config.default [] with apiUrl := "https://h/api?a=b&c#d".toList }
    let e : Endpoint := ⟨"/api".toList, "a=b&c".toList⟩
    let r : PageRequest := ⟨"0x0&page=7".toList, 1, 2, 3, 4, ⟨"k=1&page=9 +%é#".toList⟩⟩
    Endpoint.read? c.apiUrl = some e ∧
      ∃ added, (Client.ofConfig c).target? r = some ("/api?a=b&c&".toList ++ added) ∧
        Endpoint.readForm? added = some
          [("module".toList, "logs".toList), ("action".toList, "getLogs".toList),
            ("address".toList, "0x0&page=7".toList), ("fromBlock".toList, "1".toList),
            ("toBlock".toList, "2".toList), ("page".toList, "3".toList),
            ("offset".toList, "4".toList), ("apikey".toList, "k=1&page=9 +%é#".toList)] := by
  intro c e r
  have he : Endpoint.read? c.apiUrl = some e := by decide +kernel
  have hown : e.own = "/api?a=b&c&".toList := by decide +kernel
  obtain ⟨added, htarget, hread⟩ := (parameters_read_back he).1 r
  rw [hown] at htarget
  exact ⟨he, added, htarget, hread.trans (by decide +kernel)⟩

end Client

end DepositTrail
