import DepositTrail.Envelope
import DepositTrail.Proofs.ObjectMembers
import DepositTrail.Proofs.JsonTexts

set_option autoImplicit false

/-! # Bodies that are objects

The explorer may give the members of its object in any order, with members of other keys among
them, and may write blanks and strings as it likes. None of this changes what is read
(`Envelope.read_object`).

The reader goes from member to member with a draft. Whatever the values are, it has marked a field
in the draft just as often as the field has come (`Draft.Marks`), so what is read in the end has
its status and no field twice. Where the members that have come say what is in an envelope, the
draft has this and nothing else (`Draft.saying`), and the reader finds no problem.
-/

namespace DepositTrail.Envelope

open Json (Token)

/-! ## Fields -/

/-- The key of a field. -/
def Field.key (f : Field) : Text := f.name.toList

theorem Field.ofKey?_key (f : Field) : Field.ofKey? f.key = some f := by
  cases f <;> rfl

theorem Field.ofKey?_eq_some_iff {key : Text} {f : Field} :
    Field.ofKey? key = some f ↔ key = f.key := by
  constructor
  · intro h
    unfold Field.ofKey? at h
    split_ifs at h with hstatus hmessage hresult
    all_goals
      cases h
      assumption
  · rintro rfl
    exact f.ofKey?_key

/-- How many of the members are of a field. -/
def times (f : Field) (members : List Json.Member) : ℕ := (members.map Json.Member.key).count f.key

theorem times_append (f : Field) (front back : List Json.Member) :
    times f (front ++ back) = times f front + times f back := by
  rw [times, List.map_append, List.count_append, times, times]

theorem times_concat (f : Field) (seen : List Json.Member) (m : Json.Member) :
    times f (seen ++ [m]) = times f seen + if Field.ofKey? m.key = some f then 1 else 0 := by
  rw [times_append]
  simp [times, List.count_singleton, Field.ofKey?_eq_some_iff]

/-! ## Values -/

theorem exists_of_map_eq_ok {α β : Type} {f : α → β} {x : Except Problem α} {b : β}
    (h : x.map f = .ok b) : ∃ a, x = .ok a ∧ f a = b := by
  cases x with
  | error p => cases h
  | ok a => exact ⟨a, rfl, Except.ok.inj h⟩

theorem value_of_takeText {ks ts : List Token} {t : Text}
    (h : takeText ks = .ok (t, ts)) : Json.value 126 [] ks = .ok (.str t, ts) := by
  unfold takeText at h
  split at h
  all_goals cases h
  rw [Json.value, Json.close]

theorem value_of_takeResult {ks ts : List Token} {v : Json}
    (h : takeResult ks = .ok (v, ts)) : Json.value 126 [] ks = .ok (v, ts) := by
  unfold takeResult at h
  split at h
  · cases h
    assumption
  · cases h

theorem takeText_str (t : Text) (ts : List Token) :
    takeText (Json.tokensOf (.str t) ++ ts) = .ok (t, ts) := rfl

theorem takeResult_tokensOf {v : Json} (h : Json.Plain 126 v) (ts : List Token) :
    takeResult (Json.tokensOf v ++ ts) = .ok (v.normal, ts) := by
  have htakes : Json.value 126 [] (Json.tokensOf v ++ ts) = Json.close 126 v.normal [] ts :=
    Json.value_tokensOf h [] ts (le_refl _)
  rw [takeResult, Json.nestingLimit, htakes, Json.close]

/-! ## One member -/

section Member

variable {d : Draft} {key : Text} {vs : List Token} {f : Field}

theorem takeMember_unknown (hkey : Field.ofKey? key = none) (hvs : Json.Whole vs)
    (ts : List Token) : takeMember d (Json.member (.ok key) vs ++ ts) = .ok (d, ts) := by
  have hpass : passValue (vs ++ ts) = .ok ts := by
    rw [passValue, hvs.passed, Json.passed]
  simp only [Json.member, List.cons_append, takeMember, hkey, takeColon, bind, Except.bind, hpass,
    pure, Except.pure]

theorem takeMember_twice (hkey : Field.ofKey? key = some f) (hf : d.has f = true)
    (ts : List Token) : takeMember d (Json.member (.ok key) vs ++ ts) = .error (.twice f) := by
  simp only [Json.member, List.cons_append, takeMember, hkey, if_pos hf]

/-- What is done with the value of a field that has not come before. -/
def takeField (d : Draft) : Field → List Token → Except Problem (Draft × List Token)
  | .status, ts => (takeText ts).map fun r => ({ d with status := some r.1 }, r.2)
  | .message, ts => (takeText ts).map fun r => ({ d with message := some r.1 }, r.2)
  | .result, ts => (takeResult ts).map fun r => ({ d with result := some r.1 }, r.2)

theorem takeMember_known (hkey : Field.ofKey? key = some f) (hf : d.has f = false)
    (ts : List Token) :
    takeMember d (Json.member (.ok key) vs ++ ts) = takeField d f (vs ++ ts) := by
  simp only [Json.member, List.cons_append, takeMember, hkey, hf, takeColon]
  cases f
  all_goals rfl

/-- A field is taken to the end of its value, and is the only one that is new. -/
theorem takeField_whole (hvs : Json.Whole vs) {ts : List Token} {r : Draft × List Token}
    (h : takeField d f (vs ++ ts) = .ok r) :
    r.2 = ts ∧ ∀ g, r.1.has g = (d.has g || decide (f = g)) := by
  cases f with
  | status | message =>
      obtain ⟨r', htake, rfl⟩ := exists_of_map_eq_ok h
      refine ⟨hvs.rest_eq (value_of_takeText htake), fun g => ?_⟩
      cases g <;> simp [Draft.has]
  | result =>
      obtain ⟨r', htake, rfl⟩ := exists_of_map_eq_ok h
      refine ⟨hvs.rest_eq (value_of_takeResult htake), fun g => ?_⟩
      cases g <;> simp [Draft.has]

end Member

/-! ## What is read has each field once -/

/-- A field has been read as often as it has come, and so not twice. -/
def Draft.Marks (d : Draft) (seen : List Json.Member) : Prop :=
  ∀ f, times f seen = (d.has f).toNat

theorem has_status_of_finish {d : Draft} {e : Envelope} (h : d.finish = .ok e) :
    d.has .status = true := by
  unfold Draft.finish at h
  split at h
  · cases h
  · rename_i hstatus
    rw [Draft.has, hstatus]
    rfl

/-- What one member does to the marks. -/
theorem takeMember_marks {d : Draft} {seen : List Json.Member} (hd : d.Marks seen)
    {m : Json.Member} {ks : List Token} (hks : Json.IsCutOf m ks) {ts : List Token}
    {r : Draft × List Token} (h : takeMember d (ks ++ ts) = .ok r) :
    r.2 = ts ∧ r.1.Marks (seen ++ [m]) := by
  obtain ⟨vs, rfl, hvs, -⟩ := hks
  cases hkey : Field.ofKey? m.key with
  | none =>
      rw [takeMember_unknown hkey hvs] at h
      cases h
      refine ⟨rfl, fun f => ?_⟩
      rw [times_concat, hkey, hd f]
      simp
  | some f =>
      cases hf : d.has f with
      | true =>
          rw [takeMember_twice hkey hf] at h
          cases h
      | false =>
          -- the value is taken to its end, whatever it is
          rw [takeMember_known hkey hf] at h
          obtain ⟨hrest, hhas⟩ := takeField_whole hvs h
          refine ⟨hrest, fun g => ?_⟩
          rw [times_concat, hkey, hd g, hhas g]
          by_cases hg : f = g
          · subst hg
            simp [hf]
          · simp [hg]

/-- What is read in the end comes from a draft with the marks of all members. -/
theorem takeMembers_marks {members : List Json.Member} {kss : List (List Token)}
    (h : List.Forall₂ Json.IsCutOf members kss) {fuel : ℕ} {d : Draft} {seen : List Json.Member}
    (hd : d.Marks seen) {ts : List Token} {r : Envelope × List Token}
    (hr : takeMembers fuel d (kss.flatMap (.comma :: ·) ++ .closeObject :: ts) = .ok r) :
    ∃ d' : Draft, d'.Marks (seen ++ members) ∧ d'.finish = .ok r.1 := by
  induction h generalizing fuel d seen with
  | nil =>
      rw [List.flatMap_nil, List.nil_append, takeMembers] at hr
      obtain ⟨e, hfinish, rfl⟩ := exists_of_map_eq_ok hr
      exact ⟨d, by rwa [List.append_nil], hfinish⟩
  | @cons m ks members kss hm _ ih =>
      rw [List.flatMap_cons, List.append_assoc, List.cons_append] at hr
      cases fuel with
      | zero => simp [takeMembers] at hr
      | succ fuel =>
          rw [takeMembers] at hr
          cases hmember : takeMember d
              (ks ++ (kss.flatMap (.comma :: ·) ++ .closeObject :: ts)) with
          | error p => simp [hmember, bind, Except.bind] at hr
          | ok r' =>
              obtain ⟨hrest, hnext⟩ := takeMember_marks hd hm hmember
              obtain ⟨d', rest⟩ := r'
              subst hrest
              rw [hmember] at hr
              obtain ⟨d'', hmarks, hfinish⟩ := ih hnext hr
              rw [List.append_assoc] at hmarks
              exact ⟨d'', hmarks, hfinish⟩

/-! ## What the members say is read -/

/-- The value of a field. -/
def Field.value (e : Envelope) : Field → Json
  | .status => .str e.status
  | .message => .str e.message
  | .result => e.result

/-- A member that is of a field has the text of its value. -/
def Says (e : Envelope) (m : Json.Member) : Prop :=
  ∀ f : Field, m.key = f.key → Json.IsTextOf (f.value e) m.valueText

/-- What has been read after members that say what is in an envelope. -/
def Draft.saying (e : Envelope) (seen : List Json.Member) : Draft where
  status := if times .status seen = 0 then none else some e.status
  message := if times .message seen = 0 then none else some e.message
  result := if times .result seen = 0 then none else some e.result.normal

theorem has_saying (e : Envelope) (seen : List Json.Member) (f : Field) :
    (Draft.saying e seen).has f = decide (times f seen ≠ 0) := by
  cases f
  all_goals
    simp only [Draft.has, Draft.saying]
    split_ifs with h <;> simp [h]

theorem finish_saying {e : Envelope} {seen : List Json.Member} (h : times .status seen ≠ 0) :
    (Draft.saying e seen).finish
      = .ok ⟨e.status, if times .message seen = 0 then [] else e.message,
          if times .result seen = 0 then .null else e.result.normal⟩ := by
  simp only [Draft.finish, Draft.saying, if_neg h]
  split_ifs <;> rfl

theorem takeField_told {e : Envelope} (he : Json.Plain 126 e.result) {seen : List Json.Member}
    {m : Json.Member} {f : Field} (hkey : Field.ofKey? m.key = some f) (ts : List Token) :
    takeField (Draft.saying e seen) f (Json.tokensOf (f.value e) ++ ts)
      = .ok (Draft.saying e (seen ++ [m]), ts) := by
  cases f with
  | status | message =>
      rw [takeField, Field.value, takeText_str]
      simp [Except.map, Draft.saying, times_concat, hkey]
  | result =>
      rw [takeField, Field.value, takeResult_tokensOf he]
      simp [Except.map, Draft.saying, times_concat, hkey]

theorem takeMember_told {e : Envelope} (he : Json.Plain 126 e.result) (seen : List Json.Member)
    {m : Json.Member} (hm : Says e m) (honce : ∀ f, times f (seen ++ [m]) ≤ 1)
    {ks : List Token} (hks : Json.IsCutOf m ks) (ts : List Token) :
    takeMember (Draft.saying e seen) (ks ++ ts) = .ok (Draft.saying e (seen ++ [m]), ts) := by
  obtain ⟨vs, rfl, hvs, hvalue⟩ := hks
  cases hkey : Field.ofKey? m.key with
  | none =>
      rw [takeMember_unknown hkey hvs]
      simp [Draft.saying, times_concat, hkey]
  | some f =>
      have hplain : Json.Plain 126 (f.value e) := by
        cases f with
        | status | message => exact .str _
        | result => exact he
      obtain rfl := hvalue 126 _ hplain (hm f (Field.ofKey?_eq_some_iff.mp hkey))
      -- it comes now, and not twice, so it has not come before
      have hfirst : times f seen = 0 := by
        have hf := honce f
        rw [times_concat, hkey, if_pos rfl] at hf
        omega
      rw [takeMember_known hkey (by simp [has_saying, hfirst]), takeField_told he hkey]

theorem takeMembers_told {e : Envelope} (he : Json.Plain 126 e.result)
    {members : List Json.Member} {kss : List (List Token)}
    (h : List.Forall₂ Json.IsCutOf members kss) (htold : ∀ m ∈ members, Says e m)
    (seen : List Json.Member) (honce : ∀ f, times f (seen ++ members) ≤ 1) {fuel : ℕ}
    (hfuel : kss.length ≤ fuel) (ts : List Token) :
    takeMembers fuel (Draft.saying e seen) (kss.flatMap (.comma :: ·) ++ .closeObject :: ts)
      = (Draft.saying e (seen ++ members)).finish.map (·, ts) := by
  induction h generalizing fuel seen with
  | nil => rw [List.flatMap_nil, List.nil_append, takeMembers, List.append_nil]
  | @cons m ks members kss hm _ ih =>
      obtain ⟨hfirst, hrest⟩ := List.forall_mem_cons.mp htold
      rw [List.append_cons seen] at honce ⊢
      have hseen : ∀ f, times f (seen ++ [m]) ≤ 1 := by
        intro f
        have hf := honce f
        rw [times_append] at hf
        omega
      cases fuel with
      | zero => simp at hfuel
      | succ fuel =>
          rw [List.flatMap_cons, List.cons_append, List.cons_append, List.append_assoc ks,
            takeMembers, takeMember_told he seen hfirst hseen hm]
          exact ih hrest (seen ++ [m]) honce (Nat.le_of_succ_le_succ hfuel)

/-! ## Whole bodies -/

theorem length_le_flatMap (kss : List (List Token)) (ts : List Token) :
    kss.length ≤ (kss.flatMap (.comma :: ·) ++ ts).length := by
  induction kss with
  | nil => simp
  | cons ks kss ih =>
      simp only [List.length_append, List.flatMap_cons, List.length_cons] at *
      omega

theorem take_row {m : Json.Member} {ks : List Token} (hks : Json.IsCutOf m ks)
    (kss : List (List Token)) :
    take (Json.tokenRow .openObject .closeObject (ks :: kss))
      = (takeMember ⟨none, none, none⟩ (ks ++ (kss.flatMap (.comma :: ·) ++ [.closeObject]))).bind
          fun r => takeMembers r.2.length r.1 r.2 := by
  obtain ⟨vs, rfl, -⟩ := hks
  rfl

theorem take_told {e : Envelope} (he : Json.Plain 126 e.result) {members : List Json.Member}
    {kss : List (List Token)} (h : List.Forall₂ Json.IsCutOf members kss)
    (htold : ∀ m ∈ members, Says e m) (hstatus : times .status members ≠ 0)
    (honce : ∀ f, times f members ≤ 1) :
    take (Json.tokenRow .openObject .closeObject kss)
      = .ok (⟨e.status, if times .message members = 0 then [] else e.message,
          if times .result members = 0 then .null else e.result.normal⟩, []) := by
  cases h with
  | nil => exact absurd rfl hstatus
  | @cons m ks members kss hm hmembers =>
      obtain ⟨hfirst, hrest⟩ := List.forall_mem_cons.mp htold
      have hone : ∀ f, times f [m] ≤ 1 := fun f => List.count_le_length
      -- before the first member the draft says what no members say
      have hempty : Draft.saying e [] = ⟨none, none, none⟩ := rfl
      rw [take_row hm, ← hempty, takeMember_told he [] hfirst hone hm]
      refine (takeMembers_told he hmembers hrest [m] honce (length_le_flatMap kss _) []).trans ?_
      rw [List.singleton_append, finish_saying hstatus]
      rfl

/-- What is read has the status, and no field twice. -/
theorem take_marks {members : List Json.Member} {kss : List (List Token)}
    (h : List.Forall₂ Json.IsCutOf members kss) {r : Envelope × List Token}
    (hr : take (Json.tokenRow .openObject .closeObject kss) = .ok r) :
    times .status members ≠ 0 ∧ ∀ f, times f members ≤ 1 := by
  cases h with
  | nil => cases hr
  | @cons m ks members kss hm hmembers =>
      have hempty : Draft.Marks ⟨none, none, none⟩ [] := by
        intro f
        cases f <;> rfl
      rw [take_row hm] at hr
      cases hmember : takeMember ⟨none, none, none⟩
          (ks ++ (kss.flatMap (.comma :: ·) ++ [.closeObject])) with
      | error p =>
          rw [hmember] at hr
          cases hr
      | ok r' =>
          obtain ⟨hrest, hnext⟩ := takeMember_marks hempty hm hmember
          obtain ⟨d, rest⟩ := r'
          subst hrest
          rw [hmember] at hr
          obtain ⟨d', hmarks, hfinish⟩ := takeMembers_marks hmembers hnext hr
          rw [List.nil_append, List.singleton_append] at hmarks
          refine ⟨?_, fun f => ?_⟩
          · rw [hmarks .status, has_status_of_finish hfinish]
            decide
          · rw [hmarks f]
            exact Bool.toNat_le _

/-- **A body that is an object** is read field by field: if it has the status and no field twice,
it is read as what its members say, with an empty message and no result where these are missing.
If it has no status, or some field twice, it is not read. -/
theorem read_object {members : List Json.Member} {body : Text}
    (hbody : Json.IsObject members body) :
    (∀ e : Envelope, Json.Plain 126 e.result → (∀ m ∈ members, Says e m) →
      times .status members ≠ 0 → (∀ f, times f members ≤ 1) →
      ∃ result, read body
          = .ok ⟨e.status, if times .message members = 0 then [] else e.message, result⟩ ∧
        Json.Same (if times .result members = 0 then .null else e.result) result) ∧
    (times .status members = 0 ∨ (∃ f, 2 ≤ times f members) → ∃ p, read body = .error p) := by
  obtain ⟨kss, hkss, htokens⟩ := hbody.tokens
  constructor
  · intro e he htold hstatus honce
    refine ⟨_, by rw [read, htokens, take_told he hkss htold hstatus honce], ?_⟩
    split_ifs
    · exact .refl _
    · exact he.same_normal
  · intro hnot
    cases htake : take (Json.tokenRow .openObject .closeObject kss) with
    | error p => exact ⟨p, by rw [read, htokens, htake]⟩
    | ok r =>
        obtain ⟨hstatus, honce⟩ := take_marks hkss htake
        rcases hnot with hnone | ⟨f, htwice⟩
        · exact absurd hnone hstatus
        · exact absurd (honce f) (Nat.not_le.mpr htwice)

/-! ## A body with escapes -/

/-- A member of no field, with a number that cannot be kept and a half without the other. -/
def strangeNote : Json.Member :=
  ⟨"note".toList, Json.writeText "note".toList,
    ['[', '1', 'e', '9', '9', '9', ',', '"', '\\', 'u', 'd', '8', '0', '0', '"', ']']⟩

/-- A status with an escape in its key, blanks, and a pair of halves in its text. -/
def escapedStatus : Json.Member :=
  ⟨"status".toList,
    ['"', '\\', 'u', '0', '0', '7', '3', 't', 'a', 't', 'u', 's', '"', ' '],
    ['\x09', '"', '1', '\\', 'u', 'd', '8', '3', 'd', '\\', 'u', 'D', 'E', '0', '0', '"']⟩

/-- A result that has one key twice. -/
def repeatedResult : Json.Member :=
  ⟨"result".toList, Json.writeText "result".toList,
    ['\x7b', '"', 'a', '"', ':', '1', ',', '"', 'a', '"', ':', '[', ']', '\x7d']⟩

/-- What these members say. -/
def escapedEnvelope : Envelope :=
  ⟨['1', '😀'], [], .obj [(['a'], .int 1), (['a'], .arr [])]⟩

theorem plain_escapedEnvelope : Json.Plain 126 escapedEnvelope.result := by
  have hone : Json.Fits 1 := ⟨by decide, by decide⟩
  refine .obj (List.forall_mem_cons.mpr ⟨.int hone, List.forall_mem_singleton.mpr ?_⟩)
  exact .arr (List.forall_mem_nil _)

theorem says_escapedStatus : Says escapedEnvelope escapedStatus := by
  intro f hf
  cases f with
  | status =>
      have hhigh : Json.IsQuad 0xd83d ['d', '8', '3', 'd'] :=
        ⟨rfl, [13, 8, 3, 13], by simp [Text.IsDigitOf], rfl⟩
      have hlow : Json.IsQuad 0xde00 ['D', 'E', '0', '0'] :=
        ⟨rfl, [13, 14, 0, 0], by simp [Text.IsDigitOf], rfl⟩
      have hstring : Json.IsStringOf ['1', '😀'] _ :=
        ⟨_, .cons (.self (by decide) (by decide) (by decide))
          (.cons (.pair (by decide) hhigh hlow) .nil), rfl⟩
      have hblank : Json.IsBlank ['\x09'] := List.forall_mem_singleton.mpr (by decide)
      exact .amid hblank (.str hstring) (List.forall_mem_nil _)
  | message | result => exact absurd hf (by decide)

theorem says_repeatedResult : Says escapedEnvelope repeatedResult := by
  intro f hf
  cases f with
  | result => exact Json.isTextOf_write plain_escapedEnvelope
  | message | status => exact absurd hf (by decide)

theorem says_strangeNote : Says escapedEnvelope strangeNote := by
  intro f hf
  cases f
  all_goals exact absurd hf (by decide)

theorem isText_strangeNote : Json.IsText strangeNote.valueText := by
  have hone : Json.IsDigits ['1'] := ⟨by decide, List.forall_mem_singleton.mpr (by decide)⟩
  have hnines : Json.IsDigits ['9', '9', '9'] := ⟨by decide, by simp⟩
  have hexponent : Json.IsExponent ['e', '9', '9', '9'] :=
    .inr ⟨'e', [], _, .inl rfl, .inl rfl, hnines, rfl⟩
  have hnumber : Json.IsNumber ['1', 'e', '9', '9', '9'] :=
    ⟨[], _, [], _, .inl rfl, hone, by decide, .inl rfl, hexponent, rfl⟩
  have hstring : Json.IsString ['"', '\\', 'u', 'd', '8', '0', '0', '"'] := by
    have hquad : Json.IsQuad 0xd800 ['d', '8', '0', '0'] :=
      ⟨rfl, [13, 8, 0, 0], by simp [Text.IsDigitOf], rfl⟩
    exact ⟨[_], List.forall_mem_singleton.mpr (.number hquad), rfl⟩
  have hitems : ∀ item ∈ [['1', 'e', '9', '9', '9'], _], Json.IsText item :=
    List.forall_mem_cons.mpr ⟨.number hnumber, List.forall_mem_singleton.mpr (.string hstring)⟩
  exact .list hitems (.full _ _)

theorem amid_escapedStatus :
    Json.Amid (Json.IsStringOf escapedStatus.key) escapedStatus.keyText := by
  have hquad : Json.IsQuad 's'.toNat ['0', '0', '7', '3'] :=
    ⟨rfl, [0, 0, 7, 3], by simp [Text.IsDigitOf], rfl⟩
  have hstring : Json.IsStringOf ['s', 't', 'a', 't', 'u', 's'] _ :=
    ⟨_, .cons (.number hquad) (Json.forall₂_writeChar _), rfl⟩
  exact ⟨[], _, [' '], nofun, hstring, List.forall_mem_singleton.mpr (by decide), rfl⟩

/-- The three members as one object. -/
def escapedBody : Text :=
  "\x7b\"note\":[1e999,\"\\ud800\"],\"\\u0073tatus\" :\x09\"1\\ud83d\\uDE00\",".toList ++
    "\"result\":\x7b\"a\":1,\"a\":[]\x7d\x7d\x0a".toList

theorem isObject_escapedBody :
    Json.IsObject [strangeNote, escapedStatus, repeatedResult] escapedBody where
  keys := by
    simp only [List.forall_mem_cons]
    exact ⟨Json.amid_of (Json.isStringOf_writeText _), amid_escapedStatus,
      Json.amid_of (Json.isStringOf_writeText _), List.forall_mem_nil _⟩
  values := by
    simp only [List.forall_mem_cons]
    exact ⟨isText_strangeNote, (says_escapedStatus .status rfl).isText,
      (says_repeatedResult .result rfl).isText, List.forall_mem_nil _⟩
  row := ⟨[], _, ['\x0a'], nofun, .full _ _, List.forall_mem_singleton.mpr (by decide), by decide⟩

theorem isObject_twice : Json.IsObject [escapedStatus, escapedStatus]
    ('\x7b' :: (escapedStatus.text ++ ',' :: (escapedStatus.text ++ ['\x7d']))) where
  keys := by
    simp only [List.forall_mem_cons]
    exact ⟨amid_escapedStatus, amid_escapedStatus, List.forall_mem_nil _⟩
  values := by
    have hvalue := (says_escapedStatus .status rfl).isText
    simp only [List.forall_mem_cons]
    exact ⟨hvalue, hvalue, List.forall_mem_nil _⟩
  row := Json.amid_of (.full _ _)

/-- A body with escapes, blanks and a key twice in the result is read, and a body that gives the
status twice is not. -/
theorem read_object_escaped :
    (∃ result, read escapedBody = .ok ⟨['1', '😀'], [], result⟩ ∧
      Json.Same (.obj [(['a'], .int 1), (['a'], .arr [])]) result) ∧
    ∃ p, read ('\x7b' :: (escapedStatus.text ++ ',' :: (escapedStatus.text ++ ['\x7d'])))
      = .error p := by
  constructor
  · have htold : ∀ m ∈ [strangeNote, escapedStatus, repeatedResult], Says escapedEnvelope m := by
      simp only [List.forall_mem_cons]
      exact ⟨says_strangeNote, says_escapedStatus, says_repeatedResult, List.forall_mem_nil _⟩
    have honce : ∀ f, times f [strangeNote, escapedStatus, repeatedResult] ≤ 1 := by
      intro f
      cases f <;> decide
    exact (read_object isObject_escapedBody).1 escapedEnvelope plain_escapedEnvelope htold
      (by decide) honce
  · exact (read_object isObject_twice).2 (.inr ⟨.status, by decide⟩)

end DepositTrail.Envelope
