import DepositTrail.Proofs.SkippedValues
import DepositTrail.Proofs.JsonSpelling

set_option autoImplicit false

/-! # Texts of JSON values

Which texts are JSON is said by a grammar: a value is a word, a number or a string, or a row of
values between brackets, and blanks may stand around each of them (`Json.IsText`). Many texts
stand for one value; a second grammar says which ones (`Json.IsTextOf`). Neither mentions how
texts are read, and the second is a part of the first (`Json.IsTextOf.isText`).

A text of JSON's grammar is cut into the tokens of one whole value (`Json.IsText.cuts`), and a text
of a value into the tokens of this value (`Json.IsTextOf.cuts`). Both follow the grammar, with one
lemma for all rows (`Json.cuts_row`) and one for the members of objects (`Json.cuts_member`). So
every text of a value is read as this value (`Json.IsTextOf.read`). What is written for a value is
one of its texts (`Json.isTextOf_write`), hence read back (`Json.read_write`).
-/

namespace DepositTrail.Json

/-! ## Blanks and rows -/

/-- Blanks, and nothing else. -/
def IsBlank (t : Text) : Prop := ∀ c ∈ t, c = ' ' ∨ c = '\x09' ∨ c = '\x0a' ∨ c = '\x0d'

/-- A text of some kind with blanks before it and behind it, or without. -/
def Amid (P : Text → Prop) (t : Text) : Prop :=
  ∃ front inner back, IsBlank front ∧ P inner ∧ IsBlank back ∧ t = front ++ (inner ++ back)

theorem amid_of {P : Text → Prop} {t : Text} (h : P t) : Amid P t :=
  ⟨[], t, [], nofun, h, nofun, (List.append_nil t).symm⟩

/-- Pieces between two brackets, with a comma before each piece but the first. Where there are no
pieces, there may be blanks. -/
inductive IsRow (opening closing : Char) : List Text → Text → Prop
  | empty {blanks : Text} (h : IsBlank blanks) :
      IsRow opening closing [] (opening :: (blanks ++ [closing]))
  | full (piece : Text) (pieces : List Text) :
      IsRow opening closing (piece :: pieces)
        (opening :: (piece ++ (pieces.flatMap (',' :: ·) ++ [closing])))

/-- A member of an object as it is written: its key, and what is written for the key and for the
value. -/
structure Member where
  key : Text
  keyText : Text
  valueText : Text

/-- Key and value with a colon between them. -/
def Member.text (m : Member) : Text := m.keyText ++ ':' :: m.valueText

/-! ## Texts -/

/-- A text of JSON's grammar. -/
inductive IsText : Text → Prop
  | amid {front t back : Text} (hfront : IsBlank front) (h : IsText t) (hback : IsBlank back) :
      IsText (front ++ (t ++ back))
  | null : IsText "null".toList
  | true : IsText "true".toList
  | false : IsText "false".toList
  | number {t : Text} (h : IsNumber t) : IsText t
  | string {t : Text} (h : IsString t) : IsText t
  | list {items : List Text} {t : Text} (h : ∀ item ∈ items, IsText item)
      (hrow : IsRow '[' ']' items t) : IsText t
  | object {members : List (Text × Text)} {t : Text} (hkeys : ∀ m ∈ members, Amid IsString m.1)
      (h : ∀ m ∈ members, IsText m.2)
      (hrow : IsRow '\x7b' '\x7d' (members.map fun m => m.1 ++ ':' :: m.2) t) : IsText t

/-- What may be written for a value: any blanks between its tokens, whatever is chosen for the
characters of its strings, and its numbers as they are. -/
inductive IsTextOf : Json → Text → Prop
  | amid {v : Json} {front t back : Text} (hfront : IsBlank front) (h : IsTextOf v t)
      (hback : IsBlank back) : IsTextOf v (front ++ (t ++ back))
  | null : IsTextOf .null "null".toList
  | true : IsTextOf (.bool true) "true".toList
  | false : IsTextOf (.bool false) "false".toList
  | int (n : ℤ) : IsTextOf (.int n) (writeInt n)
  | str {s t : Text} (h : IsStringOf s t) : IsTextOf (.str s) t
  | arr {items : List (Json × Text)} {t : Text} (h : ∀ i ∈ items, IsTextOf i.1 i.2)
      (hrow : IsRow '[' ']' (items.map Prod.snd) t) : IsTextOf (.arr (items.map Prod.fst)) t
  | obj {members : List (Member × Json)} {t : Text}
      (hkeys : ∀ m ∈ members, Amid (IsStringOf m.1.key) m.1.keyText)
      (h : ∀ m ∈ members, IsTextOf m.2 m.1.valueText)
      (hrow : IsRow '\x7b' '\x7d' (members.map fun m => m.1.text) t) :
      IsTextOf (.obj (members.map fun m => (m.1.key, m.2))) t

/-- What may be written for an object with these members: any blanks between its tokens, and
whatever is chosen for the characters of its keys. Of the values it counts only that they are of
JSON's grammar. -/
structure IsObject (members : List Member) (t : Text) : Prop where
  keys : ∀ m ∈ members, Amid (IsStringOf m.key) m.keyText
  values : ∀ m ∈ members, IsText m.valueText
  row : Amid (IsRow '\x7b' '\x7d' (members.map Member.text)) t

/-! ## Cutting -/

/-- What a text is cut into, if nothing follows that would go on with a number. -/
def Cuts (P : List Token → Prop) (t : Text) : Prop :=
  ∀ rest, Ends rest → ∃ ks, P ks ∧ tokens (t ++ rest) = ks ++ tokens rest

theorem Cuts.imp {P Q : List Token → Prop} {t : Text} (h : Cuts P t) (hPQ : ∀ ks, P ks → Q ks) :
    Cuts Q t := by
  intro rest hrest
  obtain ⟨ks, hks, htokens⟩ := h rest hrest
  exact ⟨ks, hPQ ks hks, htokens⟩

theorem tokens_blank {blanks : Text} (h : IsBlank blanks) (rest : Text) :
    tokens (blanks ++ rest) = tokens rest := by
  induction blanks with
  | nil => rfl
  | cons c blanks ih =>
      obtain ⟨hc, hblanks⟩ := List.forall_mem_cons.mp h
      have hgap : isGap c = true := by
        rcases hc with rfl | rfl | rfl | rfl
        all_goals rfl
      rw [List.cons_append, tokens_cons, if_pos hgap, ih hblanks]

theorem ends_blank {blanks rest : Text} (h : IsBlank blanks) (hrest : Ends rest) :
    Ends (blanks ++ rest) := by
  cases blanks with
  | nil => exact hrest
  | cons c blanks =>
      refine ends_cons ?_ _
      rcases h c List.mem_cons_self with rfl | rfl | rfl | rfl
      all_goals decide

/-- Blanks make no difference. -/
theorem Cuts.amid {P : List Token → Prop} {front t back : Text} (hfront : IsBlank front)
    (h : Cuts P t) (hback : IsBlank back) : Cuts P (front ++ (t ++ back)) := by
  intro rest hrest
  obtain ⟨ks, hks, htokens⟩ := h (back ++ rest) (ends_blank hback hrest)
  refine ⟨ks, hks, ?_⟩
  rw [List.append_assoc, List.append_assoc, tokens_blank hfront, htokens, tokens_blank hback]

/-- A character that is a token by itself, and no part of a number. -/
structure IsMark (c : Char) (k : Token) : Prop where
  notGap : isGap c = false
  ends : Text.isDigit c = false ∧ c ≠ '.' ∧ c ≠ 'e' ∧ c ≠ 'E'
  cut : ∀ t, cut c t = .token k t

theorem IsMark.tokens {c : Char} {k : Token} (h : IsMark c k) (t : Text) :
    tokens (c :: t) = k :: tokens t := tokens_of_cut h.notGap (h.cut t)

theorem isMark_closeList : IsMark ']' .closeList := ⟨rfl, by decide, fun _ => rfl⟩

theorem isMark_closeObject : IsMark '\x7d' .closeObject := ⟨rfl, by decide, fun _ => rfl⟩

theorem isMark_openList : IsMark '[' .openList := ⟨rfl, by decide, fun _ => rfl⟩

theorem isMark_openObject : IsMark '\x7b' .openObject := ⟨rfl, by decide, fun _ => rfl⟩

theorem isMark_comma : IsMark ',' .comma := ⟨rfl, by decide, fun _ => rfl⟩

theorem isMark_colon : IsMark ':' .colon := ⟨rfl, by decide, fun _ => rfl⟩

section Rows

variable {ι : Type} {R : ι → List Token → Prop} {text : ι → Text} {items : List ι}
  {opening closing : Char} {first last : Token}

theorem tokens_pieces (h : ∀ i ∈ items, Cuts (R i) (text i)) (hclosing : IsMark closing last)
    (rest : Text) :
    Ends ((items.map text).flatMap (',' :: ·) ++ closing :: rest) ∧
      ∃ kss, List.Forall₂ R items kss ∧
        tokens ((items.map text).flatMap (',' :: ·) ++ closing :: rest)
          = kss.flatMap (.comma :: ·) ++ last :: tokens rest := by
  induction items with
  | nil => exact ⟨ends_cons hclosing.ends _, [], .nil, hclosing.tokens rest⟩
  | cons i items ih =>
      obtain ⟨hi, hitems⟩ := List.forall_mem_cons.mp h
      obtain ⟨hends, kss, hkss, htokens⟩ := ih hitems
      obtain ⟨ks, hks, hfirst⟩ := hi _ hends
      simp only [List.map_cons, List.flatMap_cons, List.cons_append, List.append_assoc]
      refine ⟨ends_cons isMark_comma.ends _, ks :: kss, .cons hks hkss, ?_⟩
      rw [isMark_comma.tokens, hfirst, htokens]
      simp

/-- **A row** is cut into a row of tokens. -/
theorem cuts_row {t : Text} (hrow : IsRow opening closing (items.map text) t)
    (hopening : IsMark opening first) (hclosing : IsMark closing last)
    (h : ∀ i ∈ items, Cuts (R i) (text i)) :
    Cuts (fun ks => ∃ kss, List.Forall₂ R items kss ∧ ks = tokenRow first last kss) t := by
  intro rest hrest
  generalize hpieces : items.map text = pieces at hrow
  cases hrow with
  | empty hblanks =>
      obtain rfl := List.map_eq_nil_iff.mp hpieces
      refine ⟨_, ⟨[], .nil, rfl⟩, ?_⟩
      rw [List.cons_append, List.append_assoc, hopening.tokens, tokens_blank hblanks,
        List.singleton_append, hclosing.tokens]
      rfl
  | full piece pieces =>
      obtain ⟨i, items, rfl, rfl, rfl⟩ := List.map_eq_cons_iff.mp hpieces
      obtain ⟨hi, hitems⟩ := List.forall_mem_cons.mp h
      obtain ⟨hends, kss, hkss, htokens⟩ := tokens_pieces hitems hclosing rest
      obtain ⟨ks, hks, hfirst⟩ := hi _ hends
      refine ⟨_, ⟨ks :: kss, .cons hks hkss, rfl⟩, ?_⟩
      simp only [List.cons_append, List.append_assoc, List.nil_append, tokenRow]
      rw [hopening.tokens, hfirst, htokens]

end Rows

/-! ## Members -/

theorem Amid.cuts {P : Text → Prop} {Q : List Token → Prop} {t : Text} (h : Amid P t)
    (hinner : ∀ inner, P inner → Cuts Q inner) : Cuts Q t := by
  obtain ⟨front, inner, back, hfront, hP, hback, rfl⟩ := h
  exact (hinner inner hP).amid hfront hback

/-- A key and a value are cut one after the other. -/
theorem cuts_member {P : Except Problem Text → Prop} {Q : List Token → Prop}
    {keyText valueText : Text}
    (hkey : Cuts (fun ks => ∃ key, P key ∧ ks = [.string key none]) keyText)
    (hvalue : Cuts Q valueText) :
    Cuts (fun ks => ∃ key vs, P key ∧ Q vs ∧ ks = member key vs)
      (keyText ++ ':' :: valueText) := by
  intro rest hrest
  obtain ⟨_, ⟨key, hP, rfl⟩, hfront⟩ := hkey (':' :: (valueText ++ rest))
    (ends_cons isMark_colon.ends _)
  obtain ⟨vs, hQ, hback⟩ := hvalue rest hrest
  refine ⟨_, ⟨key, vs, hP, hQ, rfl⟩, ?_⟩
  rw [List.append_assoc, List.cons_append, hfront, isMark_colon.tokens, hback]
  rfl

theorem cuts_keyOf {key t : Text} (h : Amid (IsStringOf key) t) :
    Cuts (fun ks => ∃ r, r = .ok key ∧ ks = [.string r none]) t :=
  h.cuts fun _ hs rest _ => ⟨_, ⟨_, rfl, rfl⟩, tokens_of_isStringOf hs rest⟩

theorem cuts_key {t : Text} (h : Amid IsString t) :
    Cuts (fun ks => ∃ r, True ∧ ks = [.string r none]) t := by
  refine h.cuts fun _ hs rest _ => ?_
  obtain ⟨r, hr⟩ := tokens_of_isString hs rest
  exact ⟨_, ⟨r, trivial, rfl⟩, hr⟩

/-! ## Values -/

theorem forall_mem_of_forall₂ {α β : Type} {P : β → Prop} {as : List α} {bs : List β}
    (h : List.Forall₂ (fun _ b => P b) as bs) : ∀ b ∈ bs, P b := by
  induction h with
  | nil => exact nofun
  | cons hb _ ih => exact List.forall_mem_cons.mpr ⟨hb, ih⟩

theorem eq_map_of_forall₂ {α β : Type} {f : α → β} {as : List α} {bs : List β}
    (h : List.Forall₂ (fun a b => b = f a) as bs) : bs = as.map f := by
  induction h with
  | nil => rfl
  | cons hb _ ih => rw [List.map_cons, hb, ih]

/-- **A text of JSON's grammar** is cut into the tokens of one whole value. -/
theorem IsText.cuts {t : Text} (h : IsText t) : Cuts Whole t := by
  induction h with
  | amid hfront _ hback ih => exact ih.amid hfront hback
  | null => exact fun rest _ => ⟨_, whole_scalar _, tokens_word rfl (fun _ => rfl) rest⟩
  | true => exact fun rest _ => ⟨_, whole_scalar _, tokens_word rfl (fun _ => rfl) rest⟩
  | false => exact fun rest _ => ⟨_, whole_scalar _, tokens_word rfl (fun _ => rfl) rest⟩
  | number h =>
      intro rest hrest
      obtain ⟨r, hr⟩ := tokens_of_isNumber h hrest
      exact ⟨_, whole_scalar r, hr⟩
  | string h =>
      intro rest _
      obtain ⟨r, hr⟩ := tokens_of_isString h rest
      exact ⟨_, whole_string r, hr⟩
  | @list items t _ hrow ih =>
      have hid : IsRow '[' ']' (items.map id) t := by rwa [List.map_id]
      refine (cuts_row hid isMark_openList isMark_closeList ih).imp ?_
      rintro ks ⟨kss, hkss, rfl⟩
      exact whole_list (forall_mem_of_forall₂ hkss)
  | object hkeys _ hrow ih =>
      refine (cuts_row hrow isMark_openObject isMark_closeObject
        fun m hm => cuts_member (cuts_key (hkeys m hm)) (ih m hm)).imp ?_
      rintro ks ⟨kss, hkss, rfl⟩
      refine whole_object (forall_mem_of_forall₂ (hkss.imp ?_))
      rintro m ks ⟨key, vs, -, hvs, rfl⟩
      exact ⟨key, vs, hvs, rfl⟩

/-- **A text of a value** is cut into the tokens of this value, if its numbers can be kept. -/
theorem IsTextOf.cuts {v : Json} {t : Text} (h : IsTextOf v t) {depth : ℕ} (hv : Plain depth v) :
    Cuts (· = tokensOf v) t := by
  induction h generalizing depth with
  | amid hfront _ hback ih => exact (ih hv).amid hfront hback
  | null => exact fun rest _ => ⟨_, rfl, tokens_word rfl (fun _ => rfl) rest⟩
  | true => exact fun rest _ => ⟨_, rfl, tokens_word rfl (fun _ => rfl) rest⟩
  | false => exact fun rest _ => ⟨_, rfl, tokens_word rfl (fun _ => rfl) rest⟩
  | int n =>
      cases hv with
      | int hn => exact fun rest hrest => ⟨_, rfl, tokens_writeInt hn hrest⟩
  | str h => exact fun rest _ => ⟨_, rfl, tokens_of_isStringOf h rest⟩
  | arr _ hrow ih =>
      cases hv with
      | arr hitems =>
          rw [List.forall_mem_map] at hitems
          refine (cuts_row hrow isMark_openList isMark_closeList
            fun i hi => ih i hi (hitems i hi)).imp ?_
          rintro ks ⟨kss, hkss, rfl⟩
          rw [eq_map_of_forall₂ hkss, tokensOf_arr, List.map_map]
          rfl
  | @obj members t hkeys _ hrow ih =>
      cases hv with
      | obj hmembers =>
          rw [List.forall_mem_map] at hmembers
          refine (cuts_row hrow isMark_openObject isMark_closeObject
            fun m hm => cuts_member (cuts_keyOf (hkeys m hm)) (ih m hm (hmembers m hm))).imp ?_
          rintro ks ⟨kss, hkss, rfl⟩
          have hmap : kss = members.map fun m => member (.ok m.1.key) (tokensOf m.2) := by
            refine eq_map_of_forall₂ (hkss.imp ?_)
            rintro m ks ⟨key, vs, rfl, rfl, rfl⟩
            rfl
          rw [hmap, tokensOf_obj, List.map_map]
          rfl

/-- What is written for a whole number is a number of JSON's grammar. -/
theorem isNumber_writeInt (n : ℤ) : IsNumber (writeInt n) := by
  have hdigits : IsDigits (Text.decimal n.natAbs) :=
    ⟨Text.decimal_ne_nil _, fun _ hc => Text.isDigit_iff.mp (Text.isDigit_of_mem_decimal hc)⟩
  have hzero : (Text.decimal n.natAbs).head? = some '0' → Text.decimal n.natAbs = ['0'] := by
    intro hhead
    obtain ⟨digits, hdecimal⟩ := List.head?_eq_some_iff.mp hhead
    rw [hdecimal, Text.decimal_eq_zero hdecimal]
  unfold writeInt
  split_ifs
  · exact ⟨['-'], _, [], [], .inr rfl, hdigits, hzero, .inl rfl, .inl rfl, by simp⟩
  · exact ⟨[], _, [], [], .inl rfl, hdigits, hzero, .inl rfl, .inl rfl, by simp⟩

/-- What may be written for a value is a text of JSON's grammar. -/
theorem IsTextOf.isText {v : Json} {t : Text} (h : IsTextOf v t) : IsText t := by
  induction h with
  | amid hfront _ hback ih => exact .amid hfront ih hback
  | null => exact .null
  | true => exact .true
  | false => exact .false
  | int n => exact .number (isNumber_writeInt n)
  | str h => exact .string h.isString
  | arr _ hrow ih => exact .list (List.forall_mem_map.mpr ih) hrow
  | @obj members t hkeys _ hrow ih =>
      let texts := members.map fun m => (m.1.keyText, m.1.valueText)
      have hkeyTexts : ∀ m ∈ texts, Amid IsString m.1 := by
        refine List.forall_mem_map.mpr fun m hm => ?_
        obtain ⟨front, inner, back, hfront, hinner, hback, ht⟩ := hkeys m hm
        exact ⟨front, inner, back, hfront, hinner.isString, hback, ht⟩
      refine .object hkeyTexts (List.forall_mem_map.mpr ih) ?_
      rw [List.map_map]
      exact hrow

/-- A text of JSON's grammar is cut into the tokens of one whole value; and these are the tokens of
any value whose text it is. -/
theorem cuts_value {t : Text} (h : IsText t) :
    Cuts (fun ks => Whole ks ∧ ∀ depth v, Plain depth v → IsTextOf v t → ks = tokensOf v) t := by
  intro rest hrest
  obtain ⟨ks, hks, htokens⟩ := h.cuts rest hrest
  refine ⟨ks, ⟨hks, fun depth v hv ht => ?_⟩, htokens⟩
  obtain ⟨_, rfl, htokens'⟩ := ht.cuts hv rest hrest
  rw [htokens] at htokens'
  exact List.append_cancel_right htokens'

/-! ## Written values -/

theorem isRow_write_arr (items : List Json) :
    IsRow '[' ']' (items.map write) (write (.arr items)) := by
  have hitems : ∀ items, writeItems items = (items.map write).flatMap (',' :: ·) ++ [']'] := by
    intro items
    induction items with
    | nil => rfl
    | cons v items ih => simp [writeItems, ih]
  cases items with
  | nil => exact .empty (List.forall_mem_nil _)
  | cons v items =>
      rw [write, hitems]
      exact .full _ _

/-- A member as it is written. -/
def writtenMember (m : Text × Json) : Member := ⟨m.1, writeText m.1, write m.2⟩

theorem isRow_write_obj (members : List (Text × Json)) :
    IsRow '\x7b' '\x7d' (members.map fun m => (writtenMember m).text) (write (.obj members)) := by
  have hmembers : ∀ members, writeMembers members
      = (members.map fun m => (writtenMember m).text).flatMap (',' :: ·) ++ ['\x7d'] := by
    intro members
    induction members with
    | nil => rfl
    | cons m members ih => simp [writeMembers, ih, writtenMember, Member.text]
  cases members with
  | nil => exact .empty (List.forall_mem_nil _)
  | cons m members =>
      have hfirst : write (.obj (m :: members))
          = '\x7b' :: ((writtenMember m).text ++ writeMembers members) := by
        simp [write, writtenMember, Member.text]
      rw [hfirst, hmembers]
      exact .full _ _

/-- **A written value** is one of the texts of the value. -/
theorem isTextOf_write {depth : ℕ} {v : Json} (h : Plain depth v) : IsTextOf v (write v) := by
  induction h with
  | null => exact .null
  | bool b => cases b <;> constructor
  | int h => exact .int _
  | str t => exact .str (isStringOf_writeText t)
  | @arr depth items h ih =>
      have harr : IsTextOf (.arr ((items.map fun v => (v, write v)).map Prod.fst))
          (write (.arr items)) := by
        refine .arr (List.forall_mem_map.mpr ih) ?_
        rw [List.map_map]
        exact isRow_write_arr items
      have hid : items.map (Prod.fst ∘ fun v => (v, write v)) = items := List.map_id items
      rwa [List.map_map, hid] at harr
  | @obj depth members h ih =>
      have hobj : IsTextOf
          (.obj ((members.map fun m => (writtenMember m, m.2)).map fun m => (m.1.key, m.2)))
          (write (.obj members)) := by
        refine .obj ?_ (List.forall_mem_map.mpr ih) ?_
        · exact List.forall_mem_map.mpr fun m _ => amid_of (isStringOf_writeText m.1)
        · rw [List.map_map]
          exact isRow_write_obj members
      have hid : members.map ((fun m => (m.1.key, m.2)) ∘ fun m => (writtenMember m, m.2))
          = members := List.map_id members
      rwa [List.map_map, hid] at hobj

/-! ## Reading -/

/-- A text of a value falls into the tokens of this value. -/
theorem IsTextOf.tokens {v : Json} {t : Text} (h : IsTextOf v t) {depth : ℕ} (hv : Plain depth v) :
    tokens t = tokensOf v := by
  obtain ⟨_, rfl, htokens⟩ := h.cuts hv [] ends_nil
  rw [List.append_nil] at htokens
  exact htokens.trans (List.append_nil _)

/-- **A text of a value** is read as this value in order. -/
theorem IsTextOf.read {v : Json} {t : Text} (h : IsTextOf v t) (hv : Plain nestingLimit v) :
    read t = .ok v.normal := by
  have hvalue : Takes nestingLimit nestingLimit v := value_tokensOf hv
  have hall := hvalue [] [] (le_refl _)
  rw [List.append_nil] at hall
  simp only [Json.read, h.tokens hv, hall]
  rfl

/-- **A written value is read back**, in order. -/
theorem read_write {v : Json} (h : Plain nestingLimit v) : read (write v) = .ok v.normal :=
  (isTextOf_write h).read h

/-! ## Objects -/

/-- The tokens of a member: its key, and a whole value, which are the tokens of any value whose
text the member has. -/
def IsCutOf (m : Member) (ks : List Token) : Prop :=
  ∃ vs, ks = member (.ok m.key) vs ∧ Whole vs ∧
    ∀ depth v, Plain depth v → IsTextOf v m.valueText → vs = tokensOf v

/-- **An object** falls into the tokens of its members. -/
theorem IsObject.tokens {members : List Member} {t : Text} (h : IsObject members t) :
    ∃ kss, List.Forall₂ IsCutOf members kss ∧
      tokens t = tokenRow .openObject .closeObject kss := by
  have hmembers : ∀ m ∈ members, Cuts (IsCutOf m) m.text := by
    intro m hm
    refine (cuts_member (cuts_keyOf (h.keys m hm)) (cuts_value (h.values m hm))).imp ?_
    rintro ks ⟨key, vs, rfl, ⟨hwhole, hvalue⟩, rfl⟩
    exact ⟨vs, rfl, hwhole, hvalue⟩
  have hcuts := h.row.cuts fun _ hrow =>
    cuts_row hrow isMark_openObject isMark_closeObject hmembers
  obtain ⟨_, ⟨kss, hkss, rfl⟩, htokens⟩ := hcuts [] ends_nil
  refine ⟨kss, hkss, ?_⟩
  rw [List.append_nil] at htokens
  rw [htokens]
  exact List.append_nil _

end DepositTrail.Json
