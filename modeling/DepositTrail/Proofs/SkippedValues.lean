import DepositTrail.Proofs.JsonReadBack

set_option autoImplicit false

/-! # Values that are passed over

The tokens of a list or an object are rows: pieces between two brackets, with commas between them
(`Json.tokenRow`). Of a value that nobody asked for only this shape counts, and not what its
strings and numbers hold. So there are more runs of tokens that are passed over as one value than
there are values (`Json.Whole`): single scalars and strings of any kind, and rows of such runs.

A reader that does want the value goes to the same end if it finds no problem on the way. So no
reader goes on anywhere else than behind the last token of the run.
-/

namespace DepositTrail.Json

/-! ## Rows of tokens -/

/-- Pieces between two brackets, with a comma before each piece but the first. -/
def tokenRow (opening closing : Token) : List (List Token) → List Token
  | [] => [opening, closing]
  | ks :: kss => opening :: (ks ++ (kss.flatMap (.comma :: ·) ++ [closing]))

theorem tokensOf_arr (items : List Json) :
    tokensOf (.arr items) = tokenRow .openList .closeList (items.map tokensOf) := by
  have hitems : ∀ items, tokensOfItems items
      = (items.map tokensOf).flatMap (.comma :: ·) ++ [.closeList] := by
    intro items
    induction items with
    | nil => rfl
    | cons v items ih => simp [tokensOfItems, ih]
  cases items with
  | nil => rfl
  | cons v items => rw [tokensOf, hitems, List.map_cons, tokenRow]

/-- A key with the tokens of a value. -/
def member (key : Except Problem Text) (ks : List Token) : List Token :=
  .string key none :: .colon :: ks

theorem tokensOf_obj (members : List (Text × Json)) :
    tokensOf (.obj members)
      = tokenRow .openObject .closeObject
          (members.map fun m => member (.ok m.1) (tokensOf m.2)) := by
  have hmembers : ∀ members, tokensOfMembers members
      = (members.map fun m => member (.ok m.1) (tokensOf m.2)).flatMap (.comma :: ·)
        ++ [.closeObject] := by
    intro members
    induction members with
    | nil => rfl
    | cons m members ih => simp [tokensOfMembers, member, ih]
  cases members with
  | nil => rfl
  | cons m members => rw [tokensOf, hmembers, List.map_cons, tokenRow, member]; rfl

/-! ## Whole values -/

/-- The tokens of one whole value, whether or not it can be kept: the reader that passes over it
goes on behind them, and so does the one that wants it, unless it has met a problem. -/
structure Whole (ks : List Token) : Prop where
  begins : Begins ks
  passed : ∀ stack ts, pass stack (ks ++ ts) = passed stack ts
  read : ∀ limit stack ts r, value limit stack (ks ++ ts) = .ok r →
    ∃ v, close limit v stack ts = .ok r

/-- Where a whole value is wanted, it is read to its end. -/
theorem Whole.rest_eq {ks ts rest : List Token} (h : Whole ks) {limit : ℕ} {v : Json}
    (hr : value limit [] (ks ++ ts) = .ok (v, rest)) : rest = ts := by
  obtain ⟨w, hw⟩ := h.read limit [] ts _ hr
  rw [close] at hw
  exact (congrArg Prod.snd (Except.ok.inj hw)).symm

theorem whole_scalar (r : Except Problem Json) : Whole [.scalar r] where
  begins := ⟨_, _, rfl, nofun⟩
  passed stack ts := by rw [List.singleton_append, pass]
  read limit stack ts r' h := by
    rw [List.singleton_append] at h
    cases r with
    | error p => simp [value] at h
    | ok v =>
        rw [value] at h
        exact ⟨v, h⟩

theorem whole_string (r : Except Problem Text) : Whole [.string r none] where
  begins := ⟨_, _, rfl, nofun⟩
  passed stack ts := by rw [List.singleton_append, pass]
  read limit stack ts r' h := by
    rw [List.singleton_append] at h
    cases r with
    | error p => simp [value] at h
    | ok t =>
        rw [value] at h
        exact ⟨.str t, h⟩

theorem value_tooDeep {limit : ℕ} {stack : List Open} (h : limit ≤ stack.length)
    (ts : List Token) :
    value limit stack (.openList :: ts) = .error .tooDeep ∧
      value limit stack (.openObject :: ts) = .error .tooDeep := by
  constructor
  all_goals
    rw [value.eq_def]
    exact if_pos h

/-! ## Lists -/

theorem passed_items {kss : List (List Token)} (h : ∀ ks ∈ kss, Whole ks) (stack : List Bracket)
    (ts : List Token) :
    passed (.list :: stack) (kss.flatMap (.comma :: ·) ++ .closeList :: ts) = passed stack ts := by
  induction kss with
  | nil =>
      rw [List.flatMap_nil, List.nil_append, passed]
  | cons ks kss ih =>
      obtain ⟨hks, hkss⟩ := List.forall_mem_cons.mp h
      rw [List.flatMap_cons, List.append_assoc, List.cons_append]
      rw [passed, hks.passed, ih hkss]

theorem close_items {limit : ℕ} {kss : List (List Token)} (h : ∀ ks ∈ kss, Whole ks)
    {stack : List Open} {ts : List Token} {r : Json × List Token} {v : Json} {items : List Json}
    (hr : close limit v (.list items :: stack) (kss.flatMap (.comma :: ·) ++ .closeList :: ts)
      = .ok r) : ∃ w, close limit w stack ts = .ok r := by
  induction kss generalizing v items with
  | nil =>
      rw [List.flatMap_nil, List.nil_append, close] at hr
      exact ⟨_, hr⟩
  | cons ks kss ih =>
      obtain ⟨hks, hkss⟩ := List.forall_mem_cons.mp h
      rw [List.flatMap_cons, List.append_assoc, List.cons_append,
        close_comma _ _ _ hks.begins] at hr
      obtain ⟨w, hw⟩ := hks.read _ _ _ _ hr
      exact ih hkss hw

/-- A list of whole values is one. -/
theorem whole_list {kss : List (List Token)} (h : ∀ ks ∈ kss, Whole ks) :
    Whole (tokenRow .openList .closeList kss) where
  begins := by cases kss <;> exact ⟨_, _, rfl, nofun⟩
  passed stack ts := by
    cases kss with
    | nil => simp only [tokenRow, List.cons_append, List.nil_append, pass]
    | cons ks kss =>
        obtain ⟨hks, hkss⟩ := List.forall_mem_cons.mp h
        -- the first value is no end of the list
        have hpass : ∀ ts,
            pass stack (.openList :: (ks ++ ts)) = pass (.list :: stack) (ks ++ ts) := by
          intro ts
          obtain ⟨k, rest, rfl, hk⟩ := hks.begins
          rw [List.cons_append, pass]
          exact hk
        rw [tokenRow, List.cons_append, List.append_assoc, List.append_assoc, hpass, hks.passed,
          List.singleton_append, passed_items hkss]
  read limit stack ts r hr := by
    by_cases hlimit : limit ≤ stack.length
    · cases kss <;> simp [tokenRow, value_tooDeep hlimit] at hr
    · have hopen : stack.length < limit := Nat.not_le.mp hlimit
      cases kss with
      | nil =>
          simp only [tokenRow, List.cons_append, List.nil_append, value, if_neg hlimit] at hr
          exact ⟨_, hr⟩
      | cons ks kss =>
          obtain ⟨hks, hkss⟩ := List.forall_mem_cons.mp h
          rw [tokenRow, List.cons_append, List.append_assoc, List.append_assoc,
            value_openList hopen hks.begins] at hr
          obtain ⟨v, hv⟩ := hks.read _ _ _ _ hr
          exact close_items hkss hv

/-! ## Objects -/

/-- A key of any kind with a whole value. -/
def IsMember (ks : List Token) : Prop := ∃ key vs, Whole vs ∧ ks = member key vs

theorem passed_members {kss : List (List Token)} (h : ∀ ks ∈ kss, IsMember ks)
    (stack : List Bracket) (ts : List Token) :
    passed (.object :: stack) (kss.flatMap (.comma :: ·) ++ .closeObject :: ts)
      = passed stack ts := by
  induction kss with
  | nil =>
      rw [List.flatMap_nil, List.nil_append, passed]
  | cons ks kss ih =>
      obtain ⟨⟨key, vs, hvs, rfl⟩, hkss⟩ := List.forall_mem_cons.mp h
      simp only [List.flatMap_cons, member, List.append_assoc, List.cons_append]
      rw [passed, hvs.passed, ih hkss]

theorem close_members {limit : ℕ} {kss : List (List Token)} (h : ∀ ks ∈ kss, IsMember ks)
    {stack : List Open} {ts : List Token} {r : Json × List Token} {v : Json} {key : Text}
    {members : List (Text × Json)}
    (hr : close limit v (.object members key :: stack)
      (kss.flatMap (.comma :: ·) ++ .closeObject :: ts) = .ok r) :
    ∃ w, close limit w stack ts = .ok r := by
  induction kss generalizing v key members with
  | nil =>
      rw [List.flatMap_nil, List.nil_append, close] at hr
      exact ⟨_, hr⟩
  | cons ks kss ih =>
      obtain ⟨⟨next, vs, hvs, rfl⟩, hkss⟩ := List.forall_mem_cons.mp h
      simp only [List.flatMap_cons, member, List.append_assoc, List.cons_append] at hr
      cases next with
      | error p => simp [close] at hr
      | ok next =>
          rw [close] at hr
          obtain ⟨w, hw⟩ := hvs.read _ _ _ _ hr
          exact ih hkss hw

/-- An object of whole values is one. -/
theorem whole_object {kss : List (List Token)} (h : ∀ ks ∈ kss, IsMember ks) :
    Whole (tokenRow .openObject .closeObject kss) where
  begins := by cases kss <;> exact ⟨_, _, rfl, nofun⟩
  passed stack ts := by
    cases kss with
    | nil => simp only [tokenRow, List.cons_append, List.nil_append, pass]
    | cons ks kss =>
        obtain ⟨⟨key, vs, hvs, rfl⟩, hkss⟩ := List.forall_mem_cons.mp h
        simp only [tokenRow, member, List.cons_append, List.append_assoc]
        rw [pass, hvs.passed, List.nil_append, passed_members hkss]
  read limit stack ts r hr := by
    by_cases hlimit : limit ≤ stack.length
    · cases kss <;> simp [tokenRow, value_tooDeep hlimit] at hr
    · have hopen : stack.length < limit := Nat.not_le.mp hlimit
      cases kss with
      | nil =>
          simp only [tokenRow, List.cons_append, List.nil_append, value, if_neg hlimit] at hr
          exact ⟨_, hr⟩
      | cons ks kss =>
          obtain ⟨⟨key, vs, hvs, rfl⟩, hkss⟩ := List.forall_mem_cons.mp h
          simp only [tokenRow, member, List.cons_append, List.append_assoc] at hr
          cases key with
          | error p => simp [value, hlimit] at hr
          | ok key =>
              rw [value_openObject hopen] at hr
              obtain ⟨v, hv⟩ := hvs.read _ _ _ _ hr
              exact close_members hkss hv

end DepositTrail.Json
