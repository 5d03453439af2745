import DepositTrail.Json.Reader
import DepositTrail.Proofs.JsonTokens

set_option autoImplicit false

/-! # Values from their tokens

The reader of tokens meets the tokens of a value (`Json.tokensOf`) and goes on behind them with
this value, if no more lists and objects are open than it allows (`Json.value_tokensOf`). It keeps
of equal keys the last one and has the keys of every object in order, so what it has is the value
in this form (`Json.normal`). This holds of all values but those with numbers that are not kept
exactly, and those that are nested too deeply.
-/

namespace DepositTrail.Json

/-! ## Values in order -/

mutual

/-- A value as the reader has it: each key once, and the keys in order. -/
def normal : Json → Json
  | .arr items => .arr (normalItems items)
  | .obj members => ofMembers (normalMembers members)
  | v => v

/-- The values of a list, as the reader has them. -/
def normalItems : List Json → List Json
  | [] => []
  | v :: rest => normal v :: normalItems rest

/-- The members of an object, with values as the reader has them. -/
def normalMembers : List (Text × Json) → List (Text × Json)
  | [] => []
  | (k, v) :: rest => (k, normal v) :: normalMembers rest

end

mutual

/-- The tokens of a value. -/
def tokensOf : Json → List Token
  | .str t => [.string (.ok t) none]
  | .arr [] => [.openList, .closeList]
  | .arr (v :: rest) => .openList :: (tokensOf v ++ tokensOfItems rest)
  | .obj [] => [.openObject, .closeObject]
  | .obj ((k, v) :: rest) =>
      .openObject :: .string (.ok k) none :: .colon :: (tokensOf v ++ tokensOfMembers rest)
  | v => [.scalar (.ok v)]

/-- The tokens of the further values of an array, and its end. -/
def tokensOfItems : List Json → List Token
  | [] => [.closeList]
  | v :: rest => .comma :: (tokensOf v ++ tokensOfItems rest)

/-- The tokens of the further members of an object, and its end. -/
def tokensOfMembers : List (Text × Json) → List Token
  | [] => [.closeObject]
  | (k, v) :: rest =>
      .comma :: .string (.ok k) none :: .colon :: (tokensOf v ++ tokensOfMembers rest)

end

/-- Values without a number that is not kept exactly, in which at most so many lists and objects
are one inside the other. -/
inductive Plain : ℕ → Json → Prop
  | null {depth : ℕ} : Plain depth .null
  | bool {depth : ℕ} (b : Bool) : Plain depth (.bool b)
  | int {depth : ℕ} {n : ℤ} (h : Fits n) : Plain depth (.int n)
  | str {depth : ℕ} (t : Text) : Plain depth (.str t)
  | arr {depth : ℕ} {items : List Json} (h : ∀ v ∈ items, Plain depth v) :
      Plain (depth + 1) (.arr items)
  | obj {depth : ℕ} {members : List (Text × Json)} (h : ∀ m ∈ members, Plain depth m.2) :
      Plain (depth + 1) (.obj members)

/-! ## Tokens to values -/

/-- Tokens of which the first one is not the end of a list. -/
def Begins (ks : List Token) : Prop := ∃ k rest, ks = k :: rest ∧ k ≠ .closeList

/-- A value does not begin with the end of a list. -/
theorem begins_tokensOf (v : Json) : Begins (tokensOf v) := by
  cases v with
  | arr items => cases items <;> exact ⟨_, _, rfl, nofun⟩
  | obj members => cases members <;> exact ⟨_, _, rfl, nofun⟩
  | _ => exact ⟨_, _, rfl, nofun⟩

variable {limit : ℕ}

theorem value_openList {stack : List Open} (h : stack.length < limit) {ks : List Token}
    (hks : Begins ks) (ts : List Token) :
    value limit stack (.openList :: (ks ++ ts)) = value limit (.list [] :: stack) (ks ++ ts) := by
  obtain ⟨k, ks, rfl, hk⟩ := hks
  rw [List.cons_append, value, if_neg (Nat.not_le.mpr h)]
  · exact hk

theorem value_openObject {stack : List Open} (h : stack.length < limit) (key : Text)
    (ts : List Token) :
    value limit stack (.openObject :: .string (.ok key) none :: .colon :: ts)
      = value limit (.object [] key :: stack) ts := by
  rw [value, if_neg (Nat.not_le.mpr h)]

theorem close_comma (w : Json) (items : List Json) (stack : List Open) {ks : List Token}
    (hks : Begins ks) (ts : List Token) :
    close limit w (.list items :: stack) (.comma :: (ks ++ ts))
      = value limit (.list (w :: items) :: stack) (ks ++ ts) := by
  obtain ⟨k, ks, rfl, hk⟩ := hks
  rw [List.cons_append, close]
  intro tail h
  exact hk (List.cons.inj h).1

/-- What the reader does with the tokens of a value: it goes on behind them with this value. -/
def Takes (limit depth : ℕ) (v : Json) : Prop :=
  ∀ stack ts, stack.length + depth ≤ limit →
    value limit stack (tokensOf v ++ ts) = close limit v.normal stack ts

theorem close_tokensOfItems {depth : ℕ} {rest : List Json} (h : ∀ v ∈ rest, Takes limit depth v)
    (w : Json) (items : List Json) (stack : List Open) (ts : List Token)
    (hlimit : stack.length + 1 + depth ≤ limit) :
    close limit w (.list items :: stack) (tokensOfItems rest ++ ts)
      = close limit (.arr ((w :: items).reverse ++ normalItems rest)) stack ts := by
  induction rest generalizing w items with
  | nil => simp only [tokensOfItems, List.singleton_append, close, normalItems, List.append_nil]
  | cons v rest ih =>
      obtain ⟨hv, hrest⟩ := List.forall_mem_cons.mp h
      rw [tokensOfItems, List.cons_append, List.append_assoc,
        close_comma _ _ _ (begins_tokensOf v), hv (.list (w :: items) :: stack) _ hlimit, ih hrest]
      simp [normalItems]

theorem close_tokensOfMembers {depth : ℕ} {rest : List (Text × Json)}
    (h : ∀ m ∈ rest, Takes limit depth m.2) (w : Json) (key : Text)
    (members : List (Text × Json)) (stack : List Open) (ts : List Token)
    (hlimit : stack.length + 1 + depth ≤ limit) :
    close limit w (.object members key :: stack) (tokensOfMembers rest ++ ts)
      = close limit (ofMembers (((key, w) :: members).reverse ++ normalMembers rest)) stack ts := by
  induction rest generalizing w key members with
  | nil => simp only [tokensOfMembers, List.singleton_append, close, normalMembers, List.append_nil]
  | cons m rest ih =>
      obtain ⟨k, v⟩ := m
      obtain ⟨hv, hrest⟩ := List.forall_mem_cons.mp h
      rw [tokensOfMembers, List.cons_append, List.cons_append, List.cons_append,
        List.append_assoc, close, hv (.object ((key, w) :: members) k :: stack) _ hlimit, ih hrest]
      simp [normalMembers]

/-- **The tokens of a value are read** as the value in order. -/
theorem value_tokensOf {depth : ℕ} {v : Json} (h : Plain depth v) : Takes limit depth v := by
  induction h with
  | null | bool b | int h | str t =>
      intro stack ts _
      simp only [tokensOf, List.singleton_append, value, normal]
  | @arr depth items h ih =>
      intro stack ts hlimit
      -- the list itself is open while its values are read
      have hopen : stack.length < limit := by omega
      cases items with
      | nil =>
          simp only [tokensOf, List.cons_append, List.nil_append, value, normal, normalItems,
            if_neg (Nat.not_le.mpr hopen)]
      | cons v rest =>
          obtain ⟨hv, hrest⟩ := List.forall_mem_cons.mp ih
          have hnext : stack.length + 1 + depth ≤ limit := by omega
          rw [tokensOf, List.cons_append, List.append_assoc,
            value_openList hopen (begins_tokensOf v), hv (.list [] :: stack) _ hnext,
            close_tokensOfItems hrest _ _ _ _ hnext]
          rfl
  | @obj depth members h ih =>
      intro stack ts hlimit
      have hopen : stack.length < limit := by omega
      cases members with
      | nil =>
          simp only [tokensOf, List.cons_append, List.nil_append, value, normal, normalMembers,
            if_neg (Nat.not_le.mpr hopen)]
          rfl
      | cons m rest =>
          obtain ⟨k, v⟩ := m
          obtain ⟨hv, hrest⟩ := List.forall_mem_cons.mp ih
          have hnext : stack.length + 1 + depth ≤ limit := by omega
          rw [tokensOf, List.cons_append, List.cons_append, List.cons_append, List.append_assoc,
            value_openObject hopen, hv (.object [] k :: stack) _ hnext,
            close_tokensOfMembers hrest _ _ _ _ _ hnext]
          rfl

end DepositTrail.Json
