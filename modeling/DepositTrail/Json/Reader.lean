import DepositTrail.Json.Token

set_option autoImplicit false

/-! # Reading JSON

The second step: tokens become values. The reader walks along the tokens once and keeps the
lists and objects that are still open on a stack, so it is a recursion on the tokens. `value`
stands where a value must come and `close` where one has just ended; `limit` bounds how many
lists and objects may be open at the same time.

A value that nobody asked for is passed over by `pass`, which needs to know only the kind of
each open bracket, sets no limit, and does not mind what strings and numbers hold.
-/

namespace DepositTrail.Json

/-! ## Values -/

/-- A list or an object that is still open, with what it holds so far, the latest first. -/
inductive Open
  | list (items : List Json)
  | object (members : List (Text × Json)) (key : Text)

mutual

/-- Read the value that must come now, inside the open lists and objects. -/
def value (limit : Nat) (stack : List Open) : List Token → Except Problem (Json × List Token)
  | [] => .error .endInValue
  | .scalar (.ok v) :: ts => close limit v stack ts
  | .scalar (.error p) :: _ => .error p
  | .string (.ok t) _ :: ts => close limit (.str t) stack ts
  | .string (.error p) _ :: _ => .error p
  | .broken wanted _ :: _ => .error wanted
  | .openList :: ts =>
      if limit ≤ stack.length then .error .tooDeep
      else
        match ts with
        | [] => .error .endInList
        | .closeList :: ts => close limit (.arr []) stack ts
        | t :: ts => value limit (.list [] :: stack) (t :: ts)
  | .openObject :: ts =>
      if limit ≤ stack.length then .error .tooDeep
      else
        match ts with
        | [] => .error .endInObject
        | .closeObject :: ts => close limit (.obj []) stack ts
        | .string (.error p) _ :: _ => .error p
        | [.string (.ok _) _] => .error .endInObject
        | .string (.ok key) _ :: .colon :: ts => value limit (.object [] key :: stack) ts
        | .string (.ok _) _ :: _ :: _ => .error .expectedColon
        | _ :: _ => .error .keyNotString
  | _ :: _ => .error .expectedValue

/-- Go on after a value has ended. -/
def close (limit : Nat) (v : Json) : List Open → List Token → Except Problem (Json × List Token)
  | [], ts => .ok (v, ts)
  | .list _ :: _, [] => .error .endInList
  | .list items :: stack, .closeList :: ts => close limit (.arr (v :: items).reverse) stack ts
  | .list _ :: _, .comma :: .closeList :: _ => .error .trailingComma
  | .list items :: stack, .comma :: ts => value limit (.list (v :: items) :: stack) ts
  | .list _ :: _, _ :: _ => .error .expectedListCommaOrEnd
  | .object _ _ :: _, [] => .error .endInObject
  | .object members key :: stack, .closeObject :: ts =>
      close limit (ofMembers ((key, v) :: members).reverse) stack ts
  | .object _ _ :: _, [.comma] => .error .endInValue
  | .object _ _ :: _, .comma :: .closeObject :: _ => .error .trailingComma
  | .object _ _ :: _, .comma :: .string (.error p) _ :: _ => .error p
  | .object _ _ :: _, [.comma, .string (.ok _) _] => .error .endInObject
  | .object members key :: stack, .comma :: .string (.ok next) _ :: .colon :: ts =>
      value limit (.object ((key, v) :: members) next :: stack) ts
  | .object _ _ :: _, .comma :: .string (.ok _) _ :: _ :: _ => .error .expectedColon
  | .object _ _ :: _, .comma :: _ :: _ => .error .keyNotString
  | .object _ _ :: _, _ :: _ => .error .expectedObjectCommaOrEnd

end

/-! ## Values passed over -/

/-- The kind of an open bracket. -/
inductive Bracket
  | list
  | object

mutual

/-- Pass over the value that must come now, inside the open brackets. -/
def pass (stack : List Bracket) : List Token → Except Problem (List Token)
  | [] => .error .endInValue
  | .scalar _ :: ts => passed stack ts
  | .string _ none :: ts => passed stack ts
  | .string _ (some p) :: _ => .error p
  | .broken _ p :: _ => .error p
  | .openList :: [] => .error .endInList
  | .openList :: .closeList :: ts => passed stack ts
  | .openList :: t :: ts => pass (.list :: stack) (t :: ts)
  | .openObject :: [] => .error .endInObject
  | .openObject :: .closeObject :: ts => passed stack ts
  | .openObject :: .string _ (some p) :: _ => .error p
  | [.openObject, .string _ none] => .error .endInObject
  | .openObject :: .string _ none :: .colon :: ts => pass (.object :: stack) ts
  | .openObject :: .string _ none :: _ :: _ => .error .expectedColon
  | .openObject :: _ :: _ => .error .keyNotString
  | _ :: _ => .error .expectedValue

/-- Go on after a value that was passed over. -/
def passed : List Bracket → List Token → Except Problem (List Token)
  | [], ts => .ok ts
  | .list :: _, [] => .error .endInList
  | .list :: stack, .closeList :: ts => passed stack ts
  | .list :: stack, .comma :: ts => pass (.list :: stack) ts
  | .list :: _, _ :: _ => .error .expectedListCommaOrEnd
  | .object :: _, [] => .error .endInObject
  | .object :: stack, .closeObject :: ts => passed stack ts
  | .object :: _, [.comma] => .error .endInObject
  | .object :: _, .comma :: .string _ (some p) :: _ => .error p
  | .object :: _, [.comma, .string _ none] => .error .endInObject
  | .object :: stack, .comma :: .string _ none :: .colon :: ts => pass (.object :: stack) ts
  | .object :: _, .comma :: .string _ none :: _ :: _ => .error .expectedColon
  | .object :: _, .comma :: _ :: _ => .error .keyNotString
  | .object :: _, _ :: _ => .error .expectedObjectCommaOrEnd

end

/-! ## Whole texts -/

def nestingLimit : Nat := 127

/-- Read a text that is one value and nothing else. -/
def read (t : Text) : Except Problem Json :=
  match value nestingLimit [] (tokens t) with
  | .error p => .error p
  | .ok (v, []) => .ok v
  | .ok (_, _ :: _) => .error .trailingCharacters

end DepositTrail.Json
