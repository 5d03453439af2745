import DepositTrail.Binary64

set_option autoImplicit false

/-! # JSON values

The values of JSON text. A number is a whole number or a binary fraction. The members of an
object stand in ascending order of their keys, each key once; `ofMembers` brings members into
that order, the last of several with one key being kept. Keys are compared character by
character, which is also the order of their bytes.
-/

namespace DepositTrail

inductive Json
  | null
  | bool (b : Bool)
  | int (n : Int)
  | real (x : Binary64)
  | str (t : Text)
  | arr (items : List Json)
  | obj (members : List (Text × Json))
deriving Repr

namespace Json

/-- Put a member among ordered ones, in the place of one with the same key. -/
def insertMember (key : Text) (value : Json) : List (Text × Json) → List (Text × Json)
  | [] => [(key, value)]
  | (k, v) :: rest =>
      if key = k then (key, value) :: rest
      else if key < k then (key, value) :: (k, v) :: rest
      else (k, v) :: insertMember key value rest

def ofMembers (members : List (Text × Json)) : Json :=
  .obj (members.foldl (fun sorted m => insertMember m.1 m.2 sorted) [])

/-- The value under a key, among the members of an object. -/
def member? (key : Text) (members : List (Text × Json)) : Option Json :=
  (members.find? fun m => m.1 = key).map Prod.snd

def text? : Json → Option Text
  | .str t => some t
  | _ => none

def items? : Json → Option (List Json)
  | .arr items => some items
  | _ => none

end Json

end DepositTrail
