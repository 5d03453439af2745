import DepositTrail.Json.Printer
import DepositTrail.Json.Reader
import DepositTrail.Text.Quoted

set_option autoImplicit false

/-! # The explorer's envelope

Every body the explorer sends is an object with a status, a message and a result. The status
must be there; the message is empty and the result null unless given; members under other
keys are passed over; none of the three may stand twice. The same three values may also come
as an array in this order, of which the last two may be missing.

`Envelope.read` reports the first defect from the left: a value of the wrong kind as soon as
it is met, even if the text breaks off behind it.
-/

namespace DepositTrail

/-- What the explorer says in one body. -/
structure Envelope where
  status : Text
  message : Text
  result : Json
deriving Repr

namespace Envelope

/-- The status `0` stands for nothing, or nothing more, or a refusal. -/
def isEmpty (e : Envelope) : Bool := e.status = ['0']

/-- What may stand where something else was expected. -/
inductive Found
  | value (v : Json)
  | list
  | object
deriving Repr

def Found.describe : Found → String
  | .value .null => "null"
  | .value (.bool true) => "boolean `true`"
  | .value (.bool false) => "boolean `false`"
  | .value (.int n) => "integer `" ++ String.ofList (Json.writeInt n) ++ "`"
  | .value (.real x) => "floating point `" ++ String.ofList x.toText ++ "`"
  | .value (.str t) => "string " ++ String.ofList t.quoted
  | .value (.arr _) | .list => "sequence"
  | .value (.obj _) | .object => "map"

/-- The members an envelope knows. -/
inductive Field
  | status
  | message
  | result
deriving Repr, DecidableEq

def Field.name : Field → String
  | .status => "status"
  | .message => "message"
  | .result => "result"

def Field.ofKey? (key : Text) : Option Field :=
  if key = "status".toList then some .status
  else if key = "message".toList then some .message
  else if key = "result".toList then some .result
  else none

inductive Problem
  | json (p : Json.Problem)
  | wrongKind (found : Found) (textExpected : Bool)
  | twice (field : Field)
  | noStatus
  | noElements
deriving Repr

def Problem.message : Problem → String
  | .json p => p.message
  | .wrongKind found true => "invalid type: " ++ found.describe ++ ", expected a string"
  | .wrongKind found false =>
      "invalid type: " ++ found.describe ++ ", expected struct ApiResponse"
  | .twice field => "duplicate field `" ++ field.name ++ "`"
  | .noStatus => "missing field `status`"
  | .noElements => "invalid length 0, expected struct ApiResponse with 3 elements"

open Json (Token)

def takeText : List Token → Except Problem (Text × List Token)
  | [] => .error (.json .endInValue)
  | .string (.ok t) _ :: ts => .ok (t, ts)
  | .string (.error p) _ :: _ => .error (.json p)
  | .scalar (.ok v) :: _ => .error (.wrongKind (.value v) true)
  | .scalar (.error p) :: _ => .error (.json p)
  | .broken p _ :: _ => .error (.json p)
  | .openList :: _ => .error (.wrongKind .list true)
  | .openObject :: _ => .error (.wrongKind .object true)
  | _ :: _ => .error (.json .expectedValue)

/-- Read the value of the result, which stands inside the envelope's own bracket. -/
def takeResult (ts : List Token) : Except Problem (Json × List Token) :=
  match Json.value (Json.nestingLimit - 1) [] ts with
  | .ok r => .ok r
  | .error p => .error (.json p)

def passValue (ts : List Token) : Except Problem (List Token) :=
  match Json.pass [] ts with
  | .ok ts => .ok ts
  | .error p => .error (.json p)

/-! ## As an object -/

structure Draft where
  status : Option Text
  message : Option Text
  result : Option Json

def Draft.has (d : Draft) : Field → Bool
  | .status => d.status.isSome
  | .message => d.message.isSome
  | .result => d.result.isSome

def takeColon : List Token → Except Problem (List Token)
  | [] => .error (.json .endInObject)
  | .colon :: ts => .ok ts
  | _ :: _ => .error (.json .expectedColon)

/-- Read one member, from its key to the end of its value. -/
def takeMember (d : Draft) : List Token → Except Problem (Draft × List Token)
  | [] => .error (.json .endInValue)
  | .string (.error p) _ :: _ => .error (.json p)
  | .string (.ok key) _ :: ts =>
      match Field.ofKey? key with
      | none => do
          let ts ← takeColon ts
          let ts ← passValue ts
          return (d, ts)
      | some field =>
          if d.has field then .error (.twice field)
          else do
            let ts ← takeColon ts
            match field with
            | .status =>
                let (t, ts) ← takeText ts
                return ({ d with status := some t }, ts)
            | .message =>
                let (t, ts) ← takeText ts
                return ({ d with message := some t }, ts)
            | .result =>
                let (v, ts) ← takeResult ts
                return ({ d with result := some v }, ts)
  | .closeObject :: _ => .error (.json .trailingComma)
  | _ :: _ => .error (.json .keyNotString)

/-- The envelope of the members read, once there are no more. -/
def Draft.finish (d : Draft) : Except Problem Envelope :=
  match d.status with
  | none => .error .noStatus
  | some status => .ok ⟨status, d.message.getD [], d.result.getD .null⟩

/-- Read the members after the first one, at most as many as the first argument says. -/
def takeMembers : Nat → Draft → List Token → Except Problem (Envelope × List Token)
  | _, _, [] => .error (.json .endInObject)
  | _, d, .closeObject :: ts => d.finish.map (·, ts)
  | 0, _, _ => .error (.json .expectedObjectCommaOrEnd)
  | fuel + 1, d, .comma :: ts => do
      let (d, ts) ← takeMember d ts
      takeMembers fuel d ts
  | _, _, _ :: _ => .error (.json .expectedObjectCommaOrEnd)

/-- Read the members of an object after its opening bracket. -/
def takeObject : List Token → Except Problem (Envelope × List Token)
  | [] => .error (.json .endInObject)
  | .closeObject :: _ => .error .noStatus
  | ts => do
      let (d, rest) ← takeMember ⟨none, none, none⟩ ts
      takeMembers rest.length d rest

/-! ## As an array -/

/-- The next element of an array, read by `take`, or none at the closing bracket, which stays
where it is. -/
def takeNext {α : Type} (take : List Token → Except Problem (α × List Token)) :
    List Token → Except Problem (Option α × List Token)
  | [] => .error (.json .endInList)
  | .closeList :: ts => .ok (none, .closeList :: ts)
  | .comma :: .closeList :: _ => .error (.json .trailingComma)
  | .comma :: ts => (take ts).map fun r => (some r.1, r.2)
  | _ :: _ => .error (.json .expectedListCommaOrEnd)

def takeEnd : List Token → Except Problem (List Token)
  | [] => .error (.json .endInList)
  | .closeList :: ts => .ok ts
  | .comma :: .closeList :: _ => .error (.json .trailingComma)
  | _ :: _ => .error (.json .trailingCharacters)

/-- Read the elements of an array after its opening bracket. -/
def takeArray : List Token → Except Problem (Envelope × List Token)
  | [] => .error (.json .endInList)
  | .closeList :: _ => .error .noElements
  | ts => do
      let (status, ts) ← takeText ts
      let (message, ts) ← takeNext takeText ts
      let (result, ts) ← takeNext takeResult ts
      let ts ← takeEnd ts
      return (⟨status, message.getD [], result.getD .null⟩, ts)

/-! ## Whole bodies -/

/-- Read the envelope at the start of the tokens. -/
def take : List Token → Except Problem (Envelope × List Token)
  | [] => .error (.json .endInValue)
  | .openObject :: ts => takeObject ts
  | .openList :: ts => takeArray ts
  | .string (.ok t) _ :: _ => .error (.wrongKind (.value (.str t)) false)
  | .string (.error p) _ :: _ => .error (.json p)
  | .scalar (.ok v) :: _ => .error (.wrongKind (.value v) false)
  | .scalar (.error p) :: _ => .error (.json p)
  | .broken p _ :: _ => .error (.json p)
  | _ :: _ => .error (.json .expectedValue)

/-- Read a body: one envelope and nothing else. -/
def read (body : Text) : Except Problem Envelope :=
  match take (Json.tokens body) with
  | .error p => .error p
  | .ok (e, []) => .ok e
  | .ok (_, _ :: _) => .error (.json .trailingCharacters)

def previewLength : Nat := 120

/-- A defect together with the beginning of the body. -/
def describeProblem (body : Text) (p : Problem) : String :=
  p.message ++ " (body starts with " ++
    String.ofList (Text.quoted (body.take previewLength)) ++ ")"

end Envelope

end DepositTrail
