import DepositTrail.Page
import DepositTrail.Text.Utf8

set_option autoImplicit false

/-! # Explorers

An explorer is known only by how it answers: in a state of its own it takes a request and gives
either a body or a failure. What happens on the way there is part of the answer, so the same
notion covers a service that answers everything, one that can never be reached, and one that
follows a script whatever it is asked.

A reply of a script is put in the terms of the web: a status, a reason, and bytes. A status
from 400 on is a failure, and any other reply is its body, if that arrived whole.
-/

namespace DepositTrail

/-- Why an attempt to get a page has failed. -/
inductive Failure
  | unusableUrl
  | unreachable
  | lost
  | cutShort
  | status (code : Nat) (reason : Text)
deriving Repr, DecidableEq

namespace Failure

/-- Whether it may help to try again: always, except that a status must be 429 or a failure of
the server. -/
def isRetryable : Failure → Bool
  | .status code _ => code = 429 || (500 ≤ code && code < 600)
  | _ => true

def arrived : Failure → Bool
  | .unusableUrl | .unreachable => false
  | _ => true

def message : Failure → String
  | .unusableUrl => "builder error"
  | .unreachable | .lost => "error sending request"
  | .cutShort => "error decoding response body"
  | .status code reason =>
      (if code < 500 then "HTTP status client error (" else "HTTP status server error (") ++
        toString code ++ " " ++ String.ofList reason ++ ")"

end Failure

/-- How an attempt to get a page has ended: with a body or a failure. -/
abbrev Attempt := Except Failure Text

def Attempt.arrived : Attempt → Bool
  | .ok _ => true
  | .error f => f.arrived

/-- An explorer answers a request and goes to its next state. -/
abbrev Explorer (σ : Type) := σ → PageRequest → Attempt × σ

def Explorer.unreachable {σ : Type} : Explorer σ := fun s _ => (.error .unreachable, s)

/-! ## Replies -/

def usualReasons : List (Nat × String) :=
  [(400, "Bad Request"), (401, "Unauthorized"), (402, "Payment Required"), (403, "Forbidden"),
    (404, "Not Found"), (405, "Method Not Allowed"), (406, "Not Acceptable"),
    (407, "Proxy Authentication Required"), (408, "Request Timeout"), (409, "Conflict"),
    (410, "Gone"), (411, "Length Required"), (412, "Precondition Failed"),
    (413, "Payload Too Large"), (414, "URI Too Long"), (415, "Unsupported Media Type"),
    (416, "Range Not Satisfiable"), (417, "Expectation Failed"), (418, "I'm a teapot"),
    (421, "Misdirected Request"), (422, "Unprocessable Entity"), (423, "Locked"),
    (424, "Failed Dependency"), (425, "Too Early"), (426, "Upgrade Required"),
    (428, "Precondition Required"), (429, "Too Many Requests"),
    (431, "Request Header Fields Too Large"), (451, "Unavailable For Legal Reasons"),
    (500, "Internal Server Error"), (501, "Not Implemented"), (502, "Bad Gateway"),
    (503, "Service Unavailable"), (504, "Gateway Timeout"), (505, "HTTP Version Not Supported"),
    (506, "Variant Also Negotiates"), (507, "Insufficient Storage"), (508, "Loop Detected"),
    (510, "Not Extended"), (511, "Network Authentication Required")]

/-- The reason that is given for a status when no other is stated. -/
def usualReason (code : Nat) : Text :=
  (((usualReasons.find? fun r => r.1 = code).map Prod.snd).getD "Custom").toList

/-- A reply in the terms of the web. -/
structure Reply where
  status : Nat
  reason : Option Text
  body : List UInt8
  cut : Bool
  dropped : Bool
deriving Repr, DecidableEq

namespace Reply

def ofBody (body : Text) : Reply := ⟨200, none, body.utf8, false, false⟩

def hasBody (status : Nat) : Bool := status ≠ 204 && status ≠ 304

def attempt (r : Reply) : Attempt :=
  if r.dropped then .error .lost
  else if 400 ≤ r.status then .error (.status r.status (r.reason.getD (usualReason r.status)))
  else if ¬ hasBody r.status then .ok []
  else if r.cut then .error .cutShort
  else .ok (Text.decodeBody r.body)

def noRecords : Reply :=
  ofBody "\x7b\"status\":\"0\",\"message\":\"No records found\",\"result\":[]\x7d".toList

end Reply

/-- Replies to be given one after the other, and one for all requests after them. -/
structure Script where
  pending : List Reply
  fallback : Reply
deriving Repr, DecidableEq

/-- The explorer that follows a script. -/
def Script.explorer : Explorer Script := fun s _ =>
  match s.pending with
  | [] => (s.fallback.attempt, s)
  | r :: rest => (r.attempt, { s with pending := rest })

end DepositTrail
