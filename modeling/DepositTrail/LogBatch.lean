import DepositTrail.Deposit
import DepositTrail.Json
import DepositTrail.Address

set_option autoImplicit false

/-! # Batches of logs

The result of one page should be an array of logs. It is read from the front, and reading ends
at the first entry that is no log; what came before it counts. A result that is no array is
such an entry itself.

Of the logs read, only those about the wanted topic matter, and only their block numbers are
looked at.
-/

namespace DepositTrail

/-- A log as the explorer hands it out. -/
structure RawLog where
  topics : List Text
  data : Text
  blockNumber : Text
deriving Repr, DecidableEq

/-- Read a log from the three values that make it up. -/
def RawLog.ofParts? (topics data blockNumber : Json) : Option RawLog := do
  let items ← topics.items?
  let topics ← items.mapM Json.text?
  let data ← data.text?
  let blockNumber ← blockNumber.text?
  return ⟨topics, data, blockNumber⟩

/-- Read a log: an object that has the three members, or an array of just the three values. -/
def RawLog.ofJson? : Json → Option RawLog
  | .obj members => do
      let topics ← Json.member? "topics".toList members
      let data ← Json.member? "data".toList members
      let blockNumber ← Json.member? "blockNumber".toList members
      RawLog.ofParts? topics data blockNumber
  | .arr [topics, data, blockNumber] => RawLog.ofParts? topics data blockNumber
  | _ => none

/-- The logs of one page. -/
inductive LogBatch
  | complete (logs : List RawLog)
  | truncated (logs : List RawLog) (malformed : Json) (received : Nat)
deriving Repr

namespace LogBatch

def logs : LogBatch → List RawLog
  | complete logs => logs
  | truncated logs _ _ => logs

/-- How many entries the explorer sent, whatever they are. -/
def received : LogBatch → Nat
  | complete logs => logs.length
  | truncated _ _ received => received

/-- The logs at the front of some entries, and the first entry that is none. -/
def readLogs : List Json → List RawLog × Option Json
  | [] => ([], none)
  | item :: rest =>
      match RawLog.ofJson? item with
      | none => ([], some item)
      | some log =>
          let r := readLogs rest
          (log :: r.1, r.2)

def classify : Json → LogBatch
  | .arr items =>
      match readLogs items with
      | (logs, none) => .complete logs
      | (logs, some malformed) => .truncated logs malformed items.length
  | result => .truncated [] result 0

end LogBatch

/-! ## Deposit events -/

/-- A log about the wanted topic, with its block. -/
structure FilteredEvent where
  data : Text
  block : UInt64
deriving Repr, DecidableEq

def RawLog.isAbout (topic : Topic) (log : RawLog) : Bool :=
  match log.topics with
  | [] => false
  | first :: _ =>
      match Octets.read 32 first with
      | .ok t => t = topic
      | .error _ => false

/-- The text without the marks `0x` at its start, however many there are. -/
def dropHexMarks : Text → Text
  | '0' :: 'x' :: t => dropHexMarks t
  | t => t

def readBlock (raw : Text) : Except DecodeProblem UInt64 :=
  match Text.readNumeral 16 UInt64.size (dropHexMarks raw) with
  | .ok n => .ok (UInt64.ofNat n)
  | .error _ => .error (.blockNumber raw)

def RawLog.event (log : RawLog) : Except DecodeProblem FilteredEvent :=
  match readBlock log.blockNumber with
  | .ok block => .ok ⟨log.data, block⟩
  | .error e => .error e

def extract (topic : Topic) (logs : List RawLog) : List (Except DecodeProblem FilteredEvent) :=
  (logs.filter (RawLog.isAbout topic)).map RawLog.event

end DepositTrail
