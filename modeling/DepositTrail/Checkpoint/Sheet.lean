import DepositTrail.Checkpoint
import DepositTrail.Json.Printer
import DepositTrail.Json.Reader

set_option autoImplicit false

/-! # Written stores

The form in which a store lies in a file: a heading, and then a line of JSON for each row, with
the contract, the topic, the next block, and the stated time if there is one. A file is read
back only if every line of it is of this form, so that a file of another kind is recognised.
Only rows with a whole number are written.
-/

namespace DepositTrail.Checkpoint.Store

def heading : Text := "scan_cursor".toList

def writeRow (r : Row) : Option Text :=
  match r.next with
  | .whole n =>
      let stamp := match r.stamp with
        | .saved => Json.null
        | .stated t => .str t
      some (Json.arr [.str r.contract, .str r.topic, .int n, stamp]).write
  | _ => none

def readRow? (line : Text) : Option Row :=
  match Json.read line with
  | .ok (.arr [.str contract, .str topic, .int n, .null]) =>
      some ⟨contract, topic, .whole n, .saved⟩
  | .ok (.arr [.str contract, .str topic, .int n, .str t]) =>
      some ⟨contract, topic, .whole n, .stated t⟩
  | _ => none

def toText (s : Store) : Text := (heading :: s.filterMap writeRow).flatMap (· ++ ['\n'])

/-- The lines of a text, each of which must have its end. -/
def lines? : Text → Option (List Text)
  | [] => some []
  | c :: t =>
      if c = '\n' then (lines? t).map ([] :: ·)
      else
        match lines? t with
        | some (line :: rest) => some ((c :: line) :: rest)
        | _ => none

def ofText? (t : Text) : Option Store :=
  match lines? t with
  | some (first :: rows) => if first = heading then rows.mapM readRow? else none
  | _ => none

end DepositTrail.Checkpoint.Store
