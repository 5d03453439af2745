import DepositTrail.Client
import DepositTrail.LogBatch

set_option autoImplicit false

/-! # The journal

What a scan says about itself while it goes on, entry by entry. An entry is a fact of the scan;
its level and its wording are functions of it. No wording shows the key.

Two things are left out. The lines of the lowest level, for debugging, which are off unless they
are asked for: one for each attempt and one for each window that has no more logs. And the time of
the checkpoint, which the program puts in brackets behind the block at which it resumes
(`Entry.resuming`): for a row that `save` wrote it is the time of day.
-/

namespace DepositTrail

inductive Level
  | info
  | warn
  | error
deriving Repr, DecidableEq

def Level.word : Level → String
  | .info => "INFO"
  | .warn => "WARN"
  | .error => "ERROR"

structure Report where
  ranges : Nat
  requests : Nat
  events : Nat
  undecodable : Nat
  throttles : Nat
  ceilings : Nat
  abandoned : Nat
deriving Repr, DecidableEq

namespace Report

def zero : Report := ⟨0, 0, 0, 0, 0, 0, 0⟩

def describe (r : Report) : String :=
  "ScanReport \x7b ranges: " ++ toString r.ranges ++ ", requests: " ++ toString r.requests ++
    ", events: " ++ toString r.events ++ ", undecodable: " ++ toString r.undecodable ++
    ", throttles: " ++ toString r.throttles ++ ", ceilings: " ++ toString r.ceilings ++
    ", abandoned: " ++ toString r.abandoned ++ " \x7d"

end Report

/-- What a scan can say, and the session around it. -/
inductive Entry
  | starting
  | loaded (config : Config)
  | checkpointing (path : Text)
  | done (report : Report)
  | resuming (block : Nat)
  | scanning (contract : Address) (start stop size : Nat)
  | retrying (attempt attempts : Nat) (request : PageRequest) (failure : Failure) (wait : Duration)
  | undecodable (problem : DecodeProblem)
  | undecodableIn (block : UInt64) (problem : DecodeProblem)
  | malformed (value : Json)
  | refused (window : Window) (page : Nat) (message : Text) (result : Json)
  | ceiling (window : Window) (maxResults : Nat)
  | held (window : Window)
  | complete (windows requests deposits : Nat)
  | someUndecodable (count : Nat)
  | someCeilings (count : Nat)
  | someAbandoned (count : Nat)

namespace Entry

def level : Entry → Level
  | .starting | .loaded _ | .checkpointing _ | .done _ => .info
  | .resuming _ | .scanning _ _ _ _ | .complete _ _ _ => .info
  | .undecodable _ | .undecodableIn _ _ => .error
  | _ => .warn

/-- The blocks of a window. -/
def blocks (w : Window) : String := toString w.first ++ "-" ++ toString w.stop

def text : Entry → String
  | .starting => "Deposit scanner starting..."
  | .loaded config => "Loaded config: " ++ config.describe
  | .checkpointing path => "Checkpointing to " ++ String.ofList path
  | .done report => "Done: " ++ report.describe
  | .resuming block => "Resuming at block " ++ toString block
  | .scanning contract start stop size =>
      "Scanning " ++ String.ofList contract.checksummed ++ " for deposits: blocks " ++
        toString start ++ " → " ++ toString stop ++ " in windows of " ++ toString size
  | .retrying attempt attempts request failure wait =>
      "Explorer request failed (attempt " ++ toString attempt ++ "/" ++ toString attempts ++
        ", blocks " ++ toString request.fromBlock ++ "-" ++ toString request.toBlock ++ " page " ++
        toString request.page ++ "): " ++ failure.message ++ ". Retrying in " ++ wait.toText
  | .undecodable problem => "Undecodable deposit log: " ++ problem.message
  | .undecodableIn block problem =>
      "Undecodable deposit log in block " ++ toString block ++ ": " ++ problem.message
  | .malformed value =>
      "Malformed log result, skipping rest of window: " ++ String.ofList value.write
  | .refused window page message result =>
      "Blocks " ++ blocks window ++ " page " ++ toString page ++ " refused: " ++
        String.ofList message ++ " (" ++ String.ofList result.write ++ ")"
  | .ceiling window maxResults =>
      "Blocks " ++ blocks window ++ ": " ++ toString maxResults ++
        " results returned, provider ceiling reached"
  | .held window =>
      "Checkpoint held at block " ++ toString window.first ++ ": window " ++ blocks window ++
        " was not fully scanned"
  | .complete windows requests deposits =>
      "Scan complete: " ++ toString windows ++ " windows, " ++ toString requests ++ " requests, " ++
        toString deposits ++ " deposits"
  | .someUndecodable count => toString count ++ " deposit logs could not be decoded"
  | .someCeilings count =>
      toString count ++ " windows hit the result ceiling and may be incomplete"
  | .someAbandoned count =>
      toString count ++ " windows were refused or malformed and were skipped"

end Entry

/-- The entries about the failures of a course that were tried again. -/
def retryEntries (attempts : Nat) (r : PageRequest) : Nat → List (Failure × Duration) → List Entry
  | _, [] => []
  | i, f :: rest => .retrying i attempts r f.1 f.2 :: retryEntries attempts r (i + 1) rest

end DepositTrail
