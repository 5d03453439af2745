import DepositTrail.Checkpoint
import DepositTrail.Journal
import DepositTrail.Record
import DepositTrail.Sink

set_option autoImplicit false

/-! # Scans

A scan goes through the windows of the configured blocks, through the pages of each window, and
through the logs of each page, and writes a line for each deposit it can decode.

A window ends completed when the explorer has nothing more for it: it says so, or a page is not
full. It ends incomplete when the explorer refuses it, when a result is malformed, or when the
last page that the explorer serves is full. After each window the sink is flushed, and only
then the checkpoint moves to the end of the window, as long as every window so far was
completed. The first incomplete window holds the checkpoint for the rest of the scan.

A page that cannot be had, a body that cannot be read, and a sink that refuses end the scan.
All that was done until then stays in its progress: the questions asked, the lines written, the
entries of the journal, the counts, and the store.

A store can fail to load, but saving always succeeds here (`Setup.moveCheckpoint`): that the disk
is full or the table is locked by another program is not represented. The program ends a scan
there, after the flush and without moving the checkpoint.
-/

namespace DepositTrail

inductive ScanProblem
  | config (problem : ConfigProblem)
  | transport (failure : Failure)
  | body (received : Text) (problem : Envelope.Problem)
  | checkpoint (problem : Checkpoint.Problem)
  | output (problem : SinkProblem)

def ScanProblem.message : ScanProblem → String
  | .config problem => "Config error: " ++ problem.message
  | .transport failure => "Transport error: " ++ failure.message
  | .body received problem =>
      "Malformed API body: " ++ Envelope.describeProblem received problem
  | .checkpoint problem => "Checkpoint error: " ++ problem.message
  | .output problem => "Output error: " ++ problem.message

inductive WindowEnd
  | completed
  | incomplete
deriving Repr, DecidableEq

structure Progress (σ : Type) where
  explorer : σ
  exchanges : List Exchange
  journal : List Entry
  sink : Sink
  report : Report
  store : Option Checkpoint.Store

namespace Progress

variable {σ : Type}

def start (explorer : σ) (sink : Sink) (store : Option Checkpoint.Store) : Progress σ :=
  ⟨explorer, [], [], sink, Report.zero, store⟩

def say (p : Progress σ) (e : Entry) : Progress σ := { p with journal := p.journal ++ [e] }

def count (p : Progress σ) (f : Report → Report) : Progress σ := { p with report := f p.report }

def write (p : Progress σ) (line : Text) : Progress σ × Except ScanProblem Unit :=
  match p.sink.write line.utf8 with
  | (s, .ok ()) => ({ p with sink := s }, .ok ())
  | (s, .error e) => ({ p with sink := s }, .error (.output e))

def flush (p : Progress σ) : Progress σ × Except ScanProblem Unit :=
  match p.sink.flush with
  | (s, .ok ()) => ({ p with sink := s }, .ok ())
  | (s, .error e) => ({ p with sink := s }, .error (.output e))

end Progress

/-- What stays the same during a scan. -/
structure Setup (σ : Type) where
  config : Config
  client : Client
  explorer : Explorer σ
  template : PageTemplate

namespace Setup

variable {σ : Type}

def ofConfig (c : Config) (explorer : Explorer σ) : Setup σ :=
  ⟨c, Client.ofConfig c, explorer, PageTemplate.ofConfig c⟩

/-! ## Questions -/

/-- Pursue a page request and read the body. -/
def query (u : Setup σ) (r : PageRequest) (p : Progress σ) :
    Progress σ × Except ScanProblem Envelope :=
  let c := u.client.ask u.explorer r p.explorer
  let p := { p with
    explorer := c.state
    exchanges := p.exchanges ++ c.exchanges r
    journal := p.journal ++ retryEntries u.client.maxAttempts r 1 c.retried }
  match c.last with
  | .error f => (p, .error (.transport f))
  | .ok body =>
      match Envelope.read body with
      | .error e => (p, .error (.body body e))
      | .ok envelope => (p, .ok envelope)

/-! ## Pages -/

/-- Decode an event and write its line. An event that cannot be decoded is passed over. -/
def takeEvent (u : Setup σ) (e : Except DecodeProblem FilteredEvent) (p : Progress σ) :
    Progress σ × Except ScanProblem Unit :=
  let skip (entry : Entry) : Progress σ :=
    (p.say entry).count fun r => { r with undecodable := r.undecodable + 1 }
  match e with
  | .error problem => (skip (.undecodable problem), .ok ())
  | .ok event =>
      match Deposit.decode event.data with
      | .error problem => (skip (.undecodableIn event.block problem), .ok ())
      | .ok deposit =>
          match p.write ((deposit.record event.block).line u.config.output) with
          | (p, .error problem) => (p, .error problem)
          | (p, .ok ()) => (p.count fun r => { r with events := r.events + 1 }, .ok ())

/-- Take events one after the other until the sink refuses. -/
def takeEvents (u : Setup σ) : List (Except DecodeProblem FilteredEvent) → Progress σ →
    Progress σ × Except ScanProblem Unit
  | [], p => (p, .ok ())
  | e :: rest, p =>
      match u.takeEvent e p with
      | (p, .error problem) => (p, .error problem)
      | (p, .ok ()) => takeEvents u rest p

/-- What is done after a page. -/
inductive PageEnd
  | full
  | short
  | malformed
deriving Repr, DecidableEq

def takePage (u : Setup σ) (batch : LogBatch) (p : Progress σ) :
    Progress σ × Except ScanProblem PageEnd :=
  match u.takeEvents (extract u.config.eventTopic batch.logs) p with
  | (p, .error problem) => (p, .error problem)
  | (p, .ok ()) =>
      match batch with
      | .truncated _ malformed _ => (p.say (.malformed malformed), .ok .malformed)
      | .complete logs =>
          (p, .ok (if logs.length < u.template.pageSize then .short else .full))

/-! ## Windows -/

/-- What the explorer says about a window for which it simply has no logs. -/
def noRecords : Text := "No records found".toList

/-- Whether a message is that there are no logs, whatever its case and the blanks around it. -/
def saysNoRecords (message : Text) : Bool := message.trim.lower = noRecords.lower

def abandon (p : Progress σ) : Progress σ :=
  p.count fun r => { r with abandoned := r.abandoned + 1 }

/-- Ask for the pages of a window from one page on, of which so many are left. -/
def scanPages (u : Setup σ) (w : Window) : Nat → Nat → Progress σ →
    Progress σ × Except ScanProblem WindowEnd
  | 0, _, p => (p, .ok .completed)
  | left + 1, page, p =>
      match u.query (u.template.request w page) p with
      | (p, .error problem) => (p, .error problem)
      | (p, .ok envelope) =>
          let p := p.count fun r => { r with requests := r.requests + 1 }
          if envelope.isEmpty then
            if saysNoRecords envelope.message then (p, .ok .completed)
            else
              (abandon (p.say (.refused w page envelope.message envelope.result)),
                .ok .incomplete)
          else
            match u.takePage (LogBatch.classify envelope.result) p with
            | (p, .error problem) => (p, .error problem)
            | (p, .ok .short) => (p, .ok .completed)
            | (p, .ok .malformed) => (abandon p, .ok .incomplete)
            | (p, .ok .full) =>
                if left = 0 then
                  let p := p.say (.ceiling w u.config.maxResults.toNat)
                  (p.count fun r => { r with ceilings := r.ceilings + 1 }, .ok .incomplete)
                else
                  scanPages u w left (page + 1)
                    (p.count fun r => { r with throttles := r.throttles + 1 })

/-- Move the checkpoint to the end of a window. -/
def moveCheckpoint (u : Setup σ) (w : Window) (p : Progress σ) : Progress σ :=
  { p with
    store := p.store.map fun s =>
      s.save u.config.contract.checksummed u.config.eventTopic.toText (UInt64.ofNat w.stop) }

/-- Scan so many windows from a block on. The checkpoint moves as long as it is free. -/
def scanWindows (u : Setup σ) : Nat → Nat → Bool → Progress σ →
    Progress σ × Except ScanProblem Unit
  | 0, _, _, p => (p, .ok ())
  | left + 1, first, free, p =>
      let size := u.config.blockRange.toNat
      let w := Window.starting size first
      match u.scanPages w u.template.maxPages 1 p with
      | (p, .error problem) => (p, .error problem)
      | (p, .ok windowEnd) =>
          let p := p.count fun r => { r with ranges := r.ranges + 1 }
          match p.flush with
          | (p, .error problem) => (p, .error problem)
          | (p, .ok ()) =>
              match windowEnd, free with
              | .completed, true =>
                  scanWindows u left (first + max size 1) true (u.moveCheckpoint w p)
              | .incomplete, true =>
                  scanWindows u left (first + max size 1) false (p.say (.held w))
              | _, false => scanWindows u left (first + max size 1) false p

/-! ## Whole scans -/

def closing (r : Report) : List Entry :=
  .complete r.ranges r.requests r.events ::
    ((if 0 < r.undecodable then [.someUndecodable r.undecodable] else []) ++
      (if 0 < r.ceilings then [.someCeilings r.ceilings] else []) ++
      (if 0 < r.abandoned then [.someAbandoned r.abandoned] else []))

/-- The block at which a scan starts: the configured one, or that of a checkpoint beyond it. -/
def startBlock (u : Setup σ) (p : Progress σ) : Progress σ × Except ScanProblem Nat :=
  let first := u.config.fromBlock.toNat
  match p.store with
  | none => (p, .ok first)
  | some s =>
      match s.load u.config.contract.checksummed u.config.eventTopic.toText with
      | .error problem => (p, .error (.checkpoint problem))
      | .ok none => (p, .ok first)
      | .ok (some mark) =>
          let next := mark.nextBlock.toNat
          if first < next then (p.say (.resuming next), .ok next) else (p, .ok first)

def scanFrom (u : Setup σ) (first : Nat) (p : Progress σ) :
    Progress σ × Except ScanProblem Report :=
  let stop := u.config.toBlock.toNat
  let size := u.config.blockRange.toNat
  let p := p.say (.scanning u.config.contract first stop size)
  match u.scanWindows (Window.count first stop (max size 1)) first p.store.isSome p with
  | (p, .error problem) => (p, .error problem)
  | (p, .ok ()) => ({ p with journal := p.journal ++ closing p.report }, .ok p.report)

end Setup

/-- The targets of the requests of a scan that have arrived at the explorer. -/
def Progress.targets {σ : Type} (c : Config) (p : Progress σ) : List Text :=
  (Client.ofConfig c).targets p.exchanges

/-- Scan as a configuration says, if its settings fit together. -/
def scan {σ : Type} (c : Config) (explorer : Explorer σ) (p : Progress σ) :
    Progress σ × Except ScanProblem Report :=
  match c.problem? with
  | some problem => (p, .error (.config problem))
  | none =>
      let u := Setup.ofConfig c explorer
      match u.startBlock p with
      | (p, .error problem) => (p, .error problem)
      | (p, .ok first) => u.scanFrom first p

end DepositTrail
