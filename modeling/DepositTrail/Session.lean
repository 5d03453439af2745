import DepositTrail.Checkpoint.Disk
import DepositTrail.Config.Variables
import DepositTrail.EnvFile
import DepositTrail.Scan

set_option autoImplicit false

/-! # Sessions

One run of the program: the environment, with what an environment file adds to it, gives the
configuration; the checkpoint file is opened if one is named; then the blocks are scanned into
a sink that never refuses. A session ends well or with one problem, and leaves behind the
output, the journal, and the files of its directory.
-/

namespace DepositTrail

/-- What a session is given. The environment file lies in the directory of the session. -/
structure Invocation where
  environment : Environment
  envFile : Option Text
deriving Repr

inductive SessionProblem
  | config (problem : ConfigProblem)
  | scan (problem : ScanProblem)

def SessionProblem.message : SessionProblem → String
  | .config problem => problem.message
  | .scan problem => problem.message

structure Outcome (σ : Type) where
  problem : Option SessionProblem
  output : List UInt8
  targets : List Text
  journal : List Entry
  disk : Checkpoint.Disk
  explorer : σ

def Outcome.code {σ : Type} (o : Outcome σ) : Nat := if o.problem.isSome then 1 else 0

namespace Invocation

def envFileName : Text := ".env".toList

/-- The environment together with what the environment file adds. -/
def settings (i : Invocation) : Environment :=
  match i.envFile with
  | none => i.environment
  | some file => EnvFile.load i.environment file

def config (i : Invocation) : Except ConfigProblem Config :=
  Config.ofVariables fun name => i.settings.get? name.toList

/-- The files of the directory, with the environment file of this session. -/
def files (i : Invocation) (disk : Checkpoint.Disk) : Checkpoint.Disk :=
  match i.envFile with
  | none => disk.remove envFileName
  | some file => disk.put envFileName (.foreign file)

/-- Scan with a configuration and a store that is kept in a file, or with none. -/
def scanWith {σ : Type} (c : Config) (explorer : Explorer σ) (s : σ) (disk : Checkpoint.Disk)
    (opened : Option (Option Text × Checkpoint.Store)) (journal : List Entry) : Outcome σ :=
  let r := scan c explorer (Progress.start s Sink.unlimited (opened.map Prod.snd))
  let disk := match opened, r.1.store with
    | some (file, _), some store => disk.keep file store
    | _, _ => disk
  let ending := match r.2 with
    | .ok report => [.done report]
    | .error _ => []
  { problem := match r.2 with
      | .ok _ => none
      | .error problem => some (.scan problem)
    output := r.1.sink.taken
    targets := r.1.targets c
    journal := journal ++ r.1.journal ++ ending
    disk := disk
    explorer := r.1.explorer }

def run {σ : Type} (i : Invocation) (explorer : Explorer σ) (s : σ) (disk : Checkpoint.Disk) :
    Outcome σ :=
  let disk := i.files disk
  let failed (problem : SessionProblem) (journal : List Entry) : Outcome σ :=
    ⟨some problem, [], [], journal, disk, s⟩
  match i.config with
  | .error problem => failed (.config problem) [.starting]
  | .ok c =>
      match c.checkpointFile with
      | none => scanWith c explorer s disk none [.starting, .loaded c]
      | some path =>
          let journal := [.starting, .loaded c, .checkpointing path]
          match disk.openStore path with
          | .error problem => failed (.scan (.checkpoint problem)) journal
          | .ok opened =>
              scanWith c explorer s (disk.keep opened.1 opened.2) (some opened) journal

end Invocation

end DepositTrail
