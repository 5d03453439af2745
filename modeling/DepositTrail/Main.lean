import DepositTrail.Checkpoint.Sheet
import DepositTrail.Session

set_option autoImplicit false

/-! # The command line

The program takes no arguments. Its settings are environment variables, and those of a file
`.env` in the working directory. The bodies with which the explorer answers come from standard
input, one a line, in the order of the requests; when they are used up, the explorer counts as
lost. The records go to standard output, the journal and the requests asked to standard error.

Everything between is `Invocation.run`; here files are read, the program is run, and files
are written.
-/

namespace DepositTrail.CommandLine

/-- The words of a text that may be names of variables. -/
def words (t : Text) : List Text :=
  (Endpoint.splitAt (fun c => !(c.isAlphanum || c = '_')) t).filter (· ≠ [])

def environmentOf (names : List Text) : IO Environment :=
  names.foldlM (fun e name => do
    match ← IO.getEnv (String.ofList name) with
    | some value => return e.setNew name value.toList
    | none => return e) []

def settingNames : List Text :=
  [Setting.apiKey, .apiUrl, .contract, .fromBlock, .toBlock, .blockRange, .pageSize, .maxResults,
    .throttle, .requestTimeout, .maxAttempts, .retryBackoff, .outputFormat, .checkpointFile].map
    fun s => s.name.toList

def contentOf? (path : String) : IO (Option Text) := do
  try
    let text ← IO.FS.readFile path
    return some text.toList
  catch _ => return none

/-- The checkpoint file as it is on the disk. -/
def diskOf (name : Text) : IO Checkpoint.Disk := do
  match ← contentOf? (String.ofList name) with
  | none => return []
  | some t =>
      match Checkpoint.Store.ofText? t with
      | some s => return [(name, .store s)]
      | none => return [(name, .foreign t)]

def keepDisk (disk : Checkpoint.Disk) : IO Unit :=
  disk.forM fun file =>
    match file.2 with
    | .store s => IO.FS.writeFile (String.ofList file.1) (String.ofList s.toText)
    | .foreign _ => return

/-- The lines of standard input as replies. -/
partial def repliesFrom (input : IO.FS.Stream) (read : List Reply) : IO (List Reply) := do
  let line ← input.getLine
  if line.isEmpty then return read.reverse
  let body := line.toList.filter (· ≠ '\n')
  repliesFrom input (Reply.ofBody body :: read)

/-- Run one session and give the code with which the program ends. -/
def runSession : IO UInt32 := do
  let envFile ← contentOf? (String.ofList Invocation.envFileName)
  let environment ← environmentOf (settingNames ++ words (envFile.getD []))
  let invocation : Invocation := ⟨environment, envFile⟩
  let path := match invocation.config with
    | .ok c => c.checkpointFile.bind Checkpoint.Disk.fileName?
    | .error _ => none
  let disk ← match path with
    | some name => diskOf name
    | none => pure []
  let replies ← repliesFrom (← IO.getStdin) []
  let script : Script := ⟨replies, ⟨0, none, [], false, true⟩⟩
  let outcome := invocation.run Script.explorer script disk
  let errors ← IO.getStderr
  for entry in outcome.journal do
    errors.putStrLn (entry.level.word ++ " " ++ entry.text)
  for target in outcome.targets do
    errors.putStrLn ("GET " ++ String.ofList target)
  (← IO.getStdout).write ⟨outcome.output.toArray⟩
  keepDisk outcome.disk
  match outcome.problem with
  | some problem => errors.putStrLn ("Error: " ++ problem.message)
  | none => pure ()
  return UInt32.ofNat outcome.code

end DepositTrail.CommandLine

def main : IO UInt32 := DepositTrail.CommandLine.runSession
