import DepositTrail.Checkpoint

set_option autoImplicit false

/-! # Checkpoint files

Stores live in the files of one directory. Opening a file that is missing or empty makes an
empty store of it; a file with other content is left alone; a path into another directory
leads nowhere. A store in memory is empty each time it is opened.

A desk is a disk together with the store that is open. What is written to the open store is on
the disk at once.
-/

namespace DepositTrail.Checkpoint

inductive Content
  | store (s : Store)
  | foreign (t : Text)
deriving Repr, DecidableEq

/-- The files of a directory by name. -/
abbrev Disk := List (Text × Content)

namespace Disk

def content? (d : Disk) (name : Text) : Option Content :=
  (d.find? fun f => f.1 = name).map Prod.snd

def put (name : Text) (c : Content) : Disk → Disk
  | [] => [(name, c)]
  | f :: rest => if f.1 = name then (name, c) :: rest else f :: put name c rest

def remove (d : Disk) (name : Text) : Disk := d.filter fun f => f.1 ≠ name

def memoryPath : Text := ":memory:".toList

/-- The name of the file of this directory to which a path leads. -/
def fileName? : Text → Option Text
  | '.' :: '/' :: t => fileName? t
  | t => if t = [] ∨ t = ['.'] ∨ t = ['.', '.'] ∨ '/' ∈ t then none else some t

/-- Open a store: its file, unless it is in memory, and what it holds. -/
def openStore (d : Disk) (path : Text) : Except Problem (Option Text × Store) :=
  if path = memoryPath then .ok (none, [])
  else
    match fileName? path with
    | none => .error (.unopenable path)
    | some name =>
        match d.content? name with
        | none => .ok (some name, [])
        | some (.store s) => .ok (some name, s)
        | some (.foreign []) => .ok (some name, [])
        | some (.foreign (_ :: _)) => .error .notDatabase

def keep (d : Disk) (file : Option Text) (s : Store) : Disk :=
  match file with
  | none => d
  | some name => d.put name (.store s)

end Disk

structure Desk where
  disk : Disk
  current : Option (Option Text × Store)
deriving Repr

namespace Desk

/-- A desk where nothing is open. -/
def ofDisk (d : Disk) : Desk := ⟨d, none⟩

/-- Close the open store and open another. -/
def openStore (k : Desk) (path : Text) : Desk × Except Problem Unit :=
  match k.disk.openStore path with
  | .error p => (⟨k.disk, none⟩, .error p)
  | .ok (file, s) => (⟨k.disk.keep file s, some (file, s)⟩, .ok ())

def change? (k : Desk) (f : Store → Store) : Option Desk :=
  k.current.map fun c => ⟨k.disk.keep c.1 (f c.2), some (c.1, f c.2)⟩

def load? (k : Desk) (contract topic : Text) : Option (Except Problem (Option Mark)) :=
  k.current.map fun c => Store.load c.2 contract topic

end Desk

end DepositTrail.Checkpoint
