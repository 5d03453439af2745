set_option autoImplicit false

/-! # Sinks

What records are written to. A sink has room for so many bytes more, or for any number of
them, and takes as much of a line as there is room for. Flushing may fail at one given time,
counted from zero.
-/

namespace DepositTrail

/-- A sink with what it has taken so far. -/
structure Sink where
  taken : List UInt8
  room : Option Nat
  flushes : Nat
  failingFlush : Option Nat
deriving Repr, DecidableEq

inductive SinkProblem
  | full
  | flushFailed
deriving Repr, DecidableEq

def SinkProblem.message : SinkProblem → String
  | .full => "failed to write whole buffer"
  | .flushFailed => "flush failed"

namespace Sink

def empty (room failingFlush : Option Nat) : Sink := ⟨[], room, 0, failingFlush⟩

def unlimited : Sink := empty none none

/-- Write bytes; a sink without room for all of them takes the first of them and refuses. -/
def write (s : Sink) (bytes : List UInt8) : Sink × Except SinkProblem Unit :=
  match s.room with
  | none => ({ s with taken := s.taken ++ bytes }, .ok ())
  | some room =>
      if bytes.length ≤ room then
        ({ s with taken := s.taken ++ bytes, room := some (room - bytes.length) }, .ok ())
      else ({ s with taken := s.taken ++ bytes.take room, room := some 0 }, .error .full)

/-- Flush, so that what was taken is safe. -/
def flush (s : Sink) : Sink × Except SinkProblem Unit :=
  let after := { s with flushes := s.flushes + 1 }
  if s.failingFlush = some s.flushes then (after, .error .flushFailed) else (after, .ok ())

end Sink

end DepositTrail
