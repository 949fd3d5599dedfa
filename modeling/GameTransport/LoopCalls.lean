import GameTransport.LoopPool

/-!
# Calls on one pool

Any number of calls on a pool of event loops, each somewhere on its way.  Nothing comes between a look
and what follows from it within one step, and nothing else is promised: a call begins when it likes,
and which of them takes the next step is left open.
-/

namespace GameTransport.LoopPool

/-- A call, between two of its steps. -/
inductive Call where
  /-- A call for the event loop, to hand it out or to run a computation on it. -/
  | acquiring (caller : Acquiring)
  | stopping (caller : Stopping)

/-- The next step of a call. -/
def Call.step : Call → LoopPool → Call × LoopPool
  | acquiring caller, pool => (acquiring (caller.step pool).1, (caller.step pool).2)
  | stopping caller, pool => (stopping (caller.step pool).1, (caller.step pool).2)

/-- A pool with the calls made on it. -/
structure Calls where
  pool : LoopPool
  /-- Oldest first, the ones that have returned included. -/
  calls : List Call := []

namespace Calls

/-- What can happen to a pool. -/
inductive Move where
  /-- Somebody calls for the event loop. -/
  | acquire
  /-- Somebody calls for the end of the pool. -/
  | shutDown
  /-- The call at a place takes its next step. -/
  | step (place : Nat)
  deriving DecidableEq, Repr

/-- A pool that nobody has called yet. -/
def start (workers : UInt64) : Calls := { pool := { workers } }

/-- A call begins. -/
def begin (s : Calls) (call : Call) : Calls := { s with calls := s.calls ++ [call] }

/-- The call at a place takes its next step. -/
def advance (s : Calls) (place : Nat) : Calls :=
  match s.calls[place]? with
  | none => s
  | some call =>
    let (call, pool) := call.step s.pool
    { pool, calls := s.calls.set place call }

def move (s : Calls) : Move → Calls
  | .acquire => s.begin (.acquiring .start)
  | .shutDown => s.begin (.stopping .start)
  | .step place => s.advance place

def run (s : Calls) (moves : List Move) : Calls := moves.foldl move s

end Calls

end GameTransport.LoopPool
