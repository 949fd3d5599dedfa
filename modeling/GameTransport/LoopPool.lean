import GameTransport.ServerConfig

/-!
# The pool of event loops

A pool builds its event loop on first use and tears it down once and for all.  Its callers run at
the same time; each goes through a few steps that nothing can come between.  To acquire the loop:
look at the flag, look into the slot under the reading lock, and, if it was empty, look again and
build under the writing lock.  To shut the pool down: swap the flag, and, if it was the first to do
so, empty the slot under the writing lock.

`Acquiring` and `Stopping` are callers between two steps, so any interleaving of steps of any
callers is a run of the pool.  `acquire` and `shutDown` are callers that run alone.
-/

namespace GameTransport

/-- An event loop that was built, by the number of those built before it. -/
structure EventLoop where
  number : Nat
  deriving DecidableEq, Repr

structure LoopPool where
  /-- The number of workers; zero stands for one for each core. -/
  workers : UInt64
  slot : Option EventLoop := none
  isShutDown : Bool := false
  /-- The number of loops built so far. -/
  built : Nat := 0
  deriving DecidableEq, Repr

namespace LoopPool

/-- The pool that a configuration asks for. -/
def ofConfig (config : ServerConfig) : LoopPool := { workers := config.workerThreads }

def isStarted (pool : LoopPool) : Bool := pool.slot.isSome

/-- A caller on its way to the event loop. -/
inductive Acquiring where
  /-- About to look at the flag. -/
  | start
  /-- About to look into the slot. -/
  | look
  /-- About to look again, and to build. -/
  | build
  | done (result : Except Fault EventLoop)

/-- The next step of a caller. -/
def Acquiring.step : Acquiring → LoopPool → Acquiring × LoopPool
  | start, pool => (if pool.isShutDown then done (.error .poolShutDown) else look, pool)
  | look, pool =>
    match pool.slot with
    | some loop => (done (.ok loop), pool)
    | none => (build, pool)
  | build, pool =>
    if pool.isShutDown then (done (.error .poolShutDown), pool)
    else match pool.slot with
      | some loop => (done (.ok loop), pool)
      | none =>
        let loop : EventLoop := ⟨pool.built⟩
        (done (.ok loop), { pool with slot := some loop, built := pool.built + 1 })
  | done result, pool => (done result, pool)

/-- A caller on its way to shutting the pool down. -/
inductive Stopping where
  /-- About to swap the flag. -/
  | start
  /-- About to empty the slot. -/
  | empty
  /-- Whether this caller was the first. -/
  | done (first : Bool)

/-- The next step of a caller. -/
def Stopping.step : Stopping → LoopPool → Stopping × LoopPool
  | start, pool => (if pool.isShutDown then done false else empty, { pool with isShutDown := true })
  | empty, pool => (done true, { pool with slot := none })
  | done first, pool => (done first, pool)

/-- Acquires the event loop alone: the look at the flag settles the call, or the one into the slot,
or the building. -/
def acquire (pool : LoopPool) : Except Fault EventLoop × LoopPool :=
  let step (caller : Acquiring × LoopPool) : Acquiring × LoopPool := caller.1.step caller.2
  match step (step (step (.start, pool))) with
  | (.done result, pool) => (result, pool)
  | (_, pool) => (.error .poolShutDown, pool)

/-- Shuts the pool down alone.  Whether this was the first call. -/
def shutDown (pool : LoopPool) : Bool × LoopPool :=
  let step (caller : Stopping × LoopPool) : Stopping × LoopPool := caller.1.step caller.2
  match step (step (.start, pool)) with
  | (.done first, pool) => (first, pool)
  | (_, pool) => (false, pool)

/-- Runs a computation on the event loop. -/
def run {α : Type} (pool : LoopPool) (value : α) : Except Fault α × LoopPool :=
  let (loop, pool) := pool.acquire
  (loop.map fun _ => value, pool)

end LoopPool

end GameTransport
