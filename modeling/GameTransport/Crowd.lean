import GameTransport.Task

/-!
# Crowds

The tasks of a server, over one context.  The counters of the context are the only thing they share
that changes: a task finds them as the moves before have left them, whoever made those, and leaves them
to the next.  In which order the tasks get to run is left open.
-/

namespace GameTransport

structure Crowd (α : Type) where
  context : ServerContext
  /-- Oldest first. -/
  tasks : List (Task α) := []

/-- What can happen to a crowd. -/
inductive Turn (α : Type) where
  /-- A client is accepted. -/
  | accept (id : ConnectionId) (peer : Option SocketAddress) (entropy : Entropy) (app : α)
  /-- The task at a place makes a move. -/
  | move (place : Nat) (move : Move)

/-- Has a task find other counters. -/
def Task.lend {α : Type} (metrics : Metrics) (t : Task α) : Task α :=
  t.resume (t.conversation.count fun _ => metrics) t.moment

namespace Crowd

variable {α : Type}

/-- The crowd of a server that just started. -/
def start (config : ServerConfig) (key : Option ServerKey) : Crowd α := ⟨{ config, key }, []⟩

def metrics (crowd : Crowd α) : Metrics := crowd.context.metrics

variable (registries : StateRegistries (Session α)) (z : Zlib.Library)

/-- The task at a place makes a move. -/
def move (place : Nat) (move : Move) (crowd : Crowd α) : Crowd α :=
  match crowd.tasks[place]? with
  | none => crowd
  | some t =>
    let t := (t.lend crowd.metrics).step registries z move
    { context := { crowd.context with metrics := t.conversation.metrics }
      tasks := crowd.tasks.set place t }

def step (crowd : Crowd α) : Turn α → Crowd α
  | .accept id peer entropy app =>
    let session : Session α := { id, peer, server := crowd.context, entropy, app }
    { crowd with tasks := crowd.tasks ++ [Task.start session] }
  | .move place move => crowd.move registries z place move

def run (crowd : Crowd α) (turns : List (Turn α)) : Crowd α :=
  turns.foldl (step registries z) crowd

end Crowd

end GameTransport
