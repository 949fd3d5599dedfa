import GameTransport.Connection
import GameTransport.Handlers

/-!
# Servers

A server accepts clients up to a limit, gives every connection a number of its own and shares one
context among them.  The counters are the part of the context that changes: a connection is lent
them for the time of an event and hands them back.

A connection that has closed is forgotten at once.
-/

namespace GameTransport

structure Server (α : Type) where
  context : ServerContext
  supply : ConnectionId.Supply := {}
  /-- The connections that have not closed, oldest first. -/
  connections : List (ConnectionId × Connection α) := []

namespace Server

variable {α : Type}

/-- A server that nobody has connected to; `key` is a fresh key pair. -/
def start (config : ServerConfig) (key : ServerKey) : Except Fault (Server α) :=
  match config.problem? with
  | some problem => .error (.config problem.refusal)
  | none => .ok { context := .start config key }

def connectionCount (server : Server α) : Nat := server.connections.length

/-- The connection with a number, unless it has closed. -/
def connection? (server : Server α) (id : ConnectionId) : Option (Connection α) :=
  server.connections.lookup id

/-- Posts a message on every connection that takes it. -/
def post (message : Message) (server : Server α) : Server α :=
  let posted (c : Connection α) : Connection α := (c.post message).toOption.getD c
  { server with connections := server.connections.map fun (id, c) => (id, posted c) }

/-- Posts a packet on every connection that takes it.  How many take it. -/
def broadcast {β : Type} [Packet β] (packet : β) (server : Server α) : Nat × Server α :=
  let message := Message.packet (Packet.encode packet)
  let takers := server.connections.filter fun (_, c) => (c.post message).toOption.isSome
  (takers.length, server.post message)

/-- Takes the counters back from a connection. -/
def takeMetrics (server : Server α) (c : Connection α) : Server α :=
  { server with context := { server.context with metrics := c.session.server.metrics } }

/-- Lends the counters to a connection. -/
def lendMetrics (server : Server α) (c : Connection α) : Connection α :=
  let session := c.session.count fun _ => server.context.metrics
  { c with conversation := { c.conversation with session } }

/-- Puts a connection back, unless it has closed. -/
def put (server : Server α) (id : ConnectionId) (c : Connection α) : Server α :=
  let connections :=
    if c.isClosed then server.connections.filter (·.1 != id)
    else server.connections.map fun entry => if entry.1 = id then (id, c) else entry
  { server with connections }

/-- Accepts a client, or turns it away if there are too many. -/
def accept (registries : StateRegistries (Session α)) (peer : SocketAddress) (entropy : Entropy)
    (app : α) (server : Server α) : Option ConnectionId × Server α :=
  if server.context.config.maxConnections.toNat ≤ server.connectionCount then
    let metrics := server.context.metrics.rejected
    (none, { server with context := { server.context with metrics } })
  else
    let (id, supply) := server.supply.take
    let session : Session α := { id, peer := some peer, server := server.context, entropy, app }
    let c := Connection.start registries session
    let server := server.takeMetrics c
    let server := { server with supply, connections := server.connections ++ [(id, c)] }
    (some id, server.put id c)

/-- What an event on one of its connections makes of a server. -/
def step (registries : StateRegistries (Session α)) (z : Zlib.Library) (id : ConnectionId)
    (event : Event) (server : Server α) : Server α :=
  match server.connection? id with
  | none => server
  | some c =>
    let c := (server.lendMetrics c).step registries z event
    (server.takeMetrics c).put id c

/-- Asks every connection to close. -/
def shutDown (server : Server α) : Server α := server.post .disconnect

/-- What a server is asked for. -/
inductive Request (α : Type) where
  | accept (peer : SocketAddress) (entropy : Entropy) (app : α)
  | event (id : ConnectionId) (event : Event)
  | post (message : Message)
  | shutDown

variable (registries : StateRegistries (Session α)) (z : Zlib.Library)

def serve (server : Server α) : Request α → Server α
  | .accept peer entropy app => (server.accept registries peer entropy app).2
  | .event id event => server.step registries z id event
  | .post message => server.post message
  | .shutDown => server.shutDown

/-- What a list of requests makes of a server. -/
def run (server : Server α) (requests : List (Request α)) : Server α :=
  requests.foldl (serve registries z) server

end Server

end GameTransport
