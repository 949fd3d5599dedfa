import GameTransport.Client
import GameTransport.Connection

/-!
# Links

A client and a connection, and the stream between them.  What the client sends arrives at once, as
one run of octets; what the connection writes waits until the client looks at it.
-/

namespace GameTransport

structure Link (α : Type) where
  connection : Connection α
  client : Client := {}
  /-- How many of the octets written by the connection the client has looked at. -/
  seen : Nat := 0

namespace Link

variable {α : Type} (registries : StateRegistries (Session α)) (z : Zlib.Library)

/-- Events happen to the connection, which delivers in the end what was posted. -/
def act (events : List Event) (link : Link α) : Link α :=
  { link with connection := link.connection.run registries z (events ++ [.delivered]) }

/-- The client sends payloads in one write.  If one cannot be encoded, none is sent. -/
def transmit (payloads : List Bytes) : EStateM Fault (Link α) Unit := fun link =>
  match payloads.mapM (Client.send z) link.client with
  | .ok octets client => .ok () ({ link with client }.act registries z [.received octets.flatten])
  | .error fault client => .error fault { link with client }

/-- Takes what the connection has written and the client has not looked at. -/
def take (link : Link α) : Bytes × Link α :=
  let written := link.connection.conversation.written
  (written.drop link.seen, { link with seen := written.length })

/-- The client reads what the connection has written, and gives up what it cannot decode. -/
def receive (link : Link α) : List Bytes × Option Fault × Link α :=
  let (octets, link) := link.take
  let (payloads, fault?, client) := link.client.receive z octets
  let client := if fault?.isSome then client.discard else client
  (payloads, fault?, { link with client })

end Link

end GameTransport
