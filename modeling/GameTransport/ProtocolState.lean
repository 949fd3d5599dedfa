import GameTransport.StateRegistries

/-!
# Protocol states

A connection keeps the registry that is active beside the state that it is in.  A transition changes
both before it runs a hook, so the hooks of the new registry find it active.
-/

namespace GameTransport

/-- The state of one connection and the registry that is active in it. -/
structure ProtocolState (σ : Type) : Type 1 where
  registries : StateRegistries σ
  state : ConnectionState
  active : Registry σ

namespace ProtocolState

variable {σ : Type}

def start (registries : StateRegistries σ) : ProtocolState σ where
  registries
  state := .handshaking
  active := registries.active .handshaking

/-- Hands a payload to the registry that is active. -/
def dispatch (protocol : ProtocolState σ) (payload : Bytes) : EStateM Fault σ Dispatched :=
  protocol.active.dispatch payload

/-- Moves to another state, and runs the hooks of both registries.  A move that the arrows do not
allow is refused before anything is done. -/
def transition (protocol : ProtocolState σ) (target : ConnectionState) (context : σ) :
    Except Fault Unit × ProtocolState σ × σ :=
  if protocol.state.canMoveTo target then
    let moved : ProtocolState σ :=
      { protocol with state := target, active := protocol.registries.active target }
    (.ok (), moved, protocol.active.detach (moved.active.attach context))
  else (.error (.invalidTransition protocol.state.name target.name), protocol, context)

end ProtocolState

end GameTransport
