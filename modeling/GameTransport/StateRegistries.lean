import GameTransport.ConnectionState
import GameTransport.Registry

/-!
# A registry for each connection state

The registry of the state that a connection is in is the active one.  A move to another state
attaches the new registry before it detaches the old one.
-/

namespace GameTransport

structure StateRegistries (σ : Type) : Type 1 where
  handshaking : Registry σ
  status : Registry σ
  login : Registry σ
  play : Registry σ

namespace StateRegistries

variable {σ : Type}

/-- The active registry in a state. -/
def active (registries : StateRegistries σ) : ConnectionState → Registry σ
  | .handshaking => registries.handshaking
  | .status => registries.status
  | .login => registries.login
  | .play => registries.play

/-- The context after a move from `source` to `target`. -/
def transition (registries : StateRegistries σ) (source target : ConnectionState) (context : σ) :
    Except Fault σ :=
  if source.canMoveTo target then
    .ok ((registries.active source).detach ((registries.active target).attach context))
  else .error (.invalidTransition source.name target.name)

end StateRegistries

end GameTransport
