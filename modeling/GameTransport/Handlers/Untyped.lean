import GameTransport.Handlers
import GameTransport.Packet.Kind
import GameTransport.Registry.Untyped

/-!
# The default registries, the kinds not shown

The same handlers as in the tables that show the kinds, each put in with a factory for its kind.
-/

namespace GameTransport.Handlers

variable {α : Type}

/-- The default registries, the kinds not shown. -/
def untyped : StateRegistries (Session α) where
  handshaking :=
    let empty : Registry.Builder (Session α) := { name := ConnectionState.handshaking.name }
    (empty.addUntypedWith Packet.Kind.handshake handshake).build
  status :=
    let empty : Registry.Builder (Session α) := { name := ConnectionState.status.name }
    ((empty.addUntypedWith Packet.Kind.statusRequest statusRequest).addUntypedWith
      Packet.Kind.pingRequest pingRequest).build
  login :=
    let empty : Registry.Builder (Session α) := { name := ConnectionState.login.name }
    ((empty.addUntypedWith Packet.Kind.loginStart loginStart).addUntypedWith
      Packet.Kind.encryptionResponse encryptionResponse).build
  play :=
    let empty : Registry.Builder (Session α) := { name := ConnectionState.play.name }
    (((empty.addUntypedWith Packet.Kind.keepAlive keepAlive).onAttach
      (·.count Metrics.joined)).onDetach (·.count Metrics.left)).build

end GameTransport.Handlers
