import GameTransport.Packet.Family
import GameTransport.Packet.Handshake
import GameTransport.Packet.Play
import GameTransport.Packet.Status

/-!
# The kinds of packets

The kinds that the transport itself knows, of all the states.
-/

namespace GameTransport

namespace Packet

/-- A kind of packet that the transport knows. -/
inductive Kind where
  | handshake
  | statusRequest
  | statusResponse
  | pingRequest
  | pongResponse
  | loginStart
  | encryptionRequest
  | encryptionResponse
  | loginDisconnect
  | loginSuccess
  | setCompression
  | keepAlive
  | disconnect
  deriving DecidableEq, Repr

/-- The packets of a kind. -/
def Kind.Value : Kind → Type
  | handshake => Handshake
  | statusRequest => StatusRequest
  | statusResponse => StatusResponse
  | pingRequest => PingRequest
  | pongResponse => PongResponse
  | loginStart => LoginStart
  | encryptionRequest => EncryptionRequest
  | encryptionResponse => EncryptionResponse
  | loginDisconnect => LoginDisconnect
  | loginSuccess => LoginSuccess
  | setCompression => SetCompression
  | keepAlive => KeepAlive
  | disconnect => Disconnect

instance Kind.packet : (kind : Kind) → Packet kind.Value
  | handshake => inferInstanceAs (Packet Handshake)
  | statusRequest => inferInstanceAs (Packet StatusRequest)
  | statusResponse => inferInstanceAs (Packet StatusResponse)
  | pingRequest => inferInstanceAs (Packet PingRequest)
  | pongResponse => inferInstanceAs (Packet PongResponse)
  | loginStart => inferInstanceAs (Packet LoginStart)
  | encryptionRequest => inferInstanceAs (Packet EncryptionRequest)
  | encryptionResponse => inferInstanceAs (Packet EncryptionResponse)
  | loginDisconnect => inferInstanceAs (Packet LoginDisconnect)
  | loginSuccess => inferInstanceAs (Packet LoginSuccess)
  | setCompression => inferInstanceAs (Packet SetCompression)
  | keepAlive => inferInstanceAs (Packet KeepAlive)
  | disconnect => inferInstanceAs (Packet Disconnect)

instance : Family Kind where
  Value := Kind.Value
  packet := Kind.packet

end Packet

end GameTransport
