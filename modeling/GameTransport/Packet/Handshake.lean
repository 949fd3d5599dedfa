import GameTransport.ConnectionState
import GameTransport.Packet.Basic

/-!
# The packet of HANDSHAKING

The first packet of every connection says which protocol the client speaks, which address it
connected to and which state it asks for.
-/

namespace GameTransport

/-- Asks for STATUS or LOGIN. -/
structure Handshake where
  protocolVersion : Int32
  serverAddress : String
  serverPort : UInt16
  nextState : ConnectionState
  deriving DecidableEq, Repr

namespace Handshake

/-- The most characters of an address. -/
def maxAddress : Nat := 255

instance : Packet Handshake where
  id := 0x00
  name := "Handshake"
  read := do
    let protocolVersion ← Field.varU32.read
    let serverAddress ← (Field.string maxAddress).read
    let serverPort ← Field.u16.read
    let asked ← Field.varU32.read
    match ConnectionState.requested asked.toInt32 with
    | .ok nextState =>
      return { protocolVersion := protocolVersion.toInt32, serverAddress, serverPort, nextState }
    | .error fault => throw fault
  write packet :=
    Field.varU32.write packet.protocolVersion.toUInt32
      ++ (Field.string maxAddress).write packet.serverAddress
      ++ Field.u16.write packet.serverPort
      ++ Field.varU32.write packet.nextState.id.toUInt32

end Handshake

end GameTransport
