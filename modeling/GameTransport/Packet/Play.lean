import GameTransport.Packet.Login

/-!
# The packets of PLAY

Those that the transport itself knows: probes that keep a connection from falling silent, and the
reason for closing it.
-/

namespace GameTransport

/-- A probe; the client sends its number back. -/
structure KeepAlive where
  id : Int64
  deriving DecidableEq, Repr

/-- Closes the connection, with a reason in JSON. -/
structure Disconnect where
  reason : String
  deriving DecidableEq, Repr

instance : Packet KeepAlive where
  id := 0x00
  name := "KeepAlive"
  read := KeepAlive.mk <$> Field.i64.read
  write packet := Field.i64.write packet.id

instance : Packet Disconnect where
  id := 0x01
  name := "Disconnect"
  read := Disconnect.mk <$> (Field.string maxReason).read
  write packet := (Field.string maxReason).write packet.reason

end GameTransport
