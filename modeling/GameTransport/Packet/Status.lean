import GameTransport.Packet.Basic

/-!
# The packets of STATUS

A client asks for the document of the server list and measures the time a ping takes.
-/

namespace GameTransport

/-- Asks for the document. -/
structure StatusRequest where
  deriving DecidableEq, Repr

/-- Carries the document. -/
structure StatusResponse where
  json : String
  deriving DecidableEq, Repr

/-- Asks for its payload back. -/
structure PingRequest where
  payload : Int64
  deriving DecidableEq, Repr

/-- Gives the payload of a ping back. -/
structure PongResponse where
  payload : Int64
  deriving DecidableEq, Repr

/-- The most characters of a document. -/
def StatusResponse.maxJson : Nat := 32767

instance : Packet StatusRequest where
  id := 0x00
  name := "StatusRequest"
  read := return {}
  write _ := []

instance : Packet StatusResponse where
  id := 0x00
  name := "StatusResponse"
  read := StatusResponse.mk <$> (Field.string StatusResponse.maxJson).read
  write packet := (Field.string StatusResponse.maxJson).write packet.json

instance : Packet PingRequest where
  id := 0x01
  name := "PingRequest"
  read := PingRequest.mk <$> Field.i64.read
  write packet := Field.i64.write packet.payload

instance : Packet PongResponse where
  id := 0x01
  name := "PongResponse"
  read := PongResponse.mk <$> Field.i64.read
  write packet := Field.i64.write packet.payload

end GameTransport
