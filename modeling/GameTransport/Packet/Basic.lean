import GameTransport.Wire.Field

/-!
# Packets

The payload of a frame is a packet: the number of its kind and then its body.

```text
[number of the kind: variable length][body]
```

`Packet` makes a type a kind of packet.  The number of a kind is unique within one connection
state only.
-/

namespace GameTransport

/-- A type whose values are the packets of one kind. -/
class Packet (α : Type) where
  /-- The number of the kind. -/
  id : UInt32
  /-- The name of the kind, for faults. -/
  name : String
  /-- Reads a body. -/
  read : Reader α
  /-- Writes a body. -/
  write : α → Bytes

namespace Packet

/-- The number of a packet's kind and its body. -/
def encode {α : Type} [Packet α] (packet : α) : Bytes :=
  Varint.encode (id α).toNat ++ write packet

end Packet

/-- A packet whose body has not been read. -/
structure RawPacket where
  id : UInt32
  body : Bytes
  deriving DecidableEq, Repr

namespace RawPacket

def read : Reader RawPacket := do
  let id ← Varint.readU32
  let body ← Reader.rest
  return ⟨id, body⟩

/-- Splits a payload into the number of the kind and the body. -/
def decode (payload : Bytes) : Except Fault RawPacket :=
  match read payload with
  | .ok packet _ => .ok packet
  | .error fault _ => .error fault

def encode (packet : RawPacket) : Bytes := Varint.encode packet.id.toNat ++ packet.body

end RawPacket

/-- The packet of one kind at the front of a payload, and what stands after it. -/
def Packet.split? {α : Type} [packet : Packet α] (payload : Bytes) : Option (α × Bytes) :=
  match RawPacket.decode payload with
  | .error _ => none
  | .ok raw =>
    if raw.id = packet.id then
      match packet.read raw.body with
      | .ok value rest => some (value, rest)
      | .error _ _ => none
    else none

/-- The packet of one kind that a payload is, if it is one. -/
def Packet.ofPayload? {α : Type} [Packet α] (payload : Bytes) : Option α :=
  match Packet.split? payload with
  | some (packet, []) => some packet
  | _ => none

end GameTransport
