import GameTransport.Packet.Family
import GameTransport.Registry

/-!
# Registries that do not show the kinds

A table may hold the entries of all kinds under one type.  An entry then knows how its packets are made
from a body, and its handler is given a packet of any kind.

```text
body → factory → packet of any kind → is it of the handler's kind? → handler
```

The factory and the handler of an entry are put in together, for one kind, so a handler finds packets
of its own kind only.  It looks nevertheless, and complains of any other.
-/

namespace GameTransport

variable {ι : Type} [Packet.Family ι]

/-- How the packets of a kind are made. -/
structure PacketType (ι : Type) [Packet.Family ι] where
  id : UInt32
  name : String
  factory : Reader (Packet.Any ι)

/-- A kind as a table knows it. -/
def PacketType.of (kind : ι) : PacketType ι where
  id := Packet.id (Packet.Family.Value kind)
  name := Packet.name (Packet.Family.Value kind)
  factory := Packet.Any.mk kind <$> Packet.read

variable {σ : Type}

/-- A handler for one kind as a handler for any packet. -/
def Handler.ofAny [DecidableEq ι] (kind : ι) (handler : Handler σ (Packet.Family.Value kind)) :
    Handler σ (Packet.Any ι) :=
  fun packet =>
    match packet.as? kind with
    | some value => handler value
    | none =>
      let name := Packet.name (Packet.Family.Value kind)
      throw (.invalidData (.other ("factory produced the wrong type for " ++ name)))

/-- An entry that reads with a factory. -/
def Entry.untyped (type : PacketType ι) (handler : Option (Handler σ (Packet.Any ι))) : Entry σ where
  Value := Packet.Any ι
  packet :=
    { id := type.id
      name := type.name
      read := type.factory
      write := fun packet => Packet.write packet.value }
  handler

namespace Registry.Builder

/-- Adds a kind whose packets are dropped. -/
def addUntyped (builder : Builder σ) (kind : ι) : Builder σ :=
  builder.insert (.untyped (.of kind) none)

/-- Adds a kind with a handler for its packets. -/
def addUntypedWith [DecidableEq ι] (builder : Builder σ) (kind : ι)
    (handler : Handler σ (Packet.Family.Value kind)) : Builder σ :=
  builder.insert (.untyped (.of kind) (some (.ofAny kind handler)))

end Registry.Builder

end GameTransport
