import GameTransport.Packet.Basic

/-!
# Packets that do not show their kind

An application brings packets of its own, so a table does not know beforehand which kinds it will
hold.  A family is any collection of kinds.  A packet of a family is kept together with its kind, and
is given out again to whoever asks for that kind.
-/

namespace GameTransport.Packet

/-- Kinds of packets, as many as there may be.  Two of them may have one number. -/
class Family (ι : Type) where
  /-- The packets of a kind. -/
  Value : ι → Type
  packet : (kind : ι) → Packet (Value kind)

instance {ι : Type} [Family ι] (kind : ι) : Packet (Family.Value kind) := Family.packet kind

/-- A packet with its kind. -/
structure Any (ι : Type) [Family ι] where
  kind : ι
  value : Family.Value kind

/-- The packet, if it is of the kind that is asked for. -/
def Any.as? {ι : Type} [Family ι] [DecidableEq ι] (packet : Any ι) (kind : ι) :
    Option (Family.Value kind) :=
  if same : packet.kind = kind then some (same ▸ packet.value) else none

end GameTransport.Packet
