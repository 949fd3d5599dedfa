/-!
# Connection identifiers

Numbers handed out in order, each once, until 64 bits run out and the count starts over.
-/

namespace GameTransport

/-- Names one connection for the life of a server. -/
structure ConnectionId where
  value : UInt64
  deriving DecidableEq, Repr

namespace ConnectionId

/-- The number after a hash sign. -/
def text (id : ConnectionId) : String := "#" ++ toString id.value.toNat

/-- The identifiers not handed out yet: the least of them. -/
structure Supply where
  next : UInt64 := 0
  deriving DecidableEq, Repr

/-- Hands out the least identifier left. -/
def Supply.take (supply : Supply) : ConnectionId × Supply :=
  (⟨supply.next⟩, ⟨supply.next + 1⟩)

end ConnectionId

end GameTransport
