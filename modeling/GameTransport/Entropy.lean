import GameTransport.Bytes

/-!
# Random octets

Chance comes from outside: a supply of octets, of which some have been drawn.  Nothing is said
about the octets, so what holds of a session holds for every run of luck.
-/

namespace GameTransport

/-- Random octets, the next of them at place `drawn`. -/
structure Entropy where
  octet : Nat → UInt8
  drawn : Nat := 0

namespace Entropy

/-- Draws `count` octets. -/
def draw (entropy : Entropy) (count : Nat) : Bytes × Entropy :=
  ((List.range count).map fun k => entropy.octet (entropy.drawn + k),
    { entropy with drawn := entropy.drawn + count })

end Entropy

end GameTransport
