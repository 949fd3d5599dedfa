import GameTransport.Bytes
import GameTransport.Text.Hexadecimal

/-!
# Universally unique identifiers

A player is known by 128 bits.  In text they are thirty-two hexadecimal digits in groups of 8, 4,
4, 4 and 12; the version of an identifier is its thirteenth digit.
-/

namespace GameTransport

/-- A number of 128 bits that names a player. -/
structure Uuid where
  bits : BitVec 128
  deriving DecidableEq, Repr

namespace Uuid

/-- The identifier with the given sixteen octets. -/
def ofBytes (bytes : Bytes) : Uuid := ⟨BitVec.ofNat 128 bytes.toNat⟩

/-- The sixteen octets of an identifier, most significant first. -/
def toBytes (uuid : Uuid) : Bytes := Bytes.ofNat 16 uuid.bits.toNat

/-- The version that an identifier claims. -/
def version (uuid : Uuid) : Nat := (uuid.bits >>> 76).toNat % 16

/-- The identifier of version 4 made from sixteen random octets: six bits are fixed, the version
and the variant. -/
def ofRandom (bytes : Bytes) : Uuid :=
  let fixed := BitVec.ofNat 128 (15 <<< 76) ||| BitVec.ofNat 128 (3 <<< 62)
  let cleared := (ofBytes bytes).bits &&& ~~~fixed
  ⟨cleared ||| BitVec.ofNat 128 (4 <<< 76) ||| BitVec.ofNat 128 (2 <<< 62)⟩

/-- The digits in their five groups. -/
def text (uuid : Uuid) : String :=
  let digits := (Hexadecimal.pad 32 uuid.bits.toNat).toList
  let group (start size : Nat) : String := String.ofList ((digits.drop start).take size)
  "-".intercalate [group 0 8, group 8 4, group 12 4, group 16 4, group 20 12]

/-- Reads five groups of digits. -/
def ofText? (text : String) : Option Uuid :=
  let groups := text.toList.splitOn '-'
  if groups.map List.length = [8, 4, 4, 4, 12] then
    (Hexadecimal.number? groups.flatten).map fun n => ⟨BitVec.ofNat 128 n⟩
  else none

end Uuid

end GameTransport
