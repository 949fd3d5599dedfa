import GameTransport.Bytes

/-!
# UTF-16

A character of the basic plane is one unit of sixteen bits; any other is a pair of surrogates, ten
bits of the character in each.
-/

namespace GameTransport.Utf16

/-- The units of one character. -/
def units (c : Char) : List UInt16 :=
  let n := c.toNat
  if n < 0x10000 then [UInt16.ofNat n]
  else
    let n := n - 0x10000
    [UInt16.ofNat (0xD800 + n / 1024), UInt16.ofNat (0xDC00 + n % 1024)]

/-- The units of a text. -/
def encode (text : String) : List UInt16 := text.toList.flatMap units

/-- The octets of a run of units, the high octet of each first. -/
def toBytes (units : List UInt16) : Bytes := units.flatMap fun unit => Bytes.ofNat 2 unit.toNat

end GameTransport.Utf16
