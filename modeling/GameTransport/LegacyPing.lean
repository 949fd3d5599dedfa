import GameTransport.Text.Utf16

/-!
# The ping of old clients

Clients from before the framed protocol open with the octet `FE` where a frame has its length.
They get one answer, in the layout below, and the connection closes.

```text
[FF][number of units: 2 octets][text in UTF-16, high octet first]
```

The text is a section sign and a one, the protocol number, the version, the message of the day,
the players online and the most players, each after a NUL.
-/

namespace GameTransport

namespace LegacyPing

/-- The octet that old clients open with. -/
def opening : UInt8 := 0xFE

/-- The octet that the answer opens with. -/
def answer : UInt8 := 0xFF

/-- The most units that fit the length of the answer. -/
def maxUnits : Nat := 65535

/-- What an old client is told about the server. -/
structure Status where
  protocol : Int32
  version : String
  motd : String
  online : UInt64
  max : UInt64
  deriving DecidableEq, Repr

namespace Status

/-- The members of the answer in their order. -/
def members (status : Status) : List String :=
  ["§1", toString status.protocol.toInt, status.version, status.motd,
    toString status.online.toNat, toString status.max.toNat]

def text (status : Status) : String := "\x00".intercalate status.members

/-- The answer.  Units that do not fit its length are cut off. -/
def encode (status : Status) : Bytes :=
  let units := (Utf16.encode status.text).take maxUnits
  answer :: Bytes.ofNat 2 units.length ++ Utf16.toBytes units

end Status

end LegacyPing

end GameTransport
