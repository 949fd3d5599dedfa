import GameTransport.Wire.Varint
import GameTransport.Zlib.Basic

/-!
# Compression envelopes

```text
[N: variable length][N = 0: the payload | otherwise: a stream that inflates to N octets]
```

A payload shorter than the threshold travels as it is, under `N = 0`.  A peer that claims
compression for less than the threshold, or for more than the protocol allows, is refused before
anything is inflated, and nothing is inflated past one octet more than was declared.

Each envelope is a stream of its own.
-/

namespace GameTransport

/-- When and how hard payloads are compressed. -/
structure Compression where
  /-- The length from which on a payload is compressed. -/
  threshold : Nat
  /-- The effort, from 0 to 9; a greater one counts as 9. -/
  level : Nat
  deriving DecidableEq, Repr

namespace Compression

/-- The most octets that an envelope may declare. -/
def maxUncompressed : Nat := 2097152

/-- The effort where none is asked for. -/
def defaultLevel : Nat := 6

/-- The most effort. -/
def maxLevel : Nat := 9

variable (z : Zlib.Library) (c : Compression)

/-- The envelope around a payload. -/
def wrap (payload : Bytes) : Except Fault Bytes :=
  let length := payload.length
  if maxUncompressed < length then
    .error (.sizeExceeded "uncompressed payload" length maxUncompressed)
  else if length < c.threshold then .ok (Varint.encode 0 ++ payload)
  else .ok (Varint.encode length ++ z.deflate (min c.level maxLevel) payload)

/-- Judges what inflating to `declared` octets came to. -/
def judge (declared : Nat) : Zlib.Inflated → Except EnvelopeFault Bytes
  | .corrupt => .error .corrupt
  | .stopped output =>
    if output.length ≠ declared then .error (.sizeMismatch output.length declared)
    else .error .missingChecksum
  | .finished output unread =>
    if output.length ≠ declared then .error (.sizeMismatch output.length declared)
    else if unread ≠ 0 then .error (.trailing unread)
    else .ok output

/-- What an envelope holds that declares `declared` octets. -/
def open? (declared : Nat) (body : Bytes) : Except EnvelopeFault Bytes :=
  if declared = 0 then .ok body
  else if declared < c.threshold then .error (.belowThreshold declared c.threshold)
  else if maxUncompressed < declared then .error (.aboveMaximum declared maxUncompressed)
  else judge declared (z.inflate (declared + 1) body)

/-- The payload in an envelope. -/
def unwrap (envelope : Bytes) : Except Fault Bytes :=
  match Varint.readU32 envelope with
  | .error fault _ => .error fault
  | .ok declared body => (c.open? z declared.toNat body).mapError .badEnvelope

end Compression

end GameTransport
