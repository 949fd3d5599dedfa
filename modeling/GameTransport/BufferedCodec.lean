import GameTransport.Cipher.Duplex
import GameTransport.Envelope
import GameTransport.Frame
import GameTransport.Zlib.Engine

/-!
# Codecs with buffers

A codec at work keeps a compressor, a decompressor and the buffers that it puts octets together in:
the envelope in one, the frame in a second and the ciphertext in a third.

```text
payload → envelope → scratch → scratch of the sealer → outgoing buffer
```

The buffers are filled anew for every payload, and the compressor and the decompressor are reset
after every stream, also where something goes wrong.  So nothing but the layers themselves passes
from one payload to the next.
-/

namespace GameTransport

variable {engine : Zlib.Engine}

/-- Puts payloads into envelopes and takes them out. -/
structure Packer (engine : Zlib.Engine) where
  threshold : Nat
  deflater : engine.Deflater
  inflater : engine.Inflater

namespace Packer

def new (threshold level : Nat) : Packer engine where
  threshold
  deflater := engine.deflater (min level Compression.maxLevel)
  inflater := engine.inflater

/-- Appends the envelope around a payload to a buffer. -/
def wrap (payload : Bytes) : EStateM Fault (Packer engine × Bytes) Unit := fun (packer, buffer) =>
  let length := payload.length
  if Compression.maxUncompressed < length then
    .error (.sizeExceeded "uncompressed payload" length Compression.maxUncompressed) (packer, buffer)
  else if length < packer.threshold then .ok () (packer, buffer ++ Varint.encode 0 ++ payload)
  else
    let buffer := buffer ++ Varint.encode length
    match engine.deflate payload packer.deflater with
    | .ok stream deflater =>
      .ok () ({ packer with deflater := engine.resetDeflater deflater }, buffer ++ stream)
    | .error text deflater =>
      .error (.badEnvelope (.other text))
        ({ packer with deflater := engine.resetDeflater deflater }, buffer)

/-- The payload in an envelope. -/
def unwrap (envelope : Bytes) : EStateM Fault (Packer engine) Bytes := fun packer =>
  match Varint.readU32 envelope with
  | .error fault _ => .error fault packer
  | .ok declared body =>
    let declared := declared.toNat
    if declared = 0 then .ok body packer
    else if declared < packer.threshold then
      .error (.badEnvelope (.belowThreshold declared packer.threshold)) packer
    else if Compression.maxUncompressed < declared then
      .error (.badEnvelope (.aboveMaximum declared Compression.maxUncompressed)) packer
    else
      -- Room for one octet more shows a stream that is too long.
      let (inflated, inflater) := engine.inflate (declared + 1) body packer.inflater
      let packer := { packer with inflater := engine.resetInflater inflater }
      match Compression.judge declared inflated with
      | .ok payload => .ok payload packer
      | .error fault => .error (.badEnvelope fault) packer

end Packer

/-- Both directions of an encrypted stream.  What goes out is encrypted in a buffer that grows to the
longest run of octets so far. -/
structure Sealer where
  duplex : Duplex
  scratch : Bytes := []

namespace Sealer

/-- Copies octets to the front of the buffer and encrypts them there. -/
def encrypt (sealer : Sealer) (plain : Bytes) : Bytes × Sealer :=
  let grown := sealer.scratch ++ List.replicate (plain.length - sealer.scratch.length) 0
  let loaded := plain ++ grown.drop plain.length
  let (front, duplex) := sealer.duplex.encrypt (loaded.take plain.length)
  (front, { duplex, scratch := front ++ loaded.drop plain.length })

def decrypt (sealer : Sealer) (cipher : Bytes) : Bytes × Sealer :=
  let (plain, duplex) := sealer.duplex.decrypt cipher
  (plain, { sealer with duplex })

end Sealer

/-- The layers of one end of a connection and their buffers. -/
structure BufferedCodec (engine : Zlib.Engine) where
  packer : Option (Packer engine) := none
  sealer : Option Sealer := none
  /-- How many octets at the front of the receive buffer are decrypted. -/
  decrypted : Nat := 0
  envelope : Bytes := []
  /-- The frame that is on its way out. -/
  scratch : Bytes := []

namespace BufferedCodec

/-- Wraps payloads from now on. -/
def enableCompression (codec : BufferedCodec engine) (threshold level : Nat) :
    BufferedCodec engine :=
  { codec with packer := some (.new threshold level) }

/-- Encrypts both directions from now on. -/
def enableEncryption (codec : BufferedCodec engine) (secret : SharedSecret) : BufferedCodec engine :=
  { codec with sealer := some { duplex := .ofSecret secret }, decrypted := 0 }

def threshold? (codec : BufferedCodec engine) : Option Nat := codec.packer.map (·.threshold)

def isEncrypted (codec : BufferedCodec engine) : Bool := codec.sealer.isSome

/-- Octets are taken off the front of the receive buffer. -/
def advance (codec : BufferedCodec engine) (count : Nat) : BufferedCodec engine :=
  { codec with decrypted := codec.decrypted - count }

/-- Puts the envelope around a payload together, if payloads are wrapped: what goes into the frame. -/
def wrap (payload : Bytes) : EStateM Fault (BufferedCodec engine) Bytes := fun codec =>
  match codec.packer with
  | none => .ok payload codec
  | some packer =>
    match Packer.wrap payload (packer, []) with
    | .ok () (packer, envelope) => .ok envelope { codec with packer := some packer, envelope }
    | .error fault (packer, envelope) =>
      .error fault { codec with packer := some packer, envelope }

/-- Puts the frame around a payload together. -/
def frame (payload : Bytes) : EStateM Fault (BufferedCodec engine) Unit := fun codec =>
  match wrap payload { codec with scratch := [] } with
  | .error fault codec => .error fault codec
  | .ok body codec =>
    match Frame.encode body with
    | .error fault => .error fault codec
    | .ok octets => .ok () { codec with scratch := codec.scratch ++ octets }

/-- The octets on their way out, encrypted if encryption is on. -/
def encrypt (codec : BufferedCodec engine) : Bytes × BufferedCodec engine :=
  match codec.sealer with
  | none => (codec.scratch, codec)
  | some sealer =>
    let (octets, sealer) := sealer.encrypt codec.scratch
    (octets, { codec with sealer := some sealer })

/-- The payload in a frame. -/
def unframe (frame : Bytes) : EStateM Fault (BufferedCodec engine) Bytes := fun codec =>
  match codec.packer with
  | none => .ok frame codec
  | some packer =>
    match Packer.unwrap frame packer with
    | .ok payload packer => .ok payload { codec with packer := some packer }
    | .error fault packer => .error fault { codec with packer := some packer }

end BufferedCodec

/-- A codec, the buffer that it decodes and the buffer that it encodes into. -/
structure Port (engine : Zlib.Engine) where
  codec : BufferedCodec engine := {}
  inbox : Bytes := []
  outbox : Bytes := []

namespace Port

/-- Appends the octets that carry a payload to the outgoing buffer. -/
def encode (payload : Bytes) : EStateM Fault (Port engine) Unit := fun port =>
  match BufferedCodec.frame payload port.codec with
  | .error fault codec => .error fault { port with codec }
  | .ok () codec =>
    let (octets, codec) := codec.encrypt
    .ok () { port with codec, outbox := port.outbox ++ octets }

/-- Decrypts what has arrived since the last time. -/
def decrypt (port : Port engine) : Port engine :=
  let codec := port.codec
  match codec.sealer with
  | none => port
  | some sealer =>
    if codec.decrypted < port.inbox.length then
      let (plain, sealer) := sealer.decrypt (port.inbox.drop codec.decrypted)
      { port with
        codec := { codec with sealer := some sealer, decrypted := port.inbox.length }
        inbox := port.inbox.take codec.decrypted ++ plain }
    else port

/-- The payload of the frame at the front of the receive buffer, or none if the frame is not
complete. -/
def decode : EStateM Fault (Port engine) (Option Bytes) := fun port =>
  let port := port.decrypt
  match Frame.split? port.inbox with
  | .error fault => .error fault port
  | .ok none => .ok none port
  | .ok (some (frame, inbox)) =>
    match BufferedCodec.unframe frame (port.codec.advance (port.inbox.length - inbox.length)) with
    | .ok payload codec => .ok (some payload) { port with codec, inbox }
    | .error fault codec => .error fault { port with codec, inbox }

@[simp] theorem length_decrypt (port : Port engine) :
    port.decrypt.inbox.length = port.inbox.length := by
  unfold decrypt
  dsimp only
  split
  · rfl
  · split
    · simp only [Sealer.decrypt, List.length_append, List.length_take, Duplex.length_decrypt,
        List.length_drop]
      omega
    · rfl

/-- A payload that is decoded leaves a shorter buffer. -/
theorem length_lt_of_decode {port rest : Port engine} {payload : Bytes}
    (decoded : decode port = .ok (some payload) rest) : rest.inbox.length < port.inbox.length := by
  rw [← length_decrypt port]
  unfold decode at decoded
  dsimp only at decoded
  split at decoded
  · cases decoded
  · cases decoded
  · rename_i frame inbox split
    split at decoded
    · cases decoded
      exact Frame.length_lt_of_split? split
    · cases decoded

/-- Octets arrive. -/
def arrive (octets : Bytes) (port : Port engine) : Port engine :=
  { port with inbox := port.inbox ++ octets }

/-- Decodes until no frame is complete or a fault arises. -/
def drain (port : Port engine) : List Bytes × Option Fault × Port engine :=
  match _decoded : decode port with
  | .error fault port => ([], some fault, port)
  | .ok none port => ([], none, port)
  | .ok (some payload) port =>
    let (payloads, fault?, port) := drain port
    (payload :: payloads, fault?, port)
termination_by port.inbox.length
decreasing_by exact length_lt_of_decode _decoded

end Port

end GameTransport
