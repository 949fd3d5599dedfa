import GameTransport.Cipher.Duplex
import GameTransport.Envelope
import GameTransport.Frame

/-!
# The codec of a connection

```text
inbound:  octets → decrypt → frame → unwrap → payload
outbound: payload → wrap → frame → encrypt → octets
```

Encryption and compression start switched off and are switched on in mid-stream.  Switching
encryption on concerns every octet not yet taken as part of a frame, also those that have already
arrived: the codec counts the octets at the front of the receive buffer that it has decrypted, and
starts that count over.

A payload that cannot be encoded leaves the codec as it was.  A frame that cannot be unwrapped has
been taken off the buffer.
-/

namespace GameTransport

/-- The layers of one end of a connection. -/
structure Codec where
  compression : Option Compression := none
  cipher : Option Duplex := none
  /-- How many octets at the front of the receive buffer are decrypted. -/
  decrypted : Nat := 0

namespace Codec

/-- Wraps payloads from now on. -/
def enableCompression (codec : Codec) (threshold level : Nat) : Codec :=
  { codec with compression := some ⟨threshold, level⟩ }

/-- Encrypts both directions from now on. -/
def enableEncryption (codec : Codec) (secret : SharedSecret) : Codec :=
  { codec with cipher := some (.ofSecret secret), decrypted := 0 }

def threshold? (codec : Codec) : Option Nat := codec.compression.map (·.threshold)

def isEncrypted (codec : Codec) : Bool := codec.cipher.isSome

/-- A codec and the octets it has received and not yet taken. -/
structure Inlet where
  codec : Codec
  buffer : Bytes

/-- Decrypts what has arrived since the last time. -/
def Inlet.decrypt (inlet : Inlet) : Inlet :=
  let codec := inlet.codec
  match codec.cipher with
  | none => inlet
  | some cipher =>
    match inlet.buffer.drop codec.decrypted with
    | [] => inlet
    | fresh =>
      let (plain, cipher) := cipher.decrypt fresh
      let buffer := inlet.buffer.take codec.decrypted ++ plain
      { codec := { codec with cipher := some cipher, decrypted := buffer.length }
        buffer }

/-- Takes the frame at the front of the buffer, if all of it is there. -/
def Inlet.takeFrame (inlet : Inlet) : Except Fault (Option (Bytes × Inlet)) :=
  (Frame.split? inlet.buffer).map fun split => split.map fun (frame, buffer) =>
    let taken := inlet.buffer.length - buffer.length
    (frame, { codec := { inlet.codec with decrypted := inlet.codec.decrypted - taken }, buffer })

/-- The payload in a frame. -/
def unframe (z : Zlib.Library) (codec : Codec) (frame : Bytes) : Except Fault Bytes :=
  match codec.compression with
  | some compression => compression.unwrap z frame
  | none => .ok frame

/-- The payload of the frame at the front of the buffer, or none if the frame is not complete. -/
def decode (z : Zlib.Library) : EStateM Fault Inlet (Option Bytes) := fun inlet =>
  let inlet := inlet.decrypt
  match inlet.takeFrame with
  | .error fault => .error fault inlet
  | .ok none => .ok none inlet
  | .ok (some (frame, inlet)) =>
    match inlet.codec.unframe z frame with
    | .error fault => .error fault inlet
    | .ok payload => .ok (some payload) inlet

@[simp] theorem Inlet.length_decrypt (inlet : Inlet) :
    inlet.decrypt.buffer.length = inlet.buffer.length := by
  unfold decrypt
  dsimp only
  split
  · rfl
  · split
    · rfl
    · simp only [List.length_append, List.length_take, Duplex.length_decrypt, List.length_drop]
      omega

/-- A payload that is decoded leaves a shorter buffer. -/
theorem length_lt_of_decode {z : Zlib.Library} {inlet rest : Inlet} {payload : Bytes}
    (h : decode z inlet = .ok (some payload) rest) : rest.buffer.length < inlet.buffer.length := by
  rw [← Inlet.length_decrypt inlet]
  unfold decode at h
  dsimp only at h
  split at h
  · cases h
  · cases h
  · rename_i frame taken ht
    split at h
    · cases h
    · cases h
      unfold Inlet.takeFrame at ht
      cases hs : Frame.split? inlet.decrypt.buffer with
      | error fault => rw [hs] at ht; cases ht
      | ok split? =>
        cases split? with
        | none => rw [hs] at ht; cases ht
        | some split =>
          rw [hs] at ht
          cases ht
          exact Frame.length_lt_of_split? hs

/-- What decoding a buffer to its end came to. -/
structure Drained where
  payloads : List Bytes
  /-- What stopped it, unless no more frame was complete. -/
  fault : Option Fault
  inlet : Inlet

/-- Decodes until no frame is complete or a fault arises. -/
def drain (z : Zlib.Library) (inlet : Inlet) : Drained :=
  match _decoded : decode z inlet with
  | .error fault inlet => ⟨[], some fault, inlet⟩
  | .ok none inlet => ⟨[], none, inlet⟩
  | .ok (some payload) inlet =>
    let drained := drain z inlet
    { drained with payloads := payload :: drained.payloads }
termination_by inlet.buffer.length
decreasing_by exact length_lt_of_decode _decoded

/-- The frame around a payload, not encrypted yet. -/
def frame (z : Zlib.Library) (codec : Codec) (payload : Bytes) : Except Fault Bytes :=
  match codec.compression with
  | some compression => compression.wrap z payload >>= Frame.encode
  | none => Frame.encode payload

/-- The octets that carry a payload. -/
def encode (z : Zlib.Library) (payload : Bytes) : EStateM Fault Codec Bytes := fun codec =>
  match codec.frame z payload with
  | .error fault => .error fault codec
  | .ok frame =>
    match codec.cipher with
    | none => .ok frame codec
    | some cipher =>
      let (octets, cipher) := cipher.encrypt frame
      .ok octets { codec with cipher := some cipher }

end Codec

end GameTransport
