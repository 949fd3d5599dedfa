import GameTransport.Codec
import GameTransport.Packet.Login

/-!
# Clients

The other end of a connection, as far as its layers go.  While its login lasts, a client follows
the server: it compresses from the octet after SetCompression on, and keeps the token of an
EncryptionRequest for the answer.  When it encrypts is up to the client itself: right after it has
sent the answer.

The packet with the number of LoginSuccess ends the login.  What comes after it is of another
state, where the same numbers stand for other packets.
-/

namespace GameTransport

structure Client where
  inlet : Codec.Inlet := ⟨{}, []⟩
  /-- The token that the server wants to have back. -/
  token : Option Bytes := none
  /-- Whether the login is over. -/
  isLoggedIn : Bool := false

namespace Client

/-- The client with another codec. -/
def withCodec (client : Client) (codec : Codec) : Client :=
  { client with inlet := { client.inlet with codec } }

/-- Gives up what has arrived and is no complete frame. -/
def discard (client : Client) : Client :=
  { client with inlet := { client.inlet with buffer := [] } }

/-- Encrypts both directions from now on. -/
def encrypt (client : Client) (secret : SharedSecret) : Client :=
  client.withCodec (client.inlet.codec.enableEncryption secret)

/-- Compresses from now on. -/
def compress (client : Client) (threshold : Nat) : Client :=
  client.withCodec (client.inlet.codec.enableCompression threshold Compression.defaultLevel)

/-- Whether a payload ends the login. -/
def endsLogin (payload : Bytes) : Bool :=
  match RawPacket.decode payload with
  | .ok packet => packet.id == Packet.id LoginSuccess
  | .error _ => false

/-- Follows a packet of the login.  Of SetCompression it reads the threshold and no further. -/
def follow (client : Client) (payload : Bytes) : Client :=
  if client.isLoggedIn then client
  else if endsLogin payload then { client with isLoggedIn := true }
  else
    match (Packet.split? payload : Option (SetCompression × Bytes)) with
    | some (packet, _) => client.compress packet.threshold.toNat
    | none =>
      match (Packet.ofPayload? payload : Option EncryptionRequest) with
      | some packet => { client with token := some packet.verifyToken }
      | none => client

@[simp] theorem buffer_follow (client : Client) (payload : Bytes) :
    (client.follow payload).inlet.buffer = client.inlet.buffer := by
  unfold follow
  split
  · rfl
  · split
    · rfl
    · split
      · rfl
      · split <;> rfl

variable (z : Zlib.Library)

/-- The octets that carry a payload to the server. -/
def send (payload : Bytes) : EStateM Fault Client Bytes := fun client =>
  match Codec.encode z payload client.inlet.codec with
  | .ok octets codec => .ok octets (client.withCodec codec)
  | .error fault codec => .error fault (client.withCodec codec)

/-- Reads and follows the payloads in the buffer, up to the first that cannot be decoded. -/
def drain (client : Client) : List Bytes × Option Fault × Client :=
  match _decoded : Codec.decode z client.inlet with
  | .error fault inlet => ([], some fault, { client with inlet })
  | .ok none inlet => ([], none, { client with inlet })
  | .ok (some payload) inlet =>
    let (payloads, fault?, client) := drain ({ client with inlet }.follow payload)
    (payload :: payloads, fault?, client)
termination_by client.inlet.buffer.length
decreasing_by simpa using Codec.length_lt_of_decode _decoded

/-- Octets arrive from the server. -/
def receive (client : Client) (octets : Bytes) : List Bytes × Option Fault × Client :=
  { client with inlet := { client.inlet with buffer := client.inlet.buffer ++ octets } }.drain z

end Client

end GameTransport
