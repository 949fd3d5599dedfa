import GameTransport.Packet.Kind
import GameTransport.Proofs.Packets
import GameTransport.Proofs.Tables

/-! # Every kind of packet round-trips

What a kind of packet writes it reads back, as long as the packet keeps to the limits of its fields.
The other way, a body has many spellings: numbers may be longer than they need to be, and any octet but
zero is a set flag.  Whatever the spelling, the packet that was read keeps to the limits, so it is
read from its own body too (`RoundTrips.again`).
-/

namespace GameTransport

namespace Reader

theorem length_of_take {what : String} {count : Nat} {buffer octets rest : Bytes}
    (taken : take what count buffer = .ok octets rest) : octets.length = count := by
  unfold take at taken
  dsimp only at taken
  split at taken
  · cases taken
  · cases taken
    exact List.length_take_of_le (by omega)

end Reader

namespace Field

variable {what : String} {max : Nat} {buffer rest : Bytes}

theorem le_of_readLength {length : Nat} (read : readLength what max buffer = .ok length rest) :
    length ≤ max := by
  obtain ⟨count, between, -, read⟩ := Reader.of_bind_ok read
  dsimp only at read
  split at read
  · cases read
  · cases read
    omega

/-- A run that was read is no longer than it may be. -/
theorem length_le_of_read_bytes {octets : Bytes} (read : (bytes max).read buffer = .ok octets rest) :
    octets.length ≤ max := by
  obtain ⟨count, between, length, taken⟩ := Reader.of_bind_ok read
  rw [Reader.length_of_take taken]
  exact le_of_readLength length

/-- A text that was read is no longer than it may be. -/
theorem length_le_of_read_string {text : String} (read : (string max).read buffer = .ok text rest) :
    text.length ≤ max := by
  obtain ⟨count, between, -, read⟩ := Reader.of_bind_ok read
  obtain ⟨octets, between, -, read⟩ := Reader.of_bind_ok read
  cases decoded : Utf8.decode octets with
  | error fault =>
    rw [decoded] at read
    cases read
  | ok text =>
    rw [decoded] at read
    dsimp only at read
    split at read
    · cases read
    · cases read
      omega

end Field

namespace Packet

variable {α : Type} [Packet α]

/-- **Packets of one kind round-trip**, those within the limits. -/
structure RoundTrips (α : Type) [Packet α] (Within : α → Prop) : Prop where
  /-- A body is read back, whatever stands after it. -/
  reads : ∀ packet : α, Within packet → ∀ tail, read (write packet ++ tail) = .ok packet tail
  /-- A payload is split into the number of the kind and the body. -/
  splits : ∀ packet : α, RawPacket.decode (encode packet) = .ok ⟨id α, write packet⟩
  /-- The number and the body make up the payload. -/
  joins : ∀ packet : α, RawPacket.encode ⟨id α, write packet⟩ = encode packet
  /-- What is read is within the limits, however the body spells it. -/
  within : ∀ body rest (packet : α), read body = .ok packet rest → Within packet
  /-- What is read is read from its own body, which then is read to its end. -/
  again : ∀ body rest (packet : α), read body = .ok packet rest → read (write packet) = .ok packet []

theorem RoundTrips.of {Within : α → Prop} (back : ∀ packet, Within packet → ReadsBack packet)
    (within : ∀ body rest packet, read body = .ok packet rest → Within packet) :
    RoundTrips α Within where
  reads packet inside := back packet inside
  splits packet := decode_encode packet
  joins _ := rfl
  within := within
  again body rest packet was := (back packet (within body rest packet was)).whole

end Packet

open GameTransport.Field

/-! ## The limits of a kind -/

/-- The limits that the reader of a kind keeps its packets to. -/
def Packet.Kind.Within : (kind : Kind) → kind.Value → Prop
  | handshake => fun packet : Handshake =>
    packet.serverAddress.length ≤ Handshake.maxAddress ∧
      (packet.nextState = .status ∨ packet.nextState = .login)
  | statusResponse => fun packet : StatusResponse => packet.json.length ≤ StatusResponse.maxJson
  | loginStart => fun packet : LoginStart => packet.username.length ≤ maxUsername
  | encryptionRequest => fun packet : EncryptionRequest =>
    packet.serverId.length ≤ EncryptionRequest.maxServerId ∧
      packet.publicKey.length ≤ EncryptionRequest.maxPublicKey ∧
      packet.verifyToken.length ≤ maxEncrypted
  | encryptionResponse => fun packet : EncryptionResponse =>
    packet.sharedSecret.length ≤ maxEncrypted ∧ packet.verifyToken.length ≤ maxEncrypted
  | loginDisconnect => fun packet : LoginDisconnect => packet.reason.length ≤ maxReason
  | loginSuccess => fun packet : LoginSuccess => packet.username.length ≤ maxUsername
  | disconnect => fun packet : Disconnect => packet.reason.length ≤ maxReason
  | statusRequest | pingRequest | pongResponse | setCompression | keepAlive => fun _ => True

theorem ConnectionState.isRequestable_iff (state : ConnectionState) :
    state.isRequestable ↔ state = .status ∨ state = .login := by
  cases state <;> decide

namespace Handshake

theorem within_of_read {body rest : Bytes} {packet : Handshake}
    (read : Packet.read body = .ok packet rest) :
    packet.serverAddress.length ≤ maxAddress ∧
      (packet.nextState = .status ∨ packet.nextState = .login) := by
  have requestable := isRequestable_of_read read
  obtain ⟨version, _, -, read⟩ := Reader.of_bind_ok read
  obtain ⟨host, _, address, read⟩ := Reader.of_bind_ok read
  obtain ⟨port, _, -, read⟩ := Reader.of_bind_ok read
  obtain ⟨asked, _, -, read⟩ := Reader.of_bind_ok read
  cases known : ConnectionState.requested asked.toInt32 with
  | error fault =>
    rw [known] at read
    cases read
  | ok state =>
    rw [known] at read
    cases read
    exact ⟨length_le_of_read_string address,
      (ConnectionState.isRequestable_iff state).mp requestable⟩

end Handshake

/-! ## Kinds of a single field -/

theorem StatusRequest.readsBack (packet : StatusRequest) : Packet.ReadsBack packet := fun _ => rfl

theorem StatusResponse.readsBack {packet : StatusResponse}
    (document : packet.json.length ≤ StatusResponse.maxJson) : Packet.ReadsBack packet :=
  (string_readsBack document (by decide)).map StatusResponse.mk

theorem PingRequest.readsBack (packet : PingRequest) : Packet.ReadsBack packet :=
  (i64_readsBack packet.payload).map PingRequest.mk

theorem PongResponse.readsBack (packet : PongResponse) : Packet.ReadsBack packet :=
  (i64_readsBack packet.payload).map PongResponse.mk

theorem LoginDisconnect.readsBack {packet : LoginDisconnect}
    (reason : packet.reason.length ≤ maxReason) : Packet.ReadsBack packet :=
  (string_readsBack reason (by decide)).map LoginDisconnect.mk

theorem KeepAlive.readsBack (packet : KeepAlive) : Packet.ReadsBack packet :=
  (i64_readsBack packet.id).map KeepAlive.mk

theorem Disconnect.readsBack {packet : Disconnect} (reason : packet.reason.length ≤ maxReason) :
    Packet.ReadsBack packet :=
  (string_readsBack reason (by decide)).map Disconnect.mk

/-! ## All kinds -/

namespace Packet.Kind

/-- The packets within the limits are read back. -/
theorem readsBack (kind : Kind) (packet : kind.Value) (inside : kind.Within packet) :
    ReadsBack packet := by
  cases kind with
  | handshake =>
    obtain ⟨address, asked⟩ := inside
    exact Handshake.readsBack address ((ConnectionState.isRequestable_iff _).mpr asked)
  | statusRequest => exact StatusRequest.readsBack packet
  | statusResponse => exact StatusResponse.readsBack inside
  | pingRequest => exact PingRequest.readsBack packet
  | pongResponse => exact PongResponse.readsBack packet
  | loginStart => exact LoginStart.readsBack inside
  | encryptionRequest =>
    obtain ⟨name, key, token⟩ := inside
    exact EncryptionRequest.readsBack name key token
  | encryptionResponse =>
    obtain ⟨secret, token⟩ := inside
    exact EncryptionResponse.readsBack secret token
  | loginDisconnect => exact LoginDisconnect.readsBack inside
  | loginSuccess => exact LoginSuccess.readsBack inside
  | setCompression => exact SetCompression.readsBack packet
  | keepAlive => exact KeepAlive.readsBack packet
  | disconnect => exact Disconnect.readsBack inside

/-- What was read is within the limits: each reader checks the length of a field when it reads it. -/
theorem within_of_read (kind : Kind) (body rest : Bytes) (packet : kind.Value)
    (was : read body = .ok packet rest) : kind.Within packet := by
  cases kind with
  | handshake => exact Handshake.within_of_read was
  | statusResponse =>
    obtain ⟨json, document, rfl⟩ := Reader.of_map_ok was
    exact length_le_of_read_string document
  | loginStart =>
    obtain ⟨username, _, name, was⟩ := Reader.of_bind_ok was
    obtain ⟨uuid, _, -, was⟩ := Reader.of_bind_ok was
    cases was
    exact length_le_of_read_string name
  | encryptionRequest =>
    obtain ⟨serverId, _, name, was⟩ := Reader.of_bind_ok was
    obtain ⟨publicKey, _, key, was⟩ := Reader.of_bind_ok was
    obtain ⟨verifyToken, _, token, was⟩ := Reader.of_bind_ok was
    cases was
    exact ⟨length_le_of_read_string name, length_le_of_read_bytes key, length_le_of_read_bytes token⟩
  | encryptionResponse =>
    obtain ⟨sharedSecret, _, secret, was⟩ := Reader.of_bind_ok was
    obtain ⟨verifyToken, _, token, was⟩ := Reader.of_bind_ok was
    cases was
    exact ⟨length_le_of_read_bytes secret, length_le_of_read_bytes token⟩
  | loginDisconnect =>
    obtain ⟨reason, text, rfl⟩ := Reader.of_map_ok was
    exact length_le_of_read_string text
  | loginSuccess =>
    obtain ⟨uuid, _, -, was⟩ := Reader.of_bind_ok was
    obtain ⟨username, _, name, was⟩ := Reader.of_bind_ok was
    cases was
    exact length_le_of_read_string name
  | disconnect =>
    obtain ⟨reason, text, rfl⟩ := Reader.of_map_ok was
    exact length_le_of_read_string text
  | statusRequest | pingRequest | pongResponse | setCompression | keepAlive => exact trivial

/-- **Every kind of packet round-trips.** -/
theorem every_kind_roundTrips (kind : Kind) : RoundTrips kind.Value kind.Within :=
  .of kind.readsBack kind.within_of_read

/-- A threshold that is spelled with an octet too many is written with one less. -/
theorem every_kind_roundTrips_spelled :
    let reader : Reader SetCompression := read
    let packet : SetCompression := ⟨64⟩
    reader [0xc0, 0x00] = .ok packet [] ∧ write packet = [0x40] ∧
      reader (write packet) = .ok packet [] := by
  intro reader packet
  have was : reader [0xc0, 0x00] = .ok packet [] := rfl
  exact ⟨was, by decide +kernel, (every_kind_roundTrips .setCompression).again _ _ _ was⟩

end Packet.Kind

end GameTransport
