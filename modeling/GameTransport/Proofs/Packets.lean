import GameTransport.Packet.Handshake
import GameTransport.Packet.Login
import GameTransport.Proofs.Fields

/-! # Packets that were written are read back

A packet is read back field by field.  A payload is the number of a kind and a body, so whoever knows
the kind gets the packet (`ofPayload?_encode`) and whoever asks for another kind gets nothing
(`split?_of_ne`).
-/

namespace GameTransport

namespace Packet

variable {α β : Type} [Packet α] [Packet β] {packet : α}

/-- The body of the packet is read back. -/
def ReadsBack (packet : α) : Prop := (Packet.read : Reader α).Reads (write packet) packet

/-- A payload is split into the number of its kind and its body. -/
theorem decode_encode (packet : α) : RawPacket.decode (encode packet) = .ok ⟨id α, write packet⟩ := by
  have read : RawPacket.read (encode packet) = .ok ⟨id α, write packet⟩ [] :=
    Reader.bind_ok (Varint.readU32_encode_toNat (id α) (write packet))
  unfold RawPacket.decode
  rw [read]

theorem split?_encode (back : ReadsBack packet) : split? (encode packet) = some (packet, []) := by
  unfold split?
  rw [decode_encode]
  dsimp only
  rw [if_pos rfl, back.whole]

theorem split?_of_ne (packet : α) (other : id α ≠ id β) :
    (split? (encode packet) : Option (β × Bytes)) = none := by
  unfold split?
  rw [decode_encode]
  dsimp only
  rw [if_neg other]

/-- **A packet that was written is read back from its payload.** -/
theorem ofPayload?_encode (back : ReadsBack packet) : ofPayload? (encode packet) = some packet := by
  unfold ofPayload?
  rw [split?_encode back]

theorem ofPayload?_of_ne (packet : α) (other : id α ≠ id β) :
    (ofPayload? (encode packet) : Option β) = none := by
  unfold ofPayload?
  rw [split?_of_ne packet other]

theorem encode_ne_nil (packet : α) : encode packet ≠ [] :=
  List.append_ne_nil_of_left_ne_nil (Varint.encode_ne_nil _) _

end Packet

open GameTransport.Field

theorem Handshake.readsBack {packet : Handshake}
    (address : packet.serverAddress.length ≤ Handshake.maxAddress)
    (asked : packet.nextState.isRequestable) : Packet.ReadsBack packet := by
  obtain ⟨version, host, port, state⟩ := packet
  have text : (Field.string Handshake.maxAddress).ReadsBack host :=
    string_readsBack address (by decide)
  have known : ConnectionState.requested state.id.toUInt32.toInt32 = .ok state := by
    cases state with
    | handshaking => cases asked
    | status => rfl
    | login => rfl
    | play => cases asked
  have body (octets : Bytes) : (Packet.write (α := Handshake) ⟨version, host, port, state⟩) ++ octets =
      varU32.write version.toUInt32 ++ ((Field.string Handshake.maxAddress).write host ++
        (u16.write port ++ (varU32.write state.id.toUInt32 ++ octets))) := by
    simp only [Packet.write, List.append_assoc]
  intro rest
  rw [body]
  change (varU32.read >>= _) _ = _
  rw [Reader.bind_ok (varU32_readsBack _ _), Reader.bind_ok (text _),
    Reader.bind_ok (u16_readsBack _ _), Reader.bind_ok (varU32_readsBack _ _), known]
  rfl

theorem LoginStart.readsBack {packet : LoginStart} (name : packet.username.length ≤ maxUsername) :
    Packet.ReadsBack packet := by
  obtain ⟨username, uuid⟩ := packet
  have text : (Field.string maxUsername).ReadsBack username := string_readsBack name (by decide)
  cases uuid with
  | none =>
    have id := @option_readsBack_none Uuid Field.uuid
    exact text.bind (id.last fun uuid => { username, uuid : LoginStart })
  | some uuid =>
    have id := option_readsBack_some (uuid_readsBack uuid)
    exact text.bind (id.last fun uuid => { username, uuid : LoginStart })

theorem EncryptionRequest.readsBack {packet : EncryptionRequest}
    (name : packet.serverId.length ≤ EncryptionRequest.maxServerId)
    (key : packet.publicKey.length ≤ EncryptionRequest.maxPublicKey)
    (token : packet.verifyToken.length ≤ maxEncrypted) : Packet.ReadsBack packet := by
  obtain ⟨serverId, publicKey, verifyToken⟩ := packet
  have text : (Field.string EncryptionRequest.maxServerId).ReadsBack serverId :=
    string_readsBack name (by decide)
  have first : (Field.bytes EncryptionRequest.maxPublicKey).ReadsBack publicKey :=
    bytes_readsBack key (by decide)
  have second : (Field.bytes maxEncrypted).ReadsBack verifyToken := bytes_readsBack token (by decide)
  have last := second.last fun verifyToken =>
    { serverId, publicKey, verifyToken : EncryptionRequest }
  intro rest
  simp only [Packet.write, List.append_assoc]
  change ((Field.string _).read >>= _) _ = _
  rw [Reader.bind_ok (text _), Reader.bind_ok (first _)]
  exact last rest

theorem EncryptionResponse.readsBack {packet : EncryptionResponse}
    (secret : packet.sharedSecret.length ≤ maxEncrypted)
    (token : packet.verifyToken.length ≤ maxEncrypted) : Packet.ReadsBack packet := by
  obtain ⟨sharedSecret, verifyToken⟩ := packet
  have first := bytes_readsBack secret (by decide)
  have second := bytes_readsBack token (by decide)
  exact first.bind (second.last fun verifyToken => { sharedSecret, verifyToken : EncryptionResponse })

theorem SetCompression.readsBack (packet : SetCompression) : Packet.ReadsBack packet :=
  (varU32_readsBack packet.threshold).map SetCompression.mk

theorem LoginSuccess.readsBack {packet : LoginSuccess}
    (name : packet.username.length ≤ maxUsername) : Packet.ReadsBack packet := by
  obtain ⟨uuid, username⟩ := packet
  have text := string_readsBack name (by decide)
  exact (uuid_readsBack uuid).bind (text.last fun username => { uuid, username : LoginSuccess })

/-! ## Sizes -/

namespace Packet

/-- The most octets of a payload that takes a client into PLAY. -/
def small : Nat := 2048

theorem length_encode_le {α : Type} [Packet α] (packet : α) :
    (encode packet).length ≤ 5 + (write packet).length := by
  have number := Varint.length_encode_toNat_le (id α)
  unfold encode
  rw [List.length_append]
  omega

end Packet

theorem Handshake.small {packet : Handshake}
    (address : packet.serverAddress.length ≤ Handshake.maxAddress) :
    (Packet.encode packet).length ≤ Packet.small := by
  have total := Packet.length_encode_le packet
  have version := length_write_varU32_le packet.protocolVersion.toUInt32
  have host := length_write_string_le address
  have port : (u16.write packet.serverPort).length = 2 := Bytes.length_ofNat 2 _
  have state := length_write_varU32_le packet.nextState.id.toUInt32
  simp only [Packet.write, List.length_append] at total
  unfold Packet.small
  unfold Handshake.maxAddress at host total
  omega

theorem LoginStart.small {packet : LoginStart} (name : packet.username.length ≤ maxUsername) :
    (Packet.encode packet).length ≤ Packet.small := by
  have total := Packet.length_encode_le packet
  have text := length_write_string_le name
  have id : ((Field.option Field.uuid).write packet.uuid).length ≤ 17 := by
    cases packet.uuid with
    | none => exact Nat.le_add_left 1 16
    | some id =>
      have size := length_write_uuid id
      simp only [Field.option, Field.bool, List.length_append, List.length_singleton]
      omega
  simp only [Packet.write, List.length_append] at total
  unfold Packet.small
  unfold maxUsername at text total
  omega

theorem EncryptionRequest.small {packet : EncryptionRequest}
    (name : packet.serverId.length ≤ EncryptionRequest.maxServerId)
    (key : packet.publicKey.length ≤ EncryptionRequest.maxPublicKey)
    (token : packet.verifyToken.length ≤ maxEncrypted) :
    (Packet.encode packet).length ≤ Packet.small := by
  have total := Packet.length_encode_le packet
  have text := length_write_string_le name
  have first := length_write_bytes_le key
  have second := length_write_bytes_le token
  simp only [Packet.write, List.length_append] at total
  unfold Packet.small
  unfold EncryptionRequest.maxServerId at text total
  unfold EncryptionRequest.maxPublicKey at first total
  unfold maxEncrypted at second total
  omega

theorem EncryptionResponse.small {packet : EncryptionResponse}
    (secret : packet.sharedSecret.length ≤ maxEncrypted)
    (token : packet.verifyToken.length ≤ maxEncrypted) :
    (Packet.encode packet).length ≤ Packet.small := by
  have total := Packet.length_encode_le packet
  have first := length_write_bytes_le secret
  have second := length_write_bytes_le token
  simp only [Packet.write, List.length_append] at total
  unfold Packet.small
  unfold maxEncrypted at first second total
  omega

theorem SetCompression.small (packet : SetCompression) :
    (Packet.encode packet).length ≤ Packet.small := by
  have total := Packet.length_encode_le packet
  have threshold := length_write_varU32_le packet.threshold
  simp only [Packet.write] at total
  unfold Packet.small
  omega

theorem LoginSuccess.small {packet : LoginSuccess}
    (name : packet.username.length ≤ maxUsername) :
    (Packet.encode packet).length ≤ Packet.small := by
  have total := Packet.length_encode_le packet
  have text := length_write_string_le name
  have id := length_write_uuid packet.uuid
  simp only [Packet.write, List.length_append] at total
  unfold Packet.small
  unfold maxUsername at text total
  omega

end GameTransport
