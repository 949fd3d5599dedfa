import GameTransport.Codec
import GameTransport.Proofs.Framing

/-! # What was wrapped is unwrapped

The layers above the cipher, both ways: a payload goes into an envelope if compression is on, and
then into a frame.  A receiver whose threshold is not above the sender's gets the payload back
(`unwrap_wrap`), so a codec gets back what a codec of the same compression framed
(`unframe_frame`).

The one payload that needs a condition is the empty one.  At threshold zero it is compressed, and
then the envelope declares zero octets, which says that the payload stands there as it is.
-/

namespace GameTransport

namespace Zlib.Library

/-- Deflating yields one complete stream, and inflating it gives the data back where there is room
for it. -/
def RoundTrips (z : Library) : Prop :=
  ∀ (level capacity : Nat) (payload : Bytes), payload.length < capacity →
    z.inflate capacity (z.deflate level payload) = .finished payload 0

/-- Deflating makes nothing much longer. -/
def Bounded (z : Library) : Prop :=
  ∀ (level : Nat) (payload : Bytes), (z.deflate level payload).length ≤ 2 * payload.length + 256

/-- A library that stores in one block what it is given, as the format has it up to 65,535 octets,
and takes nothing else for a stream. -/
def stored : Library where
  deflate := fun _ bytes => store bytes
  inflate := fun capacity stream =>
    if stream ≠ store (inside stream) then .corrupt
    else if (inside stream).length < capacity then .finished (inside stream) 0
    else .stopped ((inside stream).take capacity)
where
  inside (stream : Bytes) : Bytes := (stream.drop 7).take (stream.length - 11)
  store (bytes : Bytes) : Bytes :=
    let low (n : Nat) : Bytes := [UInt8.ofNat n, UInt8.ofNat (n / 256)]
    [0x78, 0x9C, 1] ++ low bytes.length ++ low (65535 - bytes.length) ++ bytes
      ++ Bytes.ofNat 4 (checksum bytes)

theorem stored_roundTrips : stored.RoundTrips := by
  intro level capacity payload fits
  have kept : stored.inside (stored.store payload) = payload := by
    simp [stored.inside, stored.store]
  change (if stored.store payload ≠ stored.store (stored.inside (stored.store payload)) then _
    else if (stored.inside (stored.store payload)).length < capacity then _ else _) = _
  rw [kept, if_neg (not_not_intro rfl), if_pos fits]
  exact congrArg (Inflated.finished · 0) kept

theorem stored_bounded : stored.Bounded := by
  intro level payload
  simp only [stored, stored.store, List.length_append, List.length_cons, List.length_nil,
    Bytes.length_ofNat]
  omega

end Zlib.Library

namespace Compression

variable {z : Zlib.Library} {c receiver : Compression} {payload envelope : Bytes}

theorem wrap_eq_ok (h : c.wrap z payload = .ok envelope) :
    payload.length ≤ maxUncompressed ∧
      ((payload.length < c.threshold ∧ envelope = Varint.encode 0 ++ payload) ∨
        (c.threshold ≤ payload.length ∧ envelope =
          Varint.encode payload.length ++ z.deflate (min c.level maxLevel) payload)) := by
  unfold wrap at h
  dsimp only at h
  split at h
  · cases h
  · rename_i fits
    refine ⟨Nat.not_lt.mp fits, ?_⟩
    split at h
    · rename_i short
      cases h
      exact .inl ⟨short, rfl⟩
    · rename_i long
      cases h
      exact .inr ⟨Nat.not_lt.mp long, rfl⟩

/-- The envelope around a payload that is compressed. -/
def deflated (z : Zlib.Library) (c : Compression) (payload : Bytes) : Bytes :=
  Varint.encode payload.length ++ z.deflate (min c.level maxLevel) payload

theorem wrap_of_lt (short : payload.length < c.threshold)
    (fits : payload.length ≤ maxUncompressed) : c.wrap z payload = .ok (0 :: payload) := by
  have zero : Varint.encode 0 = [0] := Varint.encode_of_lt (by decide)
  unfold wrap
  dsimp only
  rw [if_neg (Nat.not_lt.mpr fits), if_pos short, zero]
  rfl

theorem wrap_of_le (long : c.threshold ≤ payload.length)
    (fits : payload.length ≤ maxUncompressed) : c.wrap z payload = .ok (deflated z c payload) := by
  unfold wrap
  dsimp only
  rw [if_neg (Nat.not_lt.mpr fits), if_neg (Nat.not_lt.mpr long)]
  rfl

theorem wrap_of_long (long : maxUncompressed < payload.length) :
    c.wrap z payload =
      .error (.sizeExceeded "uncompressed payload" payload.length maxUncompressed) := by
  unfold wrap
  dsimp only
  rw [if_pos long]

/-- **A payload that is compressed travels** unless it is too long itself or its envelope is. -/
theorem exists_frame_above_iff (long : c.threshold ≤ payload.length) :
    (∃ frame, c.wrap z payload >>= Frame.encode = .ok frame) ↔
      payload.length ≤ maxUncompressed ∧ (deflated z c payload).length ≤ Frame.maxPayload := by
  by_cases fits : payload.length ≤ maxUncompressed
  · rw [wrap_of_le long fits]
    change (∃ frame, Frame.encode _ = .ok frame) ↔ _
    rw [Frame.exists_encode_iff]
    exact ⟨fun room => ⟨fits, room⟩, fun both => both.2⟩
  · rw [wrap_of_long (Nat.lt_of_not_le fits)]
    exact ⟨nofun, fun both => absurd both.1 fits⟩

theorem unwrap_of_readU32 {declared : UInt32} {body : Bytes}
    (h : Varint.readU32 envelope = .ok declared body) :
    c.unwrap z envelope = (c.open? z declared.toNat body).mapError .badEnvelope := by
  unfold unwrap
  rw [h]

/-- **A payload that was wrapped is unwrapped** by every receiver whose threshold is not above the
sender's. -/
theorem unwrap_wrap (lawful : z.RoundTrips) (threshold_le : receiver.threshold ≤ c.threshold)
    (nonempty : payload = [] → 0 < c.threshold) (h : c.wrap z payload = .ok envelope) :
    receiver.unwrap z envelope = .ok payload := by
  obtain ⟨fits, ⟨short, rfl⟩ | ⟨long, rfl⟩⟩ := wrap_eq_ok h
  · rw [unwrap_of_readU32 (Varint.readU32_encode payload (by decide))]
    rfl
  · have bound : payload.length < 2 ^ 32 := by
      unfold maxUncompressed at fits
      omega
    have size : (UInt32.ofNat payload.length).toNat = payload.length :=
      UInt32.toNat_ofNat_of_lt' bound
    -- A size of zero would say that the payload is not compressed.
    have some' : payload.length ≠ 0 := by
      intro none'
      have := nonempty (List.length_eq_zero_iff.mp none')
      omega
    rw [unwrap_of_readU32 (Varint.readU32_encode _ bound), size, open?, if_neg some',
      if_neg (by omega), if_neg (by omega), lawful _ _ _ (Nat.lt_succ_self _), judge,
      if_neg (not_not_intro rfl), if_neg (not_not_intro rfl)]
    rfl

end Compression

namespace Codec

variable {z : Zlib.Library} {codec after receiver : Codec} {payload frame octets : Bytes}

/-- **A payload that was framed is what its frame holds**, for every receiver that compresses from
the same threshold on. -/
theorem unframe_frame (lawful : z.RoundTrips) (same : receiver.threshold? = codec.threshold?)
    (nonempty : payload ≠ []) (h : codec.frame z payload = .ok frame) :
    ∃ envelope, Frame.encode envelope = .ok frame ∧ receiver.unframe z envelope = .ok payload := by
  unfold threshold? at same
  unfold Codec.frame at h
  unfold unframe
  cases hc : codec.compression with
  | none =>
    rw [hc] at h same
    have off : receiver.compression = none := by simpa using same
    rw [off]
    exact ⟨payload, h, rfl⟩
  | some compression =>
    rw [hc] at h same
    obtain ⟨other, on, threshold_eq⟩ := Option.map_eq_some_iff.mp same
    rw [on]
    dsimp only at h ⊢
    cases hw : compression.wrap z payload with
    | error fault => rw [hw] at h; cases h
    | ok envelope =>
      rw [hw] at h
      exact ⟨envelope, h, Compression.unwrap_wrap lawful (Nat.le_of_eq threshold_eq)
        (fun empty => absurd empty nonempty) hw⟩

/-- What a payload is framed by is the compression only. -/
theorem frame_congr {other : Codec} (h : codec.compression = other.compression) (payload : Bytes) :
    codec.frame z payload = other.frame z payload := by
  unfold Codec.frame
  rw [h]

/-- What encoding makes of a frame: the octets that travel and the cipher after them. -/
theorem encode_eq_ok (h : encode z payload codec = .ok octets after) :
    ∃ frame, codec.frame z payload = .ok frame ∧
      ((codec.cipher = none ∧ octets = frame ∧ after = codec) ∨
        ∃ cipher, codec.cipher = some cipher ∧ octets = (cipher.encrypt frame).1 ∧
          after = { codec with cipher := some (cipher.encrypt frame).2 }) := by
  unfold encode at h
  split at h
  · cases h
  · rename_i frame framed
    refine ⟨frame, framed, ?_⟩
    split at h
    · rename_i off
      cases h
      exact .inl ⟨off, rfl, rfl⟩
    · rename_i cipher on
      cases h
      exact .inr ⟨cipher, on, rfl, rfl⟩

theorem encode_of_none (h : codec.frame z payload = .ok frame) (off : codec.cipher = none) :
    encode z payload codec = .ok frame codec := by
  unfold encode
  rw [h]
  dsimp only
  rw [off]

theorem encode_of_some {cipher : Duplex} (h : codec.frame z payload = .ok frame)
    (on : codec.cipher = some cipher) :
    encode z payload codec =
      .ok (cipher.encrypt frame).1 { codec with cipher := some (cipher.encrypt frame).2 } := by
  unfold encode
  rw [h]
  dsimp only
  rw [on]

/-- A payload that is framed is encoded: a cipher takes everything. -/
theorem exists_encode_iff_frame :
    (∃ octets after, encode z payload codec = .ok octets after) ↔
      ∃ frame, codec.frame z payload = .ok frame := by
  constructor
  · rintro ⟨octets, after, encoded⟩
    obtain ⟨frame, framed, -⟩ := encode_eq_ok encoded
    exact ⟨frame, framed⟩
  · rintro ⟨frame, framed⟩
    cases on : codec.cipher with
    | none => exact ⟨_, _, encode_of_none framed on⟩
    | some cipher => exact ⟨_, _, encode_of_some framed on⟩

theorem frame_of_none (off : codec.compression = none) :
    codec.frame z payload = Frame.encode payload := by
  unfold Codec.frame
  rw [off]

theorem frame_of_compression {c : Compression} (on : codec.compression = some c) :
    codec.frame z payload = c.wrap z payload >>= Frame.encode := by
  unfold Codec.frame
  rw [on]

/-- **A payload that is not too long can be encoded**, whatever the layers are. -/
theorem exists_encode (bounded : z.Bounded) (fits : 2 * payload.length + 512 ≤ Frame.maxPayload)
    (codec : Codec) : ∃ octets after, encode z payload codec = .ok octets after := by
  unfold Frame.maxPayload at fits
  rw [exists_encode_iff_frame]
  cases on : codec.compression with
  | none =>
    rw [frame_of_none on, Frame.exists_encode_iff, Frame.maxPayload]
    omega
  | some compression =>
    have whole : payload.length ≤ Compression.maxUncompressed := by
      unfold Compression.maxUncompressed
      omega
    rw [frame_of_compression on]
    -- Below the threshold the envelope is one octet longer, above it is bounded by the library.
    rcases Nat.lt_or_ge payload.length compression.threshold with short | long
    · rw [Compression.wrap_of_lt short whole]
      refine Frame.exists_encode_iff.mpr ?_
      rw [List.length_cons, Frame.maxPayload]
      omega
    · have number : (Varint.encode payload.length).length ≤ 5 :=
        @Varint.length_encode_le 4 _ (by omega)
      have deflated := bounded (min compression.level Compression.maxLevel) payload
      refine (Compression.exists_frame_above_iff long).mpr ⟨whole, ?_⟩
      rw [Compression.deflated, List.length_append, Frame.maxPayload]
      omega

/-- A payload that cannot be encoded leaves the codec as it was. -/
theorem encode_eq_error {fault : Fault} (h : encode z payload codec = .error fault after) :
    after = codec := by
  unfold encode at h
  split at h
  · cases h; rfl
  · split at h <;> cases h

/-- A payload that cannot be encoded is one that cannot be framed. -/
theorem frame_of_encode_eq_error {fault : Fault} (h : encode z payload codec = .error fault after) :
    codec.frame z payload = .error fault := by
  unfold encode at h
  split at h
  · rename_i unframed
    cases h
    exact unframed
  · split at h <;> cases h

end Codec

end GameTransport
