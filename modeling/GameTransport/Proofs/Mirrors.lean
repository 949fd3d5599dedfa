import GameTransport.Proofs.Envelopes
import GameTransport.Proofs.Inlets

/-! # A sender and a receiver under the same layers

A codec that sends and one that receives are mirrored if the frames of the first are those that the
second expects.  Then a payload arrives as it was, and the two are mirrored again
(`Mirrored.decode_encode`).  Each of them changes in one direction only, so two codecs that are
mirrored both ways stay so, whichever of them sends.
-/

namespace GameTransport.Codec

variable {z : Zlib.Library} {sender after receiver : Codec} {payload octets : Bytes}

/-- The codec with another stream out. -/
def withOutbound (codec : Codec) (stream : Cfb8) : Codec :=
  { codec with cipher := codec.cipher.map fun cipher => { cipher with outbound := stream } }

/-- What encoding comes to, said of the stream out. -/
theorem encode_eq (z : Zlib.Library) (payload : Bytes) (codec : Codec) :
    encode z payload codec =
      match codec.frame z payload, codec.outbound? with
      | .error fault, _ => .error fault codec
      | .ok frame, none => .ok frame codec
      | .ok frame, some stream =>
        .ok (stream.encrypt frame).1 (codec.withOutbound (stream.encrypt frame).2) := by
  obtain ⟨compression, _ | cipher, decrypted⟩ := codec
  · unfold encode outbound?
    rcases Codec.frame z _ payload with fault | frame <;> rfl
  · unfold encode outbound?
    rcases Codec.frame z _ payload with fault | frame <;> rfl

/-! ## Encoding changes the stream out only -/

theorem compression_encode (h : encode z payload sender = .ok octets after) :
    after.compression = sender.compression := by
  obtain ⟨frame, -, ⟨-, -, rfl⟩ | ⟨cipher, -, -, rfl⟩⟩ := encode_eq_ok h
  · rfl
  · rfl

theorem inbound?_encode (h : encode z payload sender = .ok octets after) :
    after.inbound? = sender.inbound? := by
  obtain ⟨frame, -, ⟨-, -, rfl⟩ | ⟨cipher, on, -, rfl⟩⟩ := encode_eq_ok h
  · rfl
  · unfold inbound?
    rw [on]
    rfl

theorem decrypted_encode (h : encode z payload sender = .ok octets after) :
    after.decrypted = sender.decrypted := by
  obtain ⟨frame, -, ⟨-, -, rfl⟩ | ⟨cipher, -, -, rfl⟩⟩ := encode_eq_ok h
  · rfl
  · rfl

theorem isEncrypted_encode (h : encode z payload sender = .ok octets after) :
    after.isEncrypted = sender.isEncrypted := by
  obtain ⟨frame, -, ⟨-, -, rfl⟩ | ⟨cipher, on, -, rfl⟩⟩ := encode_eq_ok h
  · rfl
  · unfold isEncrypted
    rw [on]
    rfl

/-- Without encryption, encoding changes nothing. -/
theorem encode_of_plain (plain : sender.cipher = none)
    (h : encode z payload sender = .ok octets after) : after = sender := by
  obtain ⟨frame, -, ⟨-, -, same⟩ | ⟨cipher, on, -, -⟩⟩ := encode_eq_ok h
  · exact same
  · rw [plain] at on
    cases on

/-! ## Hearing changes the stream in only -/

/-- The codec after it has decrypted some octets and taken all of them. -/
def heard (octets : Bytes) (codec : Codec) : Codec :=
  { codec with cipher := codec.cipher.map fun cipher => (cipher.decrypt octets).2 }

@[simp] theorem compression_heard : (receiver.heard octets).compression = receiver.compression := rfl

@[simp] theorem outbound?_heard : (receiver.heard octets).outbound? = receiver.outbound? := by
  unfold heard outbound?
  rw [Option.map_map]
  rfl

theorem inbound?_heard :
    (receiver.heard octets).inbound? =
      receiver.inbound?.map fun stream => (stream.decrypt octets).2 := by
  unfold heard inbound?
  rw [Option.map_map, Option.map_map]
  rfl

/-- A receiver that decrypts what it holds to one frame takes that frame. -/
theorem decode_frame {frame envelope : Bytes} (fresh : receiver.decrypted = 0)
    (plain : receiver.cipher = none ∧ octets = frame ∨
      ∃ cipher, receiver.cipher = some cipher ∧ (cipher.decrypt octets).1 = frame)
    (framed : Frame.encode envelope = .ok frame) (opened : receiver.unframe z envelope = .ok payload) :
    decode z ⟨receiver, octets⟩ = .ok (some payload) ⟨receiver.heard octets, []⟩ := by
  have split := Frame.split?_encode [] framed
  rw [List.append_nil] at split
  rcases plain with ⟨off, rfl⟩ | ⟨cipher, on, rfl⟩
  · have same : receiver.heard octets = receiver := by
      unfold heard
      rw [off, Option.map_none, ← off]
    have raw := @Inlet.decrypt_of_none ⟨receiver, octets⟩ off
    have taken := @Inlet.takeFrame_of_split? ⟨receiver, octets⟩ envelope [] split
    rw [← raw] at taken
    rw [decode_of_takeFrame taken, raw]
    simp only [fresh, Nat.zero_sub]
    rw [same, ← fresh, opened]
  · -- Nothing was decrypted before, so the frame is all of the buffer, decrypted.
    have counted : (Inlet.mk receiver octets).Counted := by
      change receiver.decrypted ≤ octets.length
      rw [fresh]
      exact Nat.zero_le _
    have settled := Inlet.decrypt_of_some counted on
    simp only [fresh, List.drop_zero, List.take_zero, List.nil_append] at settled
    have taken := @Inlet.takeFrame_of_split? (Inlet.mk receiver octets).decrypt envelope []
      (by rw [settled]; exact split)
    rw [decode_of_takeFrame taken, settled,
      @unframe_congr z _ receiver (by rfl) envelope, opened]
    simp only [Duplex.length_decrypt, List.length_nil, Nat.sub_zero, Nat.sub_self]
    unfold heard
    rw [on, Option.map_some, fresh]

/-! ## Mirrored codecs -/

/-- The one codec sends what the other receives, and none of it is on the way. -/
structure Mirrored (sender receiver : Codec) : Prop where
  threshold : receiver.threshold? = sender.threshold?
  stream : receiver.inbound? = sender.outbound?
  fresh : receiver.decrypted = 0

theorem Mirrored.counted (mirrored : Mirrored sender receiver) (octets : Bytes) :
    (Inlet.mk receiver octets).Counted := by
  change receiver.decrypted ≤ octets.length
  rw [mirrored.fresh]
  exact Nat.zero_le _

/-- **What a codec encodes, its mirror decodes**, and the two stay mirrored. -/
theorem Mirrored.decode_encode (mirrored : Mirrored sender receiver) (lawful : z.RoundTrips)
    (nonempty : payload ≠ []) (h : encode z payload sender = .ok octets after) :
    decode z ⟨receiver, octets⟩ = .ok (some payload) ⟨receiver.heard octets, []⟩ ∧
      Mirrored after (receiver.heard octets) := by
  obtain ⟨threshold, stream, fresh⟩ := mirrored
  have threshold' : (receiver.heard octets).threshold? = after.threshold? := by
    unfold threshold? at threshold ⊢
    rw [compression_heard, compression_encode h]
    exact threshold
  obtain ⟨frame, framed, outcome⟩ := encode_eq_ok h
  obtain ⟨envelope, framed', opened⟩ := unframe_frame lawful threshold nonempty framed
  rcases outcome with ⟨off, rfl, rfl⟩ | ⟨cipher, on, rfl, rfl⟩
  · have off' : receiver.cipher = none := by
      unfold inbound? outbound? at stream
      rw [off] at stream
      exact Option.map_eq_none_iff.mp stream
    refine ⟨decode_frame fresh (.inl ⟨off', rfl⟩) framed' opened, threshold', ?_, fresh⟩
    rw [inbound?_heard, stream]
    unfold outbound?
    rw [off]
    rfl
  · have on' : receiver.inbound? = some cipher.outbound := by
      rw [stream]
      unfold outbound?
      rw [on]
      rfl
    obtain ⟨cipher', held, same⟩ := Option.map_eq_some_iff.mp on'
    -- The stream in is the stream out, so the frame comes out as it went in.
    have plain : cipher'.inbound.decrypt (cipher.encrypt frame).1 =
        (frame, (cipher.encrypt frame).2.outbound) := by
      rw [same]
      exact Cfb8.decrypt_encrypt cipher.outbound frame
    have taken : (cipher'.decrypt (cipher.encrypt frame).1).1 = frame := by
      unfold Duplex.decrypt
      rw [plain]
    refine ⟨decode_frame fresh (.inr ⟨cipher', held, taken⟩) framed' opened, threshold', ?_, fresh⟩
    rw [inbound?_heard, on', Option.map_some, ← same, plain]
    rfl

/-- Without encryption, what stands after the payload is left as it is. -/
theorem Mirrored.decode_plain (mirrored : Mirrored sender receiver) (lawful : z.RoundTrips)
    (nonempty : payload ≠ []) (h : encode z payload sender = .ok octets after)
    (off : receiver.cipher = none) (rest : Bytes) :
    decode z ⟨receiver, octets ++ rest⟩ = .ok (some payload) ⟨receiver, rest⟩ := by
  have same : receiver.heard octets = receiver := by
    unfold heard
    rw [off, Option.map_none, ← off]
  have decoded := (mirrored.decode_encode lawful nonempty h).1
  rw [same] at decoded
  have arrived := decode_arrive_some (mirrored.counted octets) decoded rest
  rw [Inlet.decrypt_of_none (by exact off)] at arrived
  exact arrived

/-- The other direction of a codec that encodes. -/
theorem Mirrored.encode_receiver (mirrored : Mirrored receiver sender)
    (h : encode z payload sender = .ok octets after) : Mirrored receiver after := by
  obtain ⟨threshold, stream, fresh⟩ := mirrored
  refine ⟨?_, (inbound?_encode h).trans stream, (decrypted_encode h).trans fresh⟩
  unfold threshold? at threshold ⊢
  rw [compression_encode h]
  exact threshold

/-- The other direction of a codec that decodes. -/
theorem Mirrored.heard_sender (mirrored : Mirrored sender receiver) (octets : Bytes) :
    Mirrored (sender.heard octets) receiver :=
  ⟨mirrored.threshold, mirrored.stream.trans outbound?_heard.symm, mirrored.fresh⟩

/-- The two ends of a stream, with nothing on the way in either direction. -/
structure Paired (codec other : Codec) : Prop where
  there : Mirrored codec other
  back : Mirrored other codec

namespace Paired

variable {codec other : Codec}

/-- A payload is sent and received. -/
theorem send (paired : Paired codec other) (lawful : z.RoundTrips) (nonempty : payload ≠ [])
    (h : encode z payload codec = .ok octets after) : Paired after (other.heard octets) :=
  ⟨(paired.there.decode_encode lawful nonempty h).2,
    (paired.back.encode_receiver h).heard_sender octets⟩

/-- Both ends turn compression on, at whatever levels. -/
theorem enableCompression (paired : Paired codec other) (threshold level level' : Nat) :
    Paired (codec.enableCompression threshold level) (other.enableCompression threshold level') :=
  ⟨⟨rfl, paired.there.stream, paired.there.fresh⟩, ⟨rfl, paired.back.stream, paired.back.fresh⟩⟩

/-- Both ends turn encryption on. -/
theorem enableEncryption (paired : Paired codec other) (secret : SharedSecret) :
    Paired (codec.enableEncryption secret) (other.enableEncryption secret) :=
  ⟨⟨paired.there.threshold, rfl, rfl⟩, ⟨paired.back.threshold, rfl, rfl⟩⟩

theorem isEncrypted_eq (paired : Paired codec other) : other.isEncrypted = codec.isEncrypted := by
  have stream := congrArg Option.isSome paired.there.stream
  unfold inbound? outbound? at stream
  rw [Option.isSome_map, Option.isSome_map] at stream
  exact stream

end Paired

end GameTransport.Codec
