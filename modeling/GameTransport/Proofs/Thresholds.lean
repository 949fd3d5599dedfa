import GameTransport.Proofs.Outbound
import GameTransport.Proofs.Packing

/-! # Which thresholds fit

A payload below the threshold travels as it is, behind one octet that says so.  So a frame has room
for all of them if, and only if, the threshold is no more than the longest payload of a frame
(`Compression.exists_frame_below_iff`): the longest of them leaves one octet, and that is the one that
is needed.  This is the bound that a configuration is checked for.

From the threshold on a payload is compressed, and there are two reasons why it may not travel: it is
longer than an envelope may declare, or its envelope is longer than a frame
(`Compression.exists_frame_above_iff`).  Nothing else can go wrong over a machine of the standard
format, whatever has been done with the port before (`validated_threshold_fits`).
-/

namespace GameTransport

/-! ## Thresholds and frames -/

namespace Compression

variable {z : Zlib.Library} {c : Compression} {payload : Bytes}

/-- **A frame has room for all payloads below a threshold that is no more than its longest payload**,
and for no greater threshold. -/
theorem exists_frame_below_iff :
    (∀ payload, payload.length < c.threshold →
      ∃ frame, c.wrap z payload >>= Frame.encode = .ok frame) ↔ c.threshold ≤ Frame.maxPayload := by
  constructor
  · intro travels
    by_contra above
    -- The longest payload of a frame leaves no room for the octet in front of it.
    obtain ⟨longest, length⟩ : ∃ longest : Bytes, longest.length = Frame.maxPayload :=
      ⟨List.replicate Frame.maxPayload 0, List.length_replicate⟩
    have short : longest.length < c.threshold := by omega
    have fits : longest.length ≤ maxUncompressed := length ▸ (by decide)
    obtain ⟨frame, framed⟩ := travels longest short
    rw [wrap_of_lt short fits] at framed
    obtain ⟨room, -⟩ := Frame.encode_eq_ok framed
    rw [List.length_cons] at room
    omega
  · intro low payload short
    have room : (0 :: payload).length ≤ Frame.maxPayload := by
      rw [List.length_cons]
      omega
    have fits : payload.length ≤ maxUncompressed := by
      unfold maxUncompressed
      unfold Frame.maxPayload at low
      omega
    rw [wrap_of_lt short fits]
    exact Frame.exists_encode_iff.mpr room

end Compression

/-! ## Ports that compress -/

namespace Port

/-- The compression that a call switches on. -/
def Call.compression? : Call → Option Compression
  | .enableCompression threshold level => some ⟨threshold, level⟩
  | .encode _ | .decode | .enableEncryption _ | .handle _ => none

/-- The compression that calls leave switched on: the one that was asked for last. -/
def compressionAsked (calls : List Call) : Option Compression :=
  (calls.filterMap Call.compression?).getLast?

namespace Plain

variable {z : Zlib.Library} {plain : Plain}

theorem compression_step (z : Zlib.Library) (call : Call) (plain : Plain) :
    (plain.step z call).2.codec.compression = call.compression?.or plain.codec.compression := by
  cases call with
  | encode payload =>
    simp only [step, act, Call.compression?, Option.none_or]
    rcases encoded : Codec.encode z payload plain.codec with ⟨octets, after⟩ | ⟨fault, after⟩
    · exact Codec.compression_encode encoded
    · exact congrArg Codec.compression (Codec.encode_eq_error encoded)
  | decode =>
    simp only [step, act, Call.compression?, Option.none_or]
    rcases decoded : Codec.decode z ⟨plain.codec, plain.inbox⟩ with ⟨_ | payload, after⟩ | ⟨fault, after⟩
    · obtain rfl := Codec.decode_eq_none decoded
      exact Codec.Inlet.compression_decrypt
    · obtain ⟨frame, taken, -⟩ := Codec.decode_eq_some decoded
      exact Codec.compression_of_takeFrame taken
    · rcases Codec.decode_eq_error decoded with ⟨-, rfl⟩ | ⟨frame, taken, -⟩
      · exact Codec.Inlet.compression_decrypt
      · exact Codec.compression_of_takeFrame taken
  | enableCompression threshold level => rfl
  | enableEncryption secret => rfl
  | handle change => rfl

/-- The compression that was asked for last is on. -/
theorem compression_run (z : Zlib.Library) (calls : List Call) (plain : Plain) :
    (plain.run z calls).2.codec.compression =
      (compressionAsked calls).or plain.codec.compression := by
  induction calls generalizing plain with
  | nil => rfl
  | cons call rest ih =>
    have last := ih (plain.step z call).2
    rw [compression_step] at last
    refine last.trans ?_
    unfold compressionAsked
    cases asks : call.compression? with
    | none => rw [List.filterMap_cons_none asks, Option.none_or]
    | some c =>
      rw [List.filterMap_cons_some asks, List.getLast?_cons, Option.some_or]
      cases (rest.filterMap Call.compression?).getLast? <;> rfl

end Plain

variable {machine : Zlib.Machine} {c : Compression} {calls : List Call}

/-- A port encodes a payload if, and only if, its compression brings the payload into a frame.  What
else the port was asked to do before, and whether it encrypts, does not matter. -/
theorem exists_encode_iff (deflates : machine.Deflates) (inflates : machine.Inflates)
    (asked : compressionAsked calls = some c) (payload : Bytes) :
    (∃ after, encode payload (({} : Port machine.engine).run calls).2 = .ok () after) ↔
      ∃ frame, c.wrap machine.engine.library payload >>= Frame.encode = .ok frame := by
  have lawful := Zlib.Machine.lawful_engine deflates inflates
  obtain ⟨-, represents⟩ := represents_run lawful
    (⟨BufferedCodec.represents_new, rfl, rfl⟩ : ({} : Port machine.engine).Represents {}) calls
  have on : (({} : Plain).run machine.engine.library calls).2.codec.compression = some c := by
    rw [Plain.compression_run, asked]
    rfl
  have encodes := represents_encode lawful represents.codec payload
  rw [← Codec.frame_of_compression on, ← Codec.exists_encode_iff_frame]
  rcases out : Codec.encode machine.engine.library payload _ with ⟨octets, left⟩ | ⟨fault, left⟩ <;>
    rw [out] at encodes <;> obtain ⟨after, encoded, -⟩ := encodes <;> rw [encoded]
  · exact ⟨fun _ => ⟨octets, left, rfl⟩, fun _ => ⟨after, rfl⟩⟩
  · exact ⟨nofun, nofun⟩

end Port

/-! ## The threshold of a configuration -/

namespace Handlers

variable {α : Type}

/-- Whoever is let in is told the threshold before it is used. -/
theorem finishLogin_announces (session : Session α) {threshold : UInt64}
    (set : session.server.config.compressionThreshold = some threshold) :
    ∃ rest, (finishLogin session).actions = session.actions ++
      .send (Packet.encode (SetCompression.mk threshold.toUInt32)) ::
        .enableCompression threshold.toNat session.server.config.compressionLevel.toNat :: rest := by
  have announces (session : Session α) {username : String}
      (named : session.username = some username)
      (set : session.server.config.compressionThreshold = some threshold) :
      ∃ rest, (finishLogin session).actions = session.actions ++
        .send (Packet.encode (SetCompression.mk threshold.toUInt32)) ::
          .enableCompression threshold.toNat session.server.config.compressionLevel.toNat ::
            rest := by
    rw [finishLogin_eq session named, welcome, set]
    exact ⟨_, rfl⟩
  cases named : session.username with
  | some username => exact announces session named set
  | none =>
    rw [Adds.finishLogin_of_none named]
    exact announces { session with username := some "" } rfl set

end Handlers

/-- **A threshold that has been checked fits.**  It is announced as it is.  A port that compresses
from it on encodes every shorter payload, and of the others those that are not too long themselves and
have no envelope that is. -/
theorem validated_threshold_fits {config : ServerConfig} {threshold : UInt64}
    (valid : config.problem? = none) (set : config.compressionThreshold = some threshold)
    {machine : Zlib.Machine} (deflates : machine.Deflates) (inflates : machine.Inflates) :
    (∀ (α : Type) (session : Session α), session.server.config = config →
      ∃ announced rest, announced.toNat = threshold.toNat ∧
        (Handlers.finishLogin session).actions = session.actions ++
          .send (Packet.encode (SetCompression.mk announced)) ::
            .enableCompression threshold.toNat config.compressionLevel.toNat :: rest) ∧
    ∀ (calls : List Port.Call) (payload : Bytes), Port.compressionAsked calls =
        some ⟨threshold.toNat, config.compressionLevel.toNat⟩ →
      let port := (({} : Port machine.engine).run calls).2
      let envelope := Varint.encode payload.length ++
        machine.engine.library.deflate config.compressionLevel.toNat payload
      (payload.length < threshold.toNat → ∃ after, Port.encode payload port = .ok () after) ∧
        (threshold.toNat ≤ payload.length →
          ((∃ after, Port.encode payload port = .ok () after) ↔
            payload.length ≤ 2097152 ∧ envelope.length ≤ 2097151)) := by
  obtain ⟨-, -, level, low⟩ := ServerConfig.problem?_eq_none_iff.mp valid
  have fits : threshold.toNat ≤ Frame.maxPayload := low threshold set
  constructor
  · rintro α session rfl
    obtain ⟨rest, queued⟩ := Handlers.finishLogin_announces session set
    exact ⟨_, rest, Handlers.toNat_toUInt32_of_le fits, queued⟩
  · intro calls payload asked port envelope
    have encodes := Port.exists_encode_iff deflates inflates asked payload
    refine ⟨fun short => ?_, fun long => ?_⟩
    · exact encodes.mpr (Compression.exists_frame_below_iff.mpr fits payload short)
    · have whole : Compression.deflated machine.engine.library
          ⟨threshold.toNat, config.compressionLevel.toNat⟩ payload = envelope := by
        simp only [Compression.deflated, Nat.min_eq_left level, envelope]
      rw [encodes, Compression.exists_frame_above_iff long, whole]
      rfl

/-- The greatest threshold with the longest payload below it, on a port that encrypts. -/
theorem validated_threshold_fits_greatest :
    let config : ServerConfig := { compressionThreshold := some 2097151, compressionLevel := 0 }
    let secret : SharedSecret := ⟨List.replicate 16 1, rfl⟩
    let calls : List Port.Call := [.encode [0], .enableCompression 2097151 0, .enableEncryption secret]
    config.problem? = none ∧ ∃ payload : Bytes, payload.length = 2097150 ∧ ∃ after,
      Port.encode payload (({} : Port Zlib.Machine.stores.engine).run calls).2 = .ok () after := by
  intro config secret calls
  have valid : config.problem? = none := by decide
  obtain ⟨payload, length⟩ : ∃ payload : Bytes, payload.length = 2097150 :=
    ⟨List.replicate 2097150 0, List.length_replicate⟩
  have short : payload.length < (2097151 : UInt64).toNat := by
    rw [length]
    decide
  have encodes := (validated_threshold_fits valid rfl Zlib.Machine.deflates_stores
    Zlib.Machine.inflates_stores).2 calls payload rfl
  exact ⟨valid, payload, length, encodes.1 short⟩

end GameTransport
