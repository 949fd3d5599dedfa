import GameTransport.Codec
import GameTransport.Proofs.PortCalls

/-! # A port does what its layers say

A codec is described by its layers alone (`Codec`), and a port works with buffers, a compressor and a
decompressor.  If the objects of the engine are new after every reset, and every payload can be
compressed, then the two are the same: a port that stands for a codec (`Represents`) answers every
call as the codec does, and stands for what the codec becomes (`represents_encode`,
`represents_decode`).  So a new port replies to any calls as the layers alone would
(`replies_eq_plain`).  The compressor and the decompressor come down to the functions that they compute
when they are new (`Zlib.Engine.library`).
-/

namespace GameTransport

variable {engine : Zlib.Engine}

/-- Objects that are new after every reset, and a compressor that takes every payload. -/
structure Zlib.Engine.Lawful (engine : Zlib.Engine) : Prop where
  resetsDeflater : engine.ResetsDeflater
  resetsInflater : ∀ capacity body,
    engine.resetInflater (engine.inflate capacity body engine.inflater).2 = engine.inflater
  deflates : ∀ level payload, ∃ stream used,
    engine.deflate payload (engine.deflater level) = .ok stream used

theorem Zlib.Engine.lawful_ofLibrary (z : Zlib.Library) : (ofLibrary z).Lawful where
  resetsDeflater := resetsDeflater_ofLibrary z
  resetsInflater _ _ := rfl
  deflates level payload := ⟨z.deflate level payload, (level, true), rfl⟩

namespace Packer

/-- A packer of these settings, before a payload and after it. -/
def ofCompression (c : Compression) : Packer engine := .new c.threshold c.level

theorem wrap_ofCompression (lawful : engine.Lawful) (c : Compression) (payload buffer : Bytes) :
    wrap payload ((ofCompression c : Packer engine), buffer) =
      match c.wrap engine.library payload with
      | .ok envelope => .ok () (ofCompression c, buffer ++ envelope)
      | .error fault => .error fault (ofCompression c, buffer) := by
  obtain ⟨stream, used, deflated⟩ := lawful.deflates (min c.level Compression.maxLevel) payload
  have reset := lawful.resetsDeflater (min c.level Compression.maxLevel) payload
  rw [deflated] at reset
  simp only [wrap, Compression.wrap, ofCompression, new, Zlib.Engine.library, deflated]
  split
  · rfl
  · split
    · rw [List.append_assoc]
    · rw [List.append_assoc]
      exact congrArg (fun d => EStateM.Result.ok () (Packer.mk c.threshold d engine.inflater, _)) reset

/-- **A packer with a new decompressor unwraps what its settings say** and is left as it was, also where
it fails. -/
theorem unwrap_of_new {packer : Packer engine}
    (resets : ∀ capacity body,
      engine.resetInflater (engine.inflate capacity body engine.inflater).2 = engine.inflater)
    (new : packer.inflater = engine.inflater) (level : Nat) (envelope : Bytes) :
    unwrap envelope packer =
      match (⟨packer.threshold, level⟩ : Compression).unwrap engine.library envelope with
      | .ok payload => .ok payload packer
      | .error fault => .error fault packer := by
  obtain ⟨threshold, deflater, inflater⟩ := packer
  obtain rfl : inflater = engine.inflater := new
  simp only [unwrap, Compression.unwrap, Compression.open?]
  rcases Varint.readU32 envelope with ⟨declared, body⟩ | ⟨fault, rest⟩
  · have reset := resets (declared.toNat + 1) body
    dsimp only
    -- All but the last way out are taken before the decompressor is used.
    split
    · rfl
    · split
      · rfl
      · split
        · rfl
        · simp only [Zlib.Engine.library]
          rcases inflated : engine.inflate (declared.toNat + 1) body engine.inflater with
            ⟨result, used⟩
          rw [inflated] at reset
          dsimp only at reset ⊢
          rw [reset]
          rcases Compression.judge declared.toNat result with fault | payload <;> rfl
  · rfl

theorem unwrap_ofCompression (lawful : engine.Lawful) (c : Compression) (envelope : Bytes) :
    unwrap envelope (ofCompression c : Packer engine) =
      match c.unwrap engine.library envelope with
      | .ok payload => .ok payload (ofCompression c)
      | .error fault => .error fault (ofCompression c) :=
  unwrap_of_new lawful.resetsInflater rfl c.level envelope

end Packer

namespace BufferedCodec

/-- A codec with buffers stands for these layers. -/
structure Represents (codec : BufferedCodec engine) (layers : Codec) : Prop where
  packer : codec.packer = layers.compression.map Packer.ofCompression
  cipher : codec.sealer.map (·.duplex) = layers.cipher
  decrypted : codec.decrypted = layers.decrypted

variable {codec : BufferedCodec engine} {layers : Codec}

theorem represents_new : ({} : BufferedCodec engine).Represents {} := ⟨rfl, rfl, rfl⟩

theorem Represents.enableCompression (represents : codec.Represents layers) (threshold level : Nat) :
    (codec.enableCompression threshold level).Represents (layers.enableCompression threshold level) :=
  ⟨rfl, represents.cipher, represents.decrypted⟩

theorem Represents.enableEncryption (represents : codec.Represents layers) (secret : SharedSecret) :
    (codec.enableEncryption secret).Represents (layers.enableEncryption secret) :=
  ⟨represents.packer, rfl, rfl⟩

/-- Framing puts the frame into the buffer and leaves the layers alone. -/
theorem Represents.frame (lawful : engine.Lawful) (represents : codec.Represents layers)
    (payload : Bytes) :
    match layers.frame engine.library payload with
    | .ok octets => ∃ after, BufferedCodec.frame payload codec = .ok () after ∧
        after.scratch = octets ∧ after.Represents layers
    | .error fault => ∃ after, BufferedCodec.frame payload codec = .error fault after ∧
        after.Represents layers := by
  obtain ⟨compression, cipher, decrypted⟩ := layers
  obtain ⟨packer, sealer, decrypted', envelope, scratch⟩ := codec
  obtain ⟨packers, sealers, counted⟩ := represents
  obtain rfl : packer = compression.map Packer.ofCompression := packers
  cases compression with
  | none =>
    simp only [Codec.frame, BufferedCodec.frame, BufferedCodec.wrap, Option.map_none]
    rcases Frame.encode payload with fault | octets
    · exact ⟨_, rfl, rfl, sealers, counted⟩
    · exact ⟨_, rfl, rfl, rfl, sealers, counted⟩
  | some c =>
    simp only [Codec.frame, BufferedCodec.frame, BufferedCodec.wrap, Option.map_some,
      Packer.wrap_ofCompression lawful]
    rcases c.wrap engine.library payload with fault | envelope
    · exact ⟨_, rfl, rfl, sealers, counted⟩
    · simp only [List.nil_append, bind, Except.bind]
      rcases Frame.encode envelope with fault | octets
      · exact ⟨_, rfl, rfl, sealers, counted⟩
      · exact ⟨_, rfl, rfl, rfl, sealers, counted⟩

theorem Represents.unframe (lawful : engine.Lawful) (represents : codec.Represents layers)
    (frame : Bytes) :
    BufferedCodec.unframe frame codec =
      match layers.unframe engine.library frame with
      | .ok payload => .ok payload codec
      | .error fault => .error fault codec := by
  obtain ⟨compression, cipher, decrypted⟩ := layers
  obtain ⟨packer, sealer, decrypted', envelope, scratch⟩ := codec
  obtain ⟨packers, sealers, counted⟩ := represents
  obtain rfl : packer = compression.map Packer.ofCompression := packers
  cases compression with
  | none => rfl
  | some c =>
    simp only [Codec.unframe, BufferedCodec.unframe, Option.map_some,
      Packer.unwrap_ofCompression lawful]
    rcases c.unwrap engine.library frame with fault | payload <;> rfl

end BufferedCodec

namespace Port

variable {port : Port engine} {layers : Codec}

/-- **A port encodes as its layers do.** -/
theorem represents_encode (lawful : engine.Lawful) (represents : port.codec.Represents layers)
    (payload : Bytes) :
    match Codec.encode engine.library payload layers with
    | .ok octets left => ∃ after, encode payload port = .ok () after ∧ after.inbox = port.inbox ∧
        after.outbox = port.outbox ++ octets ∧ after.codec.Represents left
    | .error fault left => ∃ after, encode payload port = .error fault after ∧
        after.inbox = port.inbox ∧ after.outbox = port.outbox ∧ after.codec.Represents left := by
  have put := represents.frame lawful payload
  rw [Codec.encode]
  rcases framed : layers.frame engine.library payload with fault | octets <;> rw [framed] at put <;>
    dsimp only
  · obtain ⟨codec, put, kept⟩ := put
    rw [encode, put]
    exact ⟨_, rfl, rfl, rfl, kept⟩
  · obtain ⟨codec, put, rfl, kept⟩ := put
    rw [encode, put]
    dsimp only
    rw [BufferedCodec.encrypt, ← kept.cipher]
    rcases codec.sealer with _ | sealer
    · exact ⟨_, rfl, rfl, rfl, kept⟩
    · refine ⟨_, rfl, rfl, congrArg (port.outbox ++ ·) (sealer.fst_encrypt codec.scratch), ?_⟩
      exact ⟨kept.packer, congrArg some (sealer.duplex_encrypt codec.scratch), kept.decrypted⟩

/-- What has arrived at a port and the cipher that it goes through, with settings for what is done
with the frames. -/
def inlet (port : Port engine) (compression : Option Compression) : Codec.Inlet :=
  ⟨⟨compression, port.codec.sealer.map (·.duplex), port.codec.decrypted⟩, port.inbox⟩

/-- What has arrived is decrypted as an inlet does it. -/
theorem inlet_decrypt (port : Port engine) (compression : Option Compression) :
    port.decrypt.inlet compression = (port.inlet compression).decrypt := by
  obtain ⟨⟨packer, sealer, decrypted, envelope, scratch⟩, inbox, outbox⟩ := port
  cases sealer with
  | none => rfl
  | some sealer =>
    rcases rest : inbox.drop decrypted with _ | ⟨first, others⟩
    · have all : ¬ decrypted < inbox.length := by
        rw [List.drop_eq_nil_iff] at rest
        omega
      simp only [inlet, decrypt, Codec.Inlet.decrypt, Option.map_some, rest, if_neg all]
    · have fresh : decrypted < inbox.length := by
        have length := congrArg List.length rest
        rw [List.length_drop, List.length_cons] at length
        omega
      have whole : (inbox.take decrypted ++ (sealer.duplex.decrypt (first :: others)).1).length =
          inbox.length := by
        rw [List.length_append, Duplex.length_decrypt, ← rest, List.length_take, List.length_drop]
        omega
      simp only [inlet, decrypt, Codec.Inlet.decrypt, Option.map_some, rest, if_pos fresh,
        Sealer.decrypt, whole]

theorem outbox_decrypt (port : Port engine) : port.decrypt.outbox = port.outbox := by
  obtain ⟨⟨packer, sealer, decrypted, envelope, scratch⟩, inbox, outbox⟩ := port
  cases sealer with
  | none => rfl
  | some sealer => simp only [decrypt]; split <;> rfl

/-- What has arrived is decrypted as the layers do it. -/
theorem represents_decrypt (represents : port.codec.Represents layers) :
    port.decrypt.inbox = (Codec.Inlet.mk layers port.inbox).decrypt.buffer ∧
      port.decrypt.outbox = port.outbox ∧
      port.decrypt.codec.Represents (Codec.Inlet.mk layers port.inbox).decrypt.codec := by
  have shown : port.inlet layers.compression = ⟨layers, port.inbox⟩ := by
    rw [inlet, represents.cipher, represents.decrypted]
  have same := inlet_decrypt port layers.compression
  rw [shown] at same
  rw [← same]
  exact ⟨rfl, outbox_decrypt port, (packer_decrypt port).trans represents.packer, rfl, rfl⟩

/-- **A port decodes as its layers do.** -/
theorem represents_decode (lawful : engine.Lawful) (represents : port.codec.Represents layers) :
    match Codec.decode engine.library ⟨layers, port.inbox⟩ with
    | .ok payload? inlet => ∃ after, decode port = .ok payload? after ∧ after.inbox = inlet.buffer ∧
        after.outbox = port.outbox ∧ after.codec.Represents inlet.codec
    | .error fault inlet => ∃ after, decode port = .error fault after ∧
        after.inbox = inlet.buffer ∧ after.outbox = port.outbox ∧
        after.codec.Represents inlet.codec := by
  obtain ⟨buffer, outbox, kept⟩ := represents_decrypt represents
  rw [Codec.decode, decode]
  simp only [Codec.Inlet.takeFrame, ← buffer]
  rcases Frame.split? port.decrypt.inbox with fault | _ | ⟨frame, rest⟩
  · exact ⟨_, rfl, buffer, outbox, kept⟩
  · exact ⟨_, rfl, buffer, outbox, kept⟩
  · have advanced : (port.decrypt.codec.advance (port.decrypt.inbox.length - rest.length)).Represents
        { (Codec.Inlet.mk layers port.inbox).decrypt.codec with
          decrypted := (Codec.Inlet.mk layers port.inbox).decrypt.codec.decrypted -
            (port.decrypt.inbox.length - rest.length) } :=
      ⟨kept.packer, kept.cipher, congrArg (· - _) kept.decrypted⟩
    have unframed := advanced.unframe lawful frame
    dsimp only [Except.map, Option.map_some]
    rcases opened : Codec.unframe engine.library _ frame with fault | payload <;>
      rw [opened] at unframed <;> rw [unframed] <;> exact ⟨_, rfl, rfl, outbox, advanced⟩

/-! ### Any calls -/

/-- The layers alone, between the two buffers. -/
structure Plain where
  codec : Codec := {}
  inbox : Bytes := []
  outbox : Bytes := []

namespace Plain

variable (z : Zlib.Library)

/-- What a call comes to. -/
def act (call : Call) (plain : Plain) : Outcome × Plain :=
  match call with
  | .encode payload =>
    match Codec.encode z payload plain.codec with
    | .ok octets codec => (.encoded (.ok ()), { plain with codec, outbox := plain.outbox ++ octets })
    | .error fault codec => (.encoded (.error fault), { plain with codec })
  | .decode =>
    match Codec.decode z ⟨plain.codec, plain.inbox⟩ with
    | .ok payload? ⟨codec, inbox⟩ => (.decoded (.ok payload?), { plain with codec, inbox })
    | .error fault ⟨codec, inbox⟩ => (.decoded (.error fault), { plain with codec, inbox })
  | .enableCompression threshold level =>
    (.done, { plain with codec := plain.codec.enableCompression threshold level })
  | .enableEncryption secret =>
    (.done, { plain with codec := plain.codec.enableEncryption secret })
  | .handle change =>
    let (inbox, outbox) := change (plain.inbox, plain.outbox)
    (.done, { plain with inbox, outbox })

def step (call : Call) (plain : Plain) : Reply × Plain :=
  let (outcome, after) := plain.act z call
  (⟨outcome, after.inbox, after.outbox⟩, after)

def run (calls : List Call) (plain : Plain) : List Reply × Plain := Call.run (step z) calls plain

end Plain

/-- A port stands for its layers. -/
structure Represents (port : Port engine) (plain : Plain) : Prop where
  codec : port.codec.Represents plain.codec
  inbox : port.inbox = plain.inbox
  outbox : port.outbox = plain.outbox

variable {plain : Plain}

theorem represents_act (lawful : engine.Lawful) (represents : port.Represents plain) (call : Call) :
    (port.act call).1 = (plain.act engine.library call).1 ∧
      (port.act call).2.Represents (plain.act engine.library call).2 := by
  obtain ⟨codec, inbox, outbox⟩ := represents
  cases call with
  | encode payload =>
    have encodes := represents_encode lawful codec payload
    simp only [act, Plain.act]
    rcases out : Codec.encode engine.library payload plain.codec with ⟨octets, left⟩ | ⟨fault, left⟩ <;>
      rw [out] at encodes <;> obtain ⟨after, encoded, inbox', outbox', kept⟩ := encodes <;>
      rw [encoded]
    · exact ⟨rfl, kept, inbox'.trans inbox, outbox'.trans (congrArg (· ++ octets) outbox)⟩
    · exact ⟨rfl, kept, inbox'.trans inbox, outbox'.trans outbox⟩
  | decode =>
    have decodes := represents_decode lawful codec
    rw [inbox] at decodes
    simp only [act, Plain.act]
    rcases out : Codec.decode engine.library ⟨plain.codec, plain.inbox⟩ with
      ⟨payload?, left⟩ | ⟨fault, left⟩ <;>
      rw [out] at decodes <;> obtain ⟨after, decoded, inbox', outbox', kept⟩ := decodes <;>
      rw [decoded] <;> exact ⟨rfl, kept, inbox', outbox'.trans outbox⟩
  | enableCompression threshold level =>
    exact ⟨rfl, codec.enableCompression threshold level, inbox, outbox⟩
  | enableEncryption secret => exact ⟨rfl, codec.enableEncryption secret, inbox, outbox⟩
  | handle change =>
    simp only [act, Plain.act, inbox, outbox]
    exact ⟨trivial, codec, rfl, rfl⟩

theorem represents_run (lawful : engine.Lawful) (represents : port.Represents plain)
    (calls : List Call) :
    (port.run calls).1 = (plain.run engine.library calls).1 ∧
      (port.run calls).2.Represents (plain.run engine.library calls).2 := by
  induction calls generalizing port plain with
  | nil => exact ⟨rfl, represents⟩
  | cons call rest ih =>
    obtain ⟨outcome, left⟩ := represents_act lawful represents call
    obtain ⟨replies, last⟩ := ih left
    refine ⟨?_, last⟩
    change Reply.mk (port.act call).1 (port.act call).2.inbox (port.act call).2.outbox ::
      ((port.act call).2.run rest).1 = _
    rw [outcome, left.inbox, left.outbox, replies]
    rfl

/-- **A new port replies to any calls as the layers alone would.** -/
theorem replies_eq_plain (lawful : engine.Lawful) (calls : List Call) :
    (({} : Port engine).run calls).1 = (({} : Plain).run engine.library calls).1 :=
  (represents_run lawful ⟨BufferedCodec.represents_new, rfl, rfl⟩ calls).1

/-- So does one whose objects compute the functions of a library. -/
theorem replies_ofLibrary (z : Zlib.Library) (calls : List Call) :
    (({} : Port (.ofLibrary z)).run calls).1 = (({} : Plain).run z calls).1 := by
  have same := replies_eq_plain (Zlib.Engine.lawful_ofLibrary z) calls
  rwa [Zlib.Engine.library_ofLibrary] at same

end Port

end GameTransport
