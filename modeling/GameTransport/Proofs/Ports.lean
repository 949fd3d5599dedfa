import GameTransport.BufferedCodec
import GameTransport.Proofs.Written

/-! # Nothing but the layers passes from one payload to the next

A port keeps a compressor and several buffers.  The buffers are filled anew for every payload, so
they may as well be emptied in between (`cleared`): what a call answers and leaves is the same
(`told_encode_cleared`, `told_decode_cleared`).  And if resetting a compressor makes it new, a packer
that wraps a payload is left as it was, whatever comes of it (`Packer.fst_stateOf_wrap`).  Both
together say that all an encoding changes is the outgoing buffer and the stream of the cipher, and
that one that fails changes nothing.
-/

namespace GameTransport

variable {engine : Zlib.Engine}

/-- What a call answers, and what it leaves. -/
def told {ε σ β : Type} : EStateM.Result ε σ β → Except ε β × σ
  | .ok value state => (.ok value, state)
  | .error fault state => (.error fault, state)

theorem snd_told {ε σ β : Type} (result : EStateM.Result ε σ β) : (told result).2 = stateOf result := by
  cases result <;> rfl

/-! ### Resetting the compressor -/

namespace Zlib.Engine

/-- A new compressor that has been used is new again once it is reset. -/
def ResetsDeflater (engine : Engine) : Prop :=
  ∀ level payload, engine.resetDeflater (stateOf (engine.deflate payload (engine.deflater level))) =
    engine.deflater level

theorem resetsDeflater_ofLibrary (z : Library) : (ofLibrary z).ResetsDeflater := fun _ _ => rfl

end Zlib.Engine

namespace Packer

variable {packer : Packer engine}

/-- The compressor is new. -/
def AtRest (packer : Packer engine) : Prop := ∃ level, packer.deflater = engine.deflater level

theorem atRest_new (threshold level : Nat) : (new threshold level : Packer engine).AtRest :=
  ⟨_, rfl⟩

/-- Wrapping leaves the packer as it was, also where it fails. -/
theorem fst_stateOf_wrap (resets : engine.ResetsDeflater) (rests : packer.AtRest)
    (payload buffer : Bytes) : (stateOf (wrap payload (packer, buffer))).1 = packer := by
  obtain ⟨threshold, deflater, inflater⟩ := packer
  obtain ⟨level, rfl⟩ := rests
  have reset := resets level payload
  simp only [wrap]
  split
  · rfl
  · split
    · rfl
    · rcases deflated : engine.deflate payload (engine.deflater level) with
        ⟨stream, used⟩ | ⟨text, used⟩ <;> rw [deflated] at reset <;>
        exact congrArg (Packer.mk threshold · inflater) reset

/-- Unwrapping leaves the compressor alone. -/
theorem deflater_stateOf_unwrap (packer : Packer engine) (envelope : Bytes) :
    (stateOf (unwrap envelope packer)).deflater = packer.deflater := by
  simp only [unwrap]
  split
  · rfl
  · split
    · rfl
    · split
      · rfl
      · split
        · rfl
        · split
          split <;> rfl

end Packer

/-! ### Emptying the buffers -/

namespace Sealer

variable (sealer : Sealer) (plain : Bytes)

/-- What stood in the buffer before is not encrypted. -/
theorem fst_encrypt : (sealer.encrypt plain).1 = (sealer.duplex.encrypt plain).1 := by
  simp [encrypt]

theorem duplex_encrypt : (sealer.encrypt plain).2.duplex = (sealer.duplex.encrypt plain).2 := by
  simp [encrypt]

/-- With an empty buffer. -/
def cleared : Sealer := { sealer with scratch := [] }

@[simp] theorem cleared_comp_cleared : cleared ∘ cleared = cleared := funext fun _ => rfl

end Sealer

namespace BufferedCodec

variable {codec : BufferedCodec engine}

/-- With empty buffers. -/
def cleared (codec : BufferedCodec engine) : BufferedCodec engine :=
  { codec with sealer := codec.sealer.map Sealer.cleared, envelope := [], scratch := [] }

@[simp] theorem cleared_cleared (codec : BufferedCodec engine) :
    codec.cleared.cleared = codec.cleared := by simp [cleared]

/-- The compressor, if there is one, is new. -/
def AtRest (codec : BufferedCodec engine) : Prop := ∀ packer ∈ codec.packer, packer.AtRest

theorem cleared_stateOf_wrap (resets : engine.ResetsDeflater) (rests : codec.AtRest)
    (payload : Bytes) : (stateOf (wrap payload codec)).cleared = codec.cleared := by
  obtain ⟨packer?, sealer, decrypted, envelope, scratch⟩ := codec
  cases packer? with
  | none => rfl
  | some packer =>
    have same := Packer.fst_stateOf_wrap resets (rests packer rfl) payload []
    simp only [wrap]
    rcases wrapped : Packer.wrap payload (packer, []) with
      ⟨⟨⟩, packer', envelope'⟩ | ⟨fault, packer', envelope'⟩ <;> rw [wrapped] at same <;>
      cases same <;> rfl

/-- All that framing changes are the buffers. -/
theorem cleared_stateOf_frame (resets : engine.ResetsDeflater) (rests : codec.AtRest)
    (payload : Bytes) : (stateOf (frame payload codec)).cleared = codec.cleared := by
  have rests' : ({ codec with scratch := [] } : BufferedCodec engine).AtRest := rests
  have same := cleared_stateOf_wrap resets rests' payload
  rw [frame]
  rcases wrapped : wrap payload { codec with scratch := [] } with
    ⟨body, after⟩ | ⟨fault, after⟩ <;> rw [wrapped] at same
  · dsimp only
    rcases Frame.encode body with fault | octets <;> exact same
  · exact same

/-- What stood in the buffers before is not framed. -/
theorem told_frame_cleared (payload : Bytes) (codec : BufferedCodec engine) :
    (told (frame payload codec.cleared)).map id (fun after => (after.cleared, after.scratch)) =
      (told (frame payload codec)).map id fun after => (after.cleared, after.scratch) := by
  obtain ⟨packer?, sealer, decrypted, envelope, scratch⟩ := codec
  cases packer? with
  | none =>
    simp only [frame, wrap, cleared]
    rcases Frame.encode payload with fault | octets <;> simp [told]
  | some packer =>
    simp only [frame, wrap, cleared]
    rcases Packer.wrap payload (packer, []) with
      ⟨⟨⟩, packer', envelope'⟩ | ⟨fault, packer', envelope'⟩
    · dsimp only
      rcases Frame.encode envelope' with fault | octets <;> simp [told]
    · simp [told]

theorem packer_of_cleared_eq {other : BufferedCodec engine} (same : codec.cleared = other.cleared) :
    codec.packer = other.packer := by
  have packers := congrArg packer same
  exact packers

theorem encrypt_of_cleared_eq {other : BufferedCodec engine} (same : codec.cleared = other.cleared)
    (frame : codec.scratch = other.scratch) :
    codec.encrypt.1 = other.encrypt.1 ∧ codec.encrypt.2.cleared = other.encrypt.2.cleared := by
  obtain ⟨packer, sealer, decrypted, envelope, scratch⟩ := codec
  obtain ⟨packer', sealer', decrypted', envelope', scratch'⟩ := other
  simp only [cleared, mk.injEq, and_true] at same
  obtain ⟨rfl, sealers, rfl⟩ := same
  obtain rfl : scratch = scratch' := frame
  rcases sealer with _ | ⟨duplex, dirt⟩ <;> rcases sealer' with _ | ⟨duplex', dirt'⟩ <;>
    cases sealers
  · exact ⟨rfl, rfl⟩
  · simp [encrypt, cleared, Sealer.encrypt, Sealer.cleared]

theorem packer_encrypt (codec : BufferedCodec engine) : codec.encrypt.2.packer = codec.packer := by
  obtain ⟨packer, sealer, decrypted, envelope, scratch⟩ := codec
  cases sealer <;> rfl

/-- Unframing neither reads nor writes the buffers. -/
theorem told_unframe_cleared (frame : Bytes) (codec : BufferedCodec engine) :
    told (unframe frame codec.cleared) = (told (unframe frame codec)).map id cleared := by
  obtain ⟨packer?, sealer, decrypted, envelope, scratch⟩ := codec
  cases packer? with
  | none => rfl
  | some packer =>
    simp only [unframe, cleared]
    rcases Packer.unwrap frame packer with ⟨payload, after⟩ | ⟨fault, after⟩ <;> rfl

theorem atRest_stateOf_unframe (rests : codec.AtRest) (frame : Bytes) :
    (stateOf (unframe frame codec)).AtRest := by
  obtain ⟨packer?, sealer, decrypted, envelope, scratch⟩ := codec
  cases packer? with
  | none => exact rests
  | some packer =>
    have kept := Packer.deflater_stateOf_unwrap packer frame
    obtain ⟨level, new⟩ := rests packer rfl
    simp only [unframe]
    rcases unwrapped : Packer.unwrap frame packer with ⟨payload, after⟩ | ⟨fault, after⟩ <;>
      rw [unwrapped] at kept <;> rintro _ ⟨⟩ <;> exact ⟨level, kept.trans new⟩

end BufferedCodec

namespace Port

variable {port : Port engine}

/-- With empty buffers, those of the two ends apart. -/
def cleared (port : Port engine) : Port engine := { port with codec := port.codec.cleared }

@[simp] theorem cleared_cleared (port : Port engine) : port.cleared.cleared = port.cleared := by
  simp [cleared]

@[simp] theorem inbox_cleared (port : Port engine) : port.cleared.inbox = port.inbox := rfl

theorem buffers_of_cleared_eq {other : Port engine} (same : port.cleared = other.cleared) :
    port.inbox = other.inbox ∧ port.outbox = other.outbox := by
  have buffers := congrArg (fun port => (port.inbox, port.outbox)) same
  exact Prod.mk.inj buffers

theorem told_encode_cleared (payload : Bytes) (port : Port engine) :
    (told (encode payload port.cleared)).map id cleared =
      (told (encode payload port)).map id cleared := by
  have same := BufferedCodec.told_frame_cleared payload port.codec
  simp only [encode, cleared]
  rcases framed : BufferedCodec.frame payload port.codec with ⟨⟨⟩, codec⟩ | ⟨fault, codec⟩ <;>
    rcases framed' : BufferedCodec.frame payload port.codec.cleared with
      ⟨⟨⟩, codec'⟩ | ⟨fault', codec'⟩ <;> rw [framed, framed'] at same <;>
    simp only [told, Prod.map, id, Prod.mk.injEq, reduceCtorEq, false_and, true_and,
      Except.error.injEq] at same
  · obtain ⟨octets, left⟩ := BufferedCodec.encrypt_of_cleared_eq same.1 same.2
    change (_, Port.mk codec'.encrypt.2.cleared _ (_ ++ codec'.encrypt.1)) = _
    rw [octets, left]
    rfl
  · obtain ⟨rfl, left, -⟩ := same
    simp only [told, Prod.map, cleared, id, left]

theorem decrypt_cleared (port : Port engine) : port.cleared.decrypt = port.decrypt.cleared := by
  obtain ⟨⟨packer, sealer, decrypted, envelope, scratch⟩, inbox, outbox⟩ := port
  cases sealer with
  | none => rfl
  | some sealer =>
    by_cases fresh : decrypted < inbox.length
    · simp [decrypt, cleared, BufferedCodec.cleared, fresh, Sealer.decrypt, Sealer.cleared]
    · simp [decrypt, cleared, BufferedCodec.cleared, fresh]

theorem told_decode_cleared (port : Port engine) :
    told (decode port.cleared) = (told (decode port)).map id cleared := by
  rw [decode, decrypt_cleared, decode]
  dsimp only [inbox_cleared]
  rcases Frame.split? port.decrypt.inbox with fault | _ | ⟨frame, inbox⟩
  · rfl
  · rfl
  · have advanced : port.decrypt.cleared.codec.advance (port.decrypt.inbox.length - inbox.length) =
        (port.decrypt.codec.advance (port.decrypt.inbox.length - inbox.length)).cleared := rfl
    dsimp only
    rw [advanced]
    generalize port.decrypt.codec.advance _ = codec
    have same := BufferedCodec.told_unframe_cleared frame codec
    rcases unframed : BufferedCodec.unframe frame codec.cleared with
        ⟨payload, after⟩ | ⟨fault, after⟩ <;>
      rcases unframed' : BufferedCodec.unframe frame codec with
        ⟨payload', after'⟩ | ⟨fault', after'⟩ <;>
      rw [unframed, unframed'] at same <;> cases same <;> rfl

/-! ### The compressor is new before every call -/

theorem packer_decrypt (port : Port engine) : port.decrypt.codec.packer = port.codec.packer := by
  obtain ⟨⟨packer, sealer, decrypted, envelope, scratch⟩, inbox, outbox⟩ := port
  cases sealer with
  | none => rfl
  | some sealer => simp only [decrypt]; split <;> rfl

theorem atRest_decode (rests : port.codec.AtRest) : (stateOf (decode port)).codec.AtRest := by
  have rests' : port.decrypt.codec.AtRest := by
    rw [BufferedCodec.AtRest, packer_decrypt]
    exact rests
  rw [decode]
  rcases Frame.split? port.decrypt.inbox with fault | _ | ⟨frame, inbox⟩
  · exact rests'
  · exact rests'
  · have advanced :
        (port.decrypt.codec.advance (port.decrypt.inbox.length - inbox.length)).AtRest := rests'
    have kept := BufferedCodec.atRest_stateOf_unframe advanced frame
    dsimp only
    rcases unframed : BufferedCodec.unframe frame (port.decrypt.codec.advance _) with
      ⟨payload, codec⟩ | ⟨fault, codec⟩ <;> rw [unframed] at kept <;> exact kept

theorem packer_encode (resets : engine.ResetsDeflater) (rests : port.codec.AtRest)
    (payload : Bytes) : (stateOf (encode payload port)).codec.packer = port.codec.packer := by
  have same := BufferedCodec.packer_of_cleared_eq
    (BufferedCodec.cleared_stateOf_frame resets rests payload)
  rw [encode]
  rcases framed : BufferedCodec.frame payload port.codec with ⟨⟨⟩, codec⟩ | ⟨fault, codec⟩ <;>
    rw [framed] at same
  · exact (BufferedCodec.packer_encrypt codec).trans same
  · exact same

end Port

end GameTransport
