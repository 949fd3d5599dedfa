import GameTransport.Codec
import GameTransport.Proofs.CipherStream
import GameTransport.Proofs.Framing

/-! # Octets that arrive early and octets that arrive late

An inlet decrypts all it holds before it looks for a frame.  `Inlet.decrypt` is therefore its normal
form: `Codec.decode` sees nothing else of an inlet (`decode_congr`), and octets that arrive after
the decryption come to what they come to when they arrive before it (`decrypt_arrive`).

The main statements compare a call of `decode` with the same call made after more has arrived.  A
payload is the same payload and a fault the same fault; only "nothing yet" may change
(`decode_arrive_some`, `decode_arrive_error`).
-/

namespace GameTransport.Codec

def outbound? (codec : Codec) : Option Cfb8 := codec.cipher.map (·.outbound)

def inbound? (codec : Codec) : Option Cfb8 := codec.cipher.map (·.inbound)

namespace Inlet

/-- More octets arrive. -/
def arrive (inlet : Inlet) (octets : Bytes) : Inlet :=
  { inlet with buffer := inlet.buffer ++ octets }

/-- The octets that are counted as decrypted are there. -/
def Counted (inlet : Inlet) : Prop := inlet.codec.decrypted ≤ inlet.buffer.length

variable {inlet after : Inlet} {cipher : Duplex} {frame octets : Bytes}

@[simp] theorem codec_arrive : (inlet.arrive octets).codec = inlet.codec := rfl

@[simp] theorem buffer_arrive : (inlet.arrive octets).buffer = inlet.buffer ++ octets := rfl

@[simp] theorem arrive_nil : inlet.arrive [] = inlet := by simp [arrive]

theorem arrive_arrive (more : Bytes) :
    (inlet.arrive octets).arrive more = inlet.arrive (octets ++ more) := by
  simp [arrive]

theorem Counted.arrive (counted : inlet.Counted) (octets : Bytes) :
    (inlet.arrive octets).Counted := by
  unfold Counted at *
  rw [codec_arrive, buffer_arrive, List.length_append]
  omega

/-! ## The normal form -/

theorem decrypt_of_none (h : inlet.codec.cipher = none) : inlet.decrypt = inlet := by
  unfold decrypt
  dsimp only
  rw [h]

theorem decrypt_of_some (counted : inlet.Counted) (h : inlet.codec.cipher = some cipher) :
    inlet.decrypt =
      { codec :=
          { inlet.codec with
            cipher := some (cipher.decrypt (inlet.buffer.drop inlet.codec.decrypted)).2
            decrypted := inlet.buffer.length }
        buffer := inlet.buffer.take inlet.codec.decrypted ++
          (cipher.decrypt (inlet.buffer.drop inlet.codec.decrypted)).1 } := by
  obtain ⟨⟨compression, _, decrypted⟩, buffer⟩ := inlet
  change decrypted ≤ buffer.length at counted
  subst h
  unfold decrypt
  dsimp only
  split
  · rename_i nothing
    have all : decrypted = buffer.length := Nat.le_antisymm counted (List.drop_eq_nil_iff.mp nothing)
    rw [nothing, all]
    simp
  · simp only [List.length_append, List.length_take, Duplex.length_decrypt, List.length_drop]
    rw [show min decrypted buffer.length + (buffer.length - decrypted) = buffer.length by omega]

/-- In normal form, all of the buffer is decrypted. -/
theorem decrypted_of_settled (counted : inlet.Counted) (settled : inlet.decrypt = inlet)
    (h : inlet.codec.cipher = some cipher) : inlet.codec.decrypted = inlet.buffer.length := by
  have := congrArg (fun i : Inlet => i.codec.decrypted) (decrypt_of_some counted h)
  rw [settled] at this
  exact this

theorem decrypt_of_empty (h : inlet.buffer = []) : inlet.decrypt = inlet := by
  unfold decrypt
  dsimp only
  split
  · rfl
  · rw [h, List.drop_nil]

theorem compression_decrypt : inlet.decrypt.codec.compression = inlet.codec.compression := by
  unfold decrypt
  dsimp only
  split
  · rfl
  · split <;> rfl

theorem Counted.decrypt (counted : inlet.Counted) : inlet.decrypt.Counted := by
  cases h : inlet.codec.cipher with
  | none => rw [decrypt_of_none h]; exact counted
  | some cipher =>
    unfold Counted
    rewrite [length_decrypt, decrypt_of_some counted h]
    exact Nat.le_refl _

/-- **It makes no difference whether octets arrive before or after a decryption.** -/
theorem decrypt_arrive (counted : inlet.Counted) (octets : Bytes) :
    (inlet.decrypt.arrive octets).decrypt = (inlet.arrive octets).decrypt := by
  cases h : inlet.codec.cipher with
  | none => rw [decrypt_of_none h]
  | some cipher =>
    have settled := decrypt_of_some counted h
    have later : (inlet.decrypt.arrive octets).codec.cipher =
        some (cipher.decrypt (inlet.buffer.drop inlet.codec.decrypted)).2 := by
      rw [codec_arrive, settled]
    have size : (inlet.buffer.take inlet.codec.decrypted ++
        (cipher.decrypt (inlet.buffer.drop inlet.codec.decrypted)).1).length =
          inlet.buffer.length := by
      rw [← length_decrypt inlet, settled]
    rw [decrypt_of_some (counted.decrypt.arrive octets) later,
      decrypt_of_some (counted.arrive octets) h]
    simp only [codec_arrive, buffer_arrive, settled, List.drop_append_of_le_length counted,
      List.take_append_of_le_length counted, Duplex.decrypt_append]
    rw [List.drop_left' size, List.take_left' size, List.length_append, size, List.length_append,
      List.append_assoc]

/-- Octets that arrive later leave the plain octets before them alone. -/
theorem buffer_decrypt_arrive (counted : inlet.Counted) (octets : Bytes) :
    ∃ more, (inlet.arrive octets).decrypt.buffer = inlet.decrypt.buffer ++ more := by
  cases h : inlet.codec.cipher with
  | none =>
    have later : (inlet.arrive octets).codec.cipher = none := h
    rw [decrypt_of_none h, decrypt_of_none later]
    exact ⟨octets, rfl⟩
  | some cipher =>
    rw [decrypt_of_some counted h, decrypt_of_some (counted.arrive octets) h]
    simp only [codec_arrive, buffer_arrive, List.drop_append_of_le_length counted,
      List.take_append_of_le_length counted, Duplex.decrypt_append, ← List.append_assoc]
    exact ⟨_, rfl⟩

@[simp] theorem decrypt_decrypt (counted : inlet.Counted) : inlet.decrypt.decrypt = inlet.decrypt := by
  simpa using decrypt_arrive counted []

theorem outbound?_decrypt (inlet : Inlet) :
    inlet.decrypt.codec.outbound? = inlet.codec.outbound? := by
  unfold Inlet.decrypt outbound?
  dsimp only
  split
  · rfl
  · rename_i on
    split
    · rfl
    · rw [on]
      rfl

/-! ## Frames -/

theorem takeFrame_eq_some (h : inlet.takeFrame = .ok (some (frame, after))) :
    Frame.split? inlet.buffer = .ok (some (frame, after.buffer)) ∧
      after.codec = { inlet.codec with
        decrypted := inlet.codec.decrypted - (inlet.buffer.length - after.buffer.length) } := by
  unfold takeFrame at h
  rcases found : Frame.split? inlet.buffer with fault | _ | ⟨payload, rest⟩
  · rw [found] at h; cases h
  · rw [found] at h; cases h
  · rw [found] at h
    cases h
    exact ⟨rfl, rfl⟩

theorem takeFrame_of_split? {rest : Bytes} (h : Frame.split? inlet.buffer = .ok (some (frame, rest))) :
    inlet.takeFrame = .ok (some (frame,
      { codec := { inlet.codec with
          decrypted := inlet.codec.decrypted - (inlet.buffer.length - rest.length) }
        buffer := rest })) := by
  unfold takeFrame
  rw [h]
  rfl

theorem takeFrame_eq_error {fault : Fault} :
    inlet.takeFrame = .error fault ↔ Frame.split? inlet.buffer = .error fault := by
  unfold takeFrame
  rcases Frame.split? inlet.buffer with _ | _ | _ <;> simp [Except.map]

/-- The octets that are left of a buffer are still counted. -/
theorem Counted.takeFrame (counted : inlet.Counted)
    (h : inlet.takeFrame = .ok (some (frame, after))) : after.Counted := by
  obtain ⟨found, codec_eq⟩ := takeFrame_eq_some h
  have shorter := Frame.length_lt_of_split? found
  unfold Counted at *
  rw [codec_eq]
  dsimp only
  omega

/-- Of an inlet in normal form, the frame at the front may be taken before or after more octets
arrive. -/
theorem takeFrame_arrive (counted : inlet.Counted) (settled : inlet.decrypt = inlet)
    (h : inlet.takeFrame = .ok (some (frame, after))) (octets : Bytes) :
    (inlet.arrive octets).decrypt.takeFrame = .ok (some (frame, (after.arrive octets).decrypt)) := by
  obtain ⟨found, codec_eq⟩ := takeFrame_eq_some h
  have shorter := Frame.length_lt_of_split? found
  cases hc : inlet.codec.cipher with
  | none =>
    have same : after.codec.cipher = none := by rw [codec_eq]; exact hc
    have sooner : (inlet.arrive octets).codec.cipher = none := hc
    have later : (after.arrive octets).codec.cipher = none := same
    rw [decrypt_of_none sooner, decrypt_of_none later,
      takeFrame_of_split? (Frame.split?_append_some octets found)]
    simp only [arrive, codec_eq, List.length_append]
    rw [Nat.add_sub_add_right]
  | some cipher =>
    -- All of the buffer is decrypted, so what is left behind the frame is decrypted too.
    have all := decrypted_of_settled counted settled hc
    have same : after.codec.cipher = some cipher := by rw [codec_eq]; exact hc
    have left : after.codec.decrypted = after.buffer.length := by
      rw [codec_eq, all]
      dsimp only
      omega
    rw [decrypt_of_some (counted.arrive octets) hc,
      decrypt_of_some ((counted.takeFrame h).arrive octets) same]
    simp only [codec_arrive, buffer_arrive, all, left, List.take_left, List.drop_left]
    rw [takeFrame_of_split? (Frame.split?_append_some _ found)]
    simp only [codec_eq, List.length_append, Duplex.length_decrypt]
    rw [Nat.add_sub_add_right, show inlet.buffer.length + octets.length -
      (inlet.buffer.length - after.buffer.length) = after.buffer.length + octets.length by omega]

end Inlet

/-! ## Decoding -/

variable {z : Zlib.Library} {inlet after : Inlet} {payload octets : Bytes} {fault : Fault}

/-- **Decoding sees an inlet in its normal form only.** -/
theorem decode_congr {other : Inlet} (h : inlet.decrypt = other.decrypt) :
    decode z inlet = decode z other := by
  unfold decode
  rw [h]

theorem decode_eq_none (h : decode z inlet = .ok none after) : after = inlet.decrypt := by
  unfold decode at h
  dsimp only at h
  split at h
  · cases h
  · cases h; rfl
  · split at h <;> cases h

theorem decode_eq_some (h : decode z inlet = .ok (some payload) after) :
    ∃ frame, inlet.decrypt.takeFrame = .ok (some (frame, after)) ∧
      after.codec.unframe z frame = .ok payload := by
  unfold decode at h
  dsimp only at h
  split at h
  · cases h
  · cases h
  · rename_i frame taken found
    split at h
    · cases h
    · rename_i opened
      cases h
      exact ⟨frame, found, opened⟩

theorem decode_of_takeFrame {frame : Bytes}
    (h : inlet.decrypt.takeFrame = .ok (some (frame, after))) :
    decode z inlet =
      match after.codec.unframe z frame with
      | .error fault => .error fault after
      | .ok payload => .ok (some payload) after := by
  unfold decode
  dsimp only
  rewrite [h]
  rfl

theorem decode_of_takeFrame_error (h : inlet.decrypt.takeFrame = .error fault) :
    decode z inlet = .error fault inlet.decrypt := by
  unfold decode
  dsimp only
  rw [h]

/-- What a frame holds depends on the compression only. -/
theorem unframe_congr {codec other : Codec} (h : codec.compression = other.compression)
    (frame : Bytes) : codec.unframe z frame = other.unframe z frame := by
  unfold unframe
  rw [h]

/-- Nothing is in an empty buffer. -/
theorem decode_of_empty (h : inlet.buffer = []) : decode z inlet = .ok none inlet := by
  have nothing : inlet.takeFrame = .ok none := by
    unfold Inlet.takeFrame
    rw [h, Frame.split?_nil]
    rfl
  unfold decode
  dsimp only
  rw [Inlet.decrypt_of_empty h, nothing]

/-- A call that finds nothing finds no complete frame at the front. -/
theorem split?_of_decode_none (h : decode z inlet = .ok none after) :
    Frame.split? inlet.decrypt.buffer = .ok none := by
  rcases found : Frame.split? inlet.decrypt.buffer with fault | _ | ⟨frame, rest⟩
  · rw [decode_of_takeFrame_error (Inlet.takeFrame_eq_error.mpr found)] at h
    cases h
  · rfl
  · rw [decode_of_takeFrame (Inlet.takeFrame_of_split? found)] at h
    dsimp only at h
    split at h <;> cases h

/-- Taking a frame off leaves compression as it is. -/
theorem compression_of_takeFrame {frame : Bytes}
    (h : inlet.decrypt.takeFrame = .ok (some (frame, after))) :
    after.codec.compression = inlet.codec.compression := by
  rw [(Inlet.takeFrame_eq_some h).2]
  dsimp only
  rw [Inlet.compression_decrypt]

/-- A fault is one of the length at the front of the buffer or one of the frame that was taken. -/
theorem decode_eq_error (h : decode z inlet = .error fault after) :
    (inlet.decrypt.takeFrame = .error fault ∧ after = inlet.decrypt) ∨
      ∃ frame, inlet.decrypt.takeFrame = .ok (some (frame, after)) ∧
        after.codec.unframe z frame = .error fault := by
  unfold decode at h
  dsimp only at h
  split at h
  · rename_i found
    cases h
    exact .inl ⟨found, rfl⟩
  · cases h
  · rename_i frame taken found
    split at h
    · rename_i failed
      cases h
      exact .inr ⟨frame, found, failed⟩
    · cases h

theorem Inlet.Counted.decode_some (counted : inlet.Counted)
    (h : decode z inlet = .ok (some payload) after) : after.Counted := by
  obtain ⟨frame, found, _⟩ := decode_eq_some h
  exact counted.decrypt.takeFrame found

theorem Inlet.Counted.decode_none (counted : inlet.Counted)
    (h : decode z inlet = .ok none after) : after.Counted := by
  rw [decode_eq_none h]
  exact counted.decrypt

theorem Inlet.Counted.decode_error (counted : inlet.Counted)
    (h : decode z inlet = .error fault after) : after.Counted := by
  rcases decode_eq_error h with ⟨_, rfl⟩ | ⟨frame, found, _⟩
  · exact counted.decrypt
  · exact counted.decrypt.takeFrame found

/-- The frame that a call takes is the one that it would take if more had arrived. -/
theorem takeFrame_decrypt_arrive (counted : inlet.Counted) {frame : Bytes}
    (h : inlet.decrypt.takeFrame = .ok (some (frame, after))) (octets : Bytes) :
    (inlet.arrive octets).decrypt.takeFrame =
      .ok (some (frame, (after.arrive octets).decrypt)) := by
  rw [← Inlet.decrypt_arrive counted octets]
  exact Inlet.takeFrame_arrive counted.decrypt (Inlet.decrypt_decrypt counted) h octets

/-- The inlet that a frame was taken off is in normal form. -/
theorem decrypt_of_takeFrame (counted : inlet.Counted) {frame : Bytes}
    (h : inlet.decrypt.takeFrame = .ok (some (frame, after))) : after.decrypt = after := by
  have same := takeFrame_decrypt_arrive counted h []
  rw [Inlet.arrive_nil, Inlet.arrive_nil, h] at same
  exact (Prod.mk.inj (Option.some.inj (Except.ok.inj same))).2.symm

/-- **A payload that is decoded now is decoded if more arrives first.** -/
theorem decode_arrive_some (counted : inlet.Counted)
    (h : decode z inlet = .ok (some payload) after) (octets : Bytes) :
    decode z (inlet.arrive octets) = .ok (some payload) (after.arrive octets).decrypt := by
  obtain ⟨frame, found, opened⟩ := decode_eq_some h
  rw [decode_of_takeFrame (takeFrame_decrypt_arrive counted found octets)]
  rw [unframe_congr Inlet.compression_decrypt, Inlet.codec_arrive, opened]

/-- **A fault that arises now arises if more arrives first.** -/
theorem decode_arrive_error (counted : inlet.Counted)
    (h : decode z inlet = .error fault after) (octets : Bytes) :
    decode z (inlet.arrive octets) = .error fault (after.arrive octets).decrypt := by
  rcases decode_eq_error h with ⟨failed, rfl⟩ | ⟨frame, found, failed⟩
  · -- A length that is too long is so whatever arrives behind it.
    obtain ⟨more, longer⟩ := Inlet.buffer_decrypt_arrive counted octets
    rw [Inlet.decrypt_arrive counted octets]
    apply decode_of_takeFrame_error
    rw [Inlet.takeFrame_eq_error] at failed ⊢
    rw [longer]
    exact Frame.split?_append_error more failed
  · rw [decode_of_takeFrame (takeFrame_decrypt_arrive counted found octets),
      unframe_congr Inlet.compression_decrypt, Inlet.codec_arrive, failed]

end GameTransport.Codec
