import GameTransport.Proofs.Inlets

/-! # Decoding does not depend on how the octets arrive

While its layers stay as they are, a codec is a function of the octets alone: decrypt them once,
from the first on, split what comes out into frames, and open each frame (`specified`).  Whatever
chunks the octets arrive in, decoding after each of them gives the payloads of `specified` and stops
at its fault (`receiveAll_eq_specified`).

`Reached` is every state that arrivals and calls of `decode` can bring about, in any order and also
after faults.  In each of them the octets that went through the cipher are those that were taken off
the buffer and those that are counted, each once and in the order of arrival (`DecryptedOnce`).
-/

namespace GameTransport

/-- The frames at the front of some octets, one after another, and the fault of the length at which
there is no next one. -/
def Frame.splitAll (octets : Bytes) : List Bytes × Option Fault :=
  match _split : Frame.split? octets with
  | .error fault => ([], some fault)
  | .ok none => ([], none)
  | .ok (some (frame, rest)) => (frame :: (splitAll rest).1, (splitAll rest).2)
termination_by octets.length
decreasing_by all_goals exact Frame.length_lt_of_split? _split

namespace Frame

variable {octets frame rest : Bytes} {fault : Fault}

theorem splitAll_of_some (h : split? octets = .ok (some (frame, rest))) :
    splitAll octets = (frame :: (splitAll rest).1, (splitAll rest).2) := by
  rw [splitAll]
  split
  · rename_i other; rw [h] at other; cases other
  · rename_i other; rw [h] at other; cases other
  · rename_i other; rw [h] at other; cases other; rfl

theorem splitAll_of_none (h : split? octets = .ok none) : splitAll octets = ([], none) := by
  rw [splitAll]
  split
  · rename_i other; rw [h] at other; cases other
  · rfl
  · rename_i other; rw [h] at other; cases other

theorem splitAll_of_error (h : split? octets = .error fault) :
    splitAll octets = ([], some fault) := by
  rw [splitAll]
  split
  · rename_i other; rw [h] at other; cases other; rfl
  · rename_i other; rw [h] at other; cases other
  · rename_i other; rw [h] at other; cases other

end Frame

namespace Codec

variable (z : Zlib.Library)

/-- Chunks arrive.  After each of them payloads are decoded until no frame is complete; after a
fault nothing is decoded any more. -/
def receiveAll : List Bytes → Inlet → Drained
  | [], inlet => ⟨[], none, inlet⟩
  | chunk :: rest, inlet =>
    let drained := drain z (inlet.arrive chunk)
    match drained.fault with
    | some _ => drained
    | none =>
      let later := receiveAll rest drained.inlet
      { later with payloads := drained.payloads ++ later.payloads }

/-! ## The specification -/

/-- What octets say once they are decrypted. -/
def plaintext (cipher : Option Duplex) (octets : Bytes) : Bytes :=
  match cipher with
  | none => octets
  | some cipher => (cipher.decrypt octets).1

/-- Opens frames one after another, up to the first that cannot be opened.  `last` is the fault of
what stands after them. -/
def openAll (codec : Codec) (last : Option Fault) : List Bytes → List Bytes × Option Fault
  | [] => ([], last)
  | frame :: rest =>
    match codec.unframe z frame with
    | .error fault => ([], some fault)
    | .ok payload => (payload :: (openAll codec last rest).1, (openAll codec last rest).2)

/-- The payloads in some octets and the fault at which they end: decrypt once, split, open. -/
def specified (codec : Codec) (octets : Bytes) : List Bytes × Option Fault :=
  let (frames, last) := Frame.splitAll (plaintext codec.cipher octets)
  openAll z codec last frames

/-! ## States that can come about -/

/-- What arrivals and calls of `decode` make of a codec that nothing has arrived for, in any order.
`arrived` is all that has arrived. -/
inductive Reached (codec : Codec) : (arrived : Bytes) → Inlet → Prop
  | start : Reached codec [] ⟨codec, []⟩
  | arrive {arrived : Bytes} {inlet : Inlet} (before : Reached codec arrived inlet)
      (octets : Bytes) : Reached codec (arrived ++ octets) (inlet.arrive octets)
  | decoded {arrived : Bytes} {inlet after : Inlet} {payload? : Option Bytes}
      (before : Reached codec arrived inlet) (call : decode z inlet = .ok payload? after) :
      Reached codec arrived after
  | failed {arrived : Bytes} {inlet after : Inlet} {fault : Fault}
      (before : Reached codec arrived inlet) (call : decode z inlet = .error fault after) :
      Reached codec arrived after

/-- How many octets have been taken off the buffer. -/
def taken (arrived : Bytes) (inlet : Inlet) : Nat := arrived.length - inlet.buffer.length

/-- How many octets have been decrypted: those that were taken and those that are counted. -/
def seen (arrived : Bytes) (inlet : Inlet) : Nat := taken arrived inlet + inlet.codec.decrypted

/-- **Every octet is decrypted once and in order.**  The cipher stands where it stands after the
first `seen` octets; the buffer holds what these say, less what was taken, and then the others as
they arrived. -/
structure DecryptedOnce (codec : Codec) (arrived : Bytes) (inlet : Inlet) : Prop where
  counted : inlet.codec.decrypted ≤ inlet.buffer.length
  arrived_le : inlet.buffer.length ≤ arrived.length
  compression_eq : inlet.codec.compression = codec.compression
  cipher_eq : inlet.codec.cipher =
    codec.cipher.map fun cipher => (cipher.decrypt (arrived.take (seen arrived inlet))).2
  buffer_eq : inlet.buffer =
    (plaintext codec.cipher (arrived.take (seen arrived inlet))).drop (taken arrived inlet) ++
      arrived.drop (seen arrived inlet)
  plain : codec.cipher = none → inlet.codec.decrypted = 0

variable {z} {codec : Codec} {inlet after : Inlet} {payload octets : Bytes} {fault : Fault}

/-! ## Draining -/

theorem drain_of_some (h : decode z inlet = .ok (some payload) after) :
    drain z inlet = { drain z after with payloads := payload :: (drain z after).payloads } := by
  rw [drain]
  split
  · rename_i other; rw [h] at other; cases other
  · rename_i other; rw [h] at other; cases other
  · rename_i other
    rw [h] at other
    cases other
    rfl

theorem drain_of_none (h : decode z inlet = .ok none after) :
    drain z inlet = ⟨[], none, after⟩ := by
  rw [drain]
  split
  · rename_i other; rw [h] at other; cases other
  · rename_i other; rw [h] at other; cases other; rfl
  · rename_i other; rw [h] at other; cases other

theorem drain_of_error (h : decode z inlet = .error fault after) :
    drain z inlet = ⟨[], some fault, after⟩ := by
  rw [drain]
  split
  · rename_i other; rw [h] at other; cases other; rfl
  · rename_i other; rw [h] at other; cases other
  · rename_i other; rw [h] at other; cases other

/-- Draining sees an inlet in its normal form only. -/
theorem drain_congr {other : Inlet} (h : inlet.decrypt = other.decrypt) :
    drain z inlet = drain z other := by
  have same : decode z inlet = decode z other := decode_congr h
  rcases hd : decode z other with ⟨_ | payload, after⟩ | ⟨fault, after⟩
  · rw [drain_of_none hd, drain_of_none (same.trans hd)]
  · rw [drain_of_some hd, drain_of_some (same.trans hd)]
  · rw [drain_of_error hd, drain_of_error (same.trans hd)]

theorem Inlet.Counted.drain (counted : inlet.Counted) : (drain z inlet).inlet.Counted := by
  fun_induction Codec.drain z inlet with
  | case1 inlet fault after failed => exact counted.decode_error failed
  | case2 inlet after idle => exact counted.decode_none idle
  | case3 inlet payload after decoded later ih => exact ih (counted.decode_some decoded)

/-- A fault at which draining stops is not put off by what arrives. -/
theorem drain_arrive_of_fault (counted : inlet.Counted) (octets : Bytes)
    (stops : (drain z inlet).fault = some fault) :
    (drain z (inlet.arrive octets)).payloads = (drain z inlet).payloads ∧
      (drain z (inlet.arrive octets)).fault = some fault := by
  fun_induction drain z inlet with
  | case1 inlet fault after failed =>
    rw [drain_of_error (decode_arrive_error counted failed octets)]
    exact ⟨rfl, stops⟩
  | case2 inlet after idle => cases stops
  | case3 inlet payload after decoded later ih =>
    have counted' := counted.decode_some decoded
    obtain ⟨payloads, stopped⟩ := ih counted' stops
    rw [drain_of_some (decode_arrive_some counted decoded octets),
      drain_congr (Inlet.decrypt_decrypt (counted'.arrive octets))]
    exact ⟨congrArg (payload :: ·) payloads, stopped⟩

/-- **Draining before and after an arrival is draining after it.** -/
theorem drain_arrive (counted : inlet.Counted) (octets : Bytes)
    (goesOn : (drain z inlet).fault = none) :
    drain z (inlet.arrive octets) =
      { drain z ((drain z inlet).inlet.arrive octets) with
        payloads := (drain z inlet).payloads ++
          (drain z ((drain z inlet).inlet.arrive octets)).payloads } := by
  fun_induction drain z inlet with
  | case1 inlet fault after failed => cases goesOn
  | case2 inlet after idle =>
    rw [decode_eq_none idle]
    exact drain_congr (Inlet.decrypt_arrive counted octets).symm
  | case3 inlet payload after decoded later ih =>
    have counted' := counted.decode_some decoded
    rw [drain_of_some (decode_arrive_some counted decoded octets),
      drain_congr (Inlet.decrypt_decrypt (counted'.arrive octets)), ih counted' goesOn]
    rfl

/-- Once drained, an inlet has nothing more to give until more arrives. -/
theorem decode_drained (counted : inlet.Counted) (goesOn : (drain z inlet).fault = none) :
    ∃ after, decode z (drain z inlet).inlet = .ok none after := by
  fun_induction drain z inlet with
  | case1 inlet fault after failed => cases goesOn
  | case2 inlet after idle =>
    refine ⟨after, ?_⟩
    rw [← idle, decode_eq_none idle]
    exact decode_congr (Inlet.decrypt_decrypt counted)
  | case3 inlet payload after decoded later ih => exact ih (counted.decode_some decoded) goesOn

/-- **Decoding after each chunk is decoding after the last**, for an inlet that has nothing to give
when the first arrives. -/
theorem receiveAll_eq_drain (chunks : List Bytes) (counted : inlet.Counted)
    (idle : decode z inlet = .ok none after) :
    (receiveAll z chunks inlet).payloads = (drain z (inlet.arrive chunks.flatten)).payloads ∧
      (receiveAll z chunks inlet).fault = (drain z (inlet.arrive chunks.flatten)).fault := by
  induction chunks generalizing inlet after with
  | nil =>
    rw [List.flatten_nil, Inlet.arrive_nil, drain_of_none idle]
    exact ⟨rfl, rfl⟩
  | cons chunk rest ih =>
    have counted' := counted.arrive chunk
    rw [List.flatten_cons, ← Inlet.arrive_arrive, receiveAll]
    cases stops : (drain z (inlet.arrive chunk)).fault with
    | some fault =>
      obtain ⟨payloads, stopped⟩ := drain_arrive_of_fault counted' rest.flatten stops
      simp only [stops]
      exact ⟨payloads.symm, stopped.symm⟩
    | none =>
      obtain ⟨after', idle'⟩ := decode_drained counted' stops
      obtain ⟨payloads, stopped⟩ := ih counted'.drain idle'
      rw [drain_arrive counted' _ stops]
      exact ⟨congrArg (_ ++ ·) payloads, stopped⟩

/-! ## Draining meets the specification -/

theorem openAll_congr {other : Codec} (h : codec.compression = other.compression)
    (last : Option Fault) (frames : List Bytes) :
    openAll z codec last frames = openAll z other last frames := by
  induction frames with
  | nil => rfl
  | cons frame rest ih =>
    rw [openAll, openAll, unframe_congr h, ih]

/-- **Draining gives what the plain octets say**: their frames, opened one after another. -/
theorem drain_eq_openAll (counted : inlet.Counted) :
    ((drain z inlet).payloads, (drain z inlet).fault) =
      openAll z inlet.codec (Frame.splitAll inlet.decrypt.buffer).2
        (Frame.splitAll inlet.decrypt.buffer).1 := by
  fun_induction drain z inlet with
  | case1 inlet fault after failed =>
    rcases decode_eq_error failed with ⟨failed, _⟩ | ⟨frame, found, failed⟩
    · rw [Frame.splitAll_of_error (Inlet.takeFrame_eq_error.mp failed)]
      rfl
    · rw [Frame.splitAll_of_some (Inlet.takeFrame_eq_some found).1, openAll,
        ← unframe_congr (compression_of_takeFrame found), failed]
  | case2 inlet after idle =>
    rw [Frame.splitAll_of_none (split?_of_decode_none idle)]
    rfl
  | case3 inlet payload after decoded later ih =>
    obtain ⟨frame, found, opened⟩ := decode_eq_some decoded
    rw [Frame.splitAll_of_some (Inlet.takeFrame_eq_some found).1, openAll,
      ← unframe_congr (compression_of_takeFrame found), opened]
    have rest := ih (counted.decode_some decoded)
    rw [decrypt_of_takeFrame counted found, openAll_congr (compression_of_takeFrame found)] at rest
    exact congrArg (fun r : List Bytes × Option Fault => (payload :: r.1, r.2)) rest

/-- Where nothing has been decrypted yet, the normal form holds what the octets say. -/
theorem buffer_decrypt_fresh (fresh : inlet.codec.decrypted = 0) :
    inlet.decrypt.buffer = plaintext inlet.codec.cipher inlet.buffer := by
  cases h : inlet.codec.cipher with
  | none => rw [Inlet.decrypt_of_none h]; rfl
  | some cipher =>
    have counted : inlet.Counted := by
      unfold Inlet.Counted
      omega
    rw [Inlet.decrypt_of_some counted h, fresh]
    rfl

/-! ## Every octet is decrypted once -/

/-- What is left of a buffer is what stands after some octets. -/
theorem buffer_of_takeFrame {frame : Bytes} (h : inlet.takeFrame = .ok (some (frame, after))) :
    ∃ count ≤ inlet.buffer.length, after.buffer = inlet.buffer.drop count ∧
      after.codec = { inlet.codec with decrypted := inlet.codec.decrypted - count } := by
  obtain ⟨found, codec_eq⟩ := Inlet.takeFrame_eq_some h
  obtain ⟨length, size, _, complete, _, rest⟩ := Frame.split?_eq_some found
  rw [List.drop_drop] at rest
  refine ⟨size + length, complete, rest, ?_⟩
  have gone : inlet.buffer.length - after.buffer.length = size + length := by
    rw [rest, List.length_drop]
    omega
  rw [codec_eq, gone]

variable {arrived : Bytes}

namespace DecryptedOnce

theorem seen_le (h : DecryptedOnce codec arrived inlet) : seen arrived inlet ≤ arrived.length := by
  have := h.counted
  have := h.arrived_le
  unfold seen taken
  omega

theorem arrive (h : DecryptedOnce codec arrived inlet) (octets : Bytes) :
    DecryptedOnce codec (arrived ++ octets) (inlet.arrive octets) := by
  have bound := h.arrived_le
  have sameTaken : taken (arrived ++ octets) (inlet.arrive octets) = taken arrived inlet := by
    unfold taken
    rw [Inlet.buffer_arrive, List.length_append, List.length_append]
    omega
  have sameSeen : seen (arrived ++ octets) (inlet.arrive octets) = seen arrived inlet := by
    unfold seen
    rw [sameTaken, Inlet.codec_arrive]
  refine ⟨Inlet.Counted.arrive h.counted octets, ?_, h.compression_eq, ?_, ?_, h.plain⟩
  · rw [Inlet.buffer_arrive, List.length_append, List.length_append]
    omega
  · rw [sameSeen, List.take_append_of_le_length h.seen_le]
    exact h.cipher_eq
  · rw [sameSeen, sameTaken, List.take_append_of_le_length h.seen_le,
      List.drop_append_of_le_length h.seen_le, ← List.append_assoc, ← h.buffer_eq]
    rfl

/-- Without a cipher, the buffer is the end of what arrived. -/
theorem buffer_plain (h : DecryptedOnce codec arrived inlet) (hc : codec.cipher = none) :
    inlet.buffer = arrived.drop (taken arrived inlet) := by
  have same : seen arrived inlet = taken arrived inlet := by
    unfold seen
    rw [h.plain hc, Nat.add_zero]
  have buffer := h.buffer_eq
  rw [hc, same] at buffer
  rw [buffer, plaintext]
  simp

/-- With a cipher, the octets that are counted come first and the others are as they arrived. -/
theorem buffer_split {cipher : Duplex} (h : DecryptedOnce codec arrived inlet)
    (hc : codec.cipher = some cipher) :
    inlet.buffer.take inlet.codec.decrypted =
        (cipher.decrypt (arrived.take (seen arrived inlet))).1.drop (taken arrived inlet) ∧
      inlet.buffer.drop inlet.codec.decrypted = arrived.drop (seen arrived inlet) := by
  have buffer := h.buffer_eq
  rw [hc] at buffer
  have size : ((cipher.decrypt (arrived.take (seen arrived inlet))).1.drop
      (taken arrived inlet)).length = inlet.codec.decrypted := by
    rw [List.length_drop, Duplex.length_decrypt, List.length_take, Nat.min_eq_left h.seen_le]
    unfold seen
    omega
  constructor
  · rw [buffer, plaintext, List.take_left' size]
  · rw [buffer, plaintext, List.drop_left' size]

theorem decrypt (h : DecryptedOnce codec arrived inlet) :
    DecryptedOnce codec arrived inlet.decrypt := by
  cases hc : codec.cipher with
  | none =>
    have off : inlet.codec.cipher = none := by rw [h.cipher_eq, hc]; rfl
    rw [Inlet.decrypt_of_none off]
    exact h
  | some cipher =>
    have on : inlet.codec.cipher =
        some (cipher.decrypt (arrived.take (seen arrived inlet))).2 := by
      rw [h.cipher_eq, hc]; rfl
    obtain ⟨front, back⟩ := h.buffer_split hc
    -- The stream has come to the first octet that was not seen, and goes on with it.
    have settled := Inlet.decrypt_of_some h.counted on
    rw [front, back] at settled
    have whole := Duplex.decrypt_append cipher (arrived.take (seen arrived inlet))
      (arrived.drop (seen arrived inlet))
    rw [List.take_append_drop] at whole
    have sameTaken : taken arrived inlet.decrypt = taken arrived inlet := by
      unfold taken
      rw [Inlet.length_decrypt]
    have all : seen arrived inlet.decrypt = arrived.length := by
      have := h.arrived_le
      unfold seen
      rw [sameTaken, settled]
      unfold taken
      dsimp only
      omega
    have room : taken arrived inlet ≤
        (cipher.decrypt (arrived.take (seen arrived inlet))).1.length := by
      rw [Duplex.length_decrypt, List.length_take, Nat.min_eq_left h.seen_le]
      exact Nat.le_add_right _ _
    refine ⟨Inlet.Counted.decrypt h.counted, ?_, ?_, ?_, ?_, ?_⟩
    · rw [Inlet.length_decrypt]; exact h.arrived_le
    · rw [Inlet.compression_decrypt]; exact h.compression_eq
    · rw [all, List.take_length, hc, settled, Option.map_some, whole]
    · rw [all, List.take_length, List.drop_length, hc, sameTaken, settled, plaintext, whole,
        List.append_nil, List.drop_append_of_le_length room]
    · intro none'; rw [hc] at none'; cases none'

/-- Taking a frame off an inlet in normal form. -/
theorem takeFrame (h : DecryptedOnce codec arrived inlet) (settled : inlet.decrypt = inlet)
    {frame : Bytes} (found : inlet.takeFrame = .ok (some (frame, after))) :
    DecryptedOnce codec arrived after := by
  obtain ⟨count, count_le, buffer, codec_eq⟩ := buffer_of_takeFrame found
  have bound := h.arrived_le
  have size : after.buffer.length = inlet.buffer.length - count := by
    rw [buffer, List.length_drop]
  have more : taken arrived after = taken arrived inlet + count := by
    unfold taken
    omega
  have layers : after.codec.cipher = inlet.codec.cipher := by rw [codec_eq]
  have left : after.codec.decrypted = inlet.codec.decrypted - count := by rw [codec_eq]
  -- With a cipher all of the buffer is decrypted, so what is taken was seen before.
  have same {cipher : Duplex} (hc : codec.cipher = some cipher) :
      seen arrived after = seen arrived inlet ∧ seen arrived inlet = arrived.length := by
    have on : inlet.codec.cipher =
        some (cipher.decrypt (arrived.take (seen arrived inlet))).2 := by
      rw [h.cipher_eq, hc]; rfl
    have all := Inlet.decrypted_of_settled h.counted settled on
    unfold seen
    rw [left, more, all]
    unfold taken
    omega
  have plain : codec.cipher = none → after.codec.decrypted = 0 := by
    intro off
    rw [left, h.plain off, Nat.zero_sub]
  refine ⟨Inlet.Counted.takeFrame h.counted found, by omega, by rw [codec_eq]; exact h.compression_eq,
    ?_, ?_, plain⟩
  · cases hc : codec.cipher with
    | none => rw [layers, h.cipher_eq, hc]; rfl
    | some cipher => rw [layers, h.cipher_eq, hc, (same hc).1]
  · cases hc : codec.cipher with
    | none =>
      have sameSeen : seen arrived after = taken arrived after := by
        unfold seen
        rw [plain hc, Nat.add_zero]
      rw [sameSeen, plaintext, buffer, h.buffer_plain hc, List.drop_drop, more]
      simp
    | some cipher =>
      obtain ⟨before, whole⟩ := same hc
      have buffer' := h.buffer_eq
      rw [hc, whole, List.take_length, List.drop_length, List.append_nil] at buffer'
      rw [before, whole, List.take_length, List.drop_length, List.append_nil, more, buffer, buffer',
        List.drop_drop]

end DecryptedOnce

/-- **What can come about**: every octet has been decrypted once, whatever calls were made. -/
theorem Reached.decryptedOnce (h : Reached z codec arrived inlet) (fresh : codec.decrypted = 0) :
    DecryptedOnce codec arrived inlet := by
  induction h with
  | start =>
    refine ⟨by rw [fresh]; exact Nat.le_refl _, Nat.le_refl _, rfl, ?_, ?_, fun _ => fresh⟩
    · cases codec.cipher <;> simp
    · cases codec.cipher <;> simp [plaintext]
  | arrive before octets ih => exact ih.arrive octets
  | @decoded arrived inlet after payload? before call ih =>
    have settled := Inlet.decrypt_decrypt ih.counted
    cases payload? with
    | none =>
      rw [decode_eq_none call]
      exact ih.decrypt
    | some payload =>
      obtain ⟨frame, found, _⟩ := decode_eq_some call
      exact ih.decrypt.takeFrame settled found
  | failed before call ih =>
    rcases decode_eq_error call with ⟨_, rfl⟩ | ⟨frame, found, _⟩
    · exact ih.decrypt
    · exact ih.decrypt.takeFrame (Inlet.decrypt_decrypt ih.counted) found

theorem Reached.drain (h : Reached z codec arrived inlet) :
    Reached z codec arrived (drain z inlet).inlet := by
  fun_induction Codec.drain z inlet with
  | case1 inlet fault after failed => exact h.failed failed
  | case2 inlet after idle => exact h.decoded idle
  | case3 inlet payload after decoded later ih => exact ih (h.decoded decoded)

/-- Receiving chunks is a course of arrivals and calls. -/
theorem Reached.receiveAll (h : Reached z codec arrived inlet) (chunks : List Bytes) :
    ∃ received, received <+: arrived ++ chunks.flatten ∧
      Reached z codec received (receiveAll z chunks inlet).inlet := by
  induction chunks generalizing arrived inlet with
  | nil => exact ⟨arrived, List.prefix_append _ _, h⟩
  | cons chunk rest ih =>
    have drained := (h.arrive chunk).drain
    rw [List.flatten_cons, ← List.append_assoc, Codec.receiveAll]
    cases stops : (Codec.drain z (inlet.arrive chunk)).fault with
    | some fault =>
      exact ⟨arrived ++ chunk, List.prefix_append _ _, drained⟩
    | none => exact ih drained

/-! ## The codec against the specification -/

/-- **Decoding does not depend on how the octets arrive.**  Of a codec whose layers stay as they
are, chunks give the payloads and the fault of the specification, hence those of all octets at once;
and in every state that comes about on the way, and in every other that arrivals and calls can
bring about, each octet that was seen has been decrypted once. -/
theorem receiveAll_eq_specified (compression : Option Compression) (cipher : Option Duplex)
    (chunks : List Bytes) :
    let codec : Codec := { compression, cipher }
    let received := receiveAll z chunks ⟨codec, []⟩
    let atOnce := receiveAll z [chunks.flatten] ⟨codec, []⟩
    (received.payloads, received.fault) = specified z codec chunks.flatten ∧
      (atOnce.payloads, atOnce.fault) = specified z codec chunks.flatten ∧
      (∃ arrived, arrived <+: chunks.flatten ∧ Reached z codec arrived received.inlet) ∧
      ∀ arrived inlet, Reached z codec arrived inlet → DecryptedOnce codec arrived inlet := by
  intro codec received atOnce
  have counted : (Inlet.mk codec []).Counted := Nat.le_refl 0
  have idle : decode z ⟨codec, []⟩ = .ok none ⟨codec, []⟩ := decode_of_empty rfl
  have meets (chunks : List Bytes) :
      ((receiveAll z chunks ⟨codec, []⟩).payloads, (receiveAll z chunks ⟨codec, []⟩).fault) =
        specified z codec chunks.flatten := by
    obtain ⟨payloads, fault⟩ := receiveAll_eq_drain chunks counted idle
    rw [payloads, fault, drain_eq_openAll (counted.arrive _), buffer_decrypt_fresh rfl]
    rfl
  refine ⟨meets chunks, ?_, ?_, fun arrived inlet h => h.decryptedOnce rfl⟩
  · have := meets [chunks.flatten]
    rwa [List.flatten_singleton] at this
  · simpa using Reached.start.receiveAll chunks

end Codec

end GameTransport
