import GameTransport.Proofs.Envelopes
import GameTransport.Proofs.PortCalls

/-! # An encoding that fails leaves no trace

A payload may turn out too long at once, or only when its envelope is complete: then a compressor has
run and both buffers have been written to.  Yet nothing of that shows.  The outgoing buffer is not
touched before all is done, the compressor has been reset, and the buffers are filled anew by the next
payload.  So the port is the same up to its buffers (`cleared_of_encode_error`), and that is all that
later calls depend on.  `accepted` leaves out of a list of calls those encodings that fail.
-/

namespace GameTransport.Port

/-- An encoding has failed. -/
def Reply.isRefusal (reply : Reply) : Bool :=
  match reply.outcome with
  | .encoded (.error _) => true
  | .encoded (.ok ()) | .decoded _ | .done => false

variable {engine : Zlib.Engine} {port after : Port engine} {payload : Bytes} {fault : Fault}

/-- The calls without the encodings that fail. -/
def accepted : List Call → Port engine → List Call
  | [], _ => []
  | call :: rest, port =>
    let kept := accepted rest (port.step call).2
    if (port.step call).1.isRefusal then kept else call :: kept

/-! ### What fails changes nothing -/

theorem codec_of_encode_error (refused : encode payload port = .error fault after) :
    after = { port with codec := stateOf (BufferedCodec.frame payload port.codec) } := by
  rw [encode] at refused
  rcases framed : BufferedCodec.frame payload port.codec with ⟨⟨⟩, codec⟩ | ⟨fault', codec⟩ <;>
    rw [framed] at refused <;> cases refused
  rfl

/-- **An encoding that fails leaves the port as it was, up to its buffers.** -/
theorem cleared_of_encode_error (resets : engine.ResetsDeflater) (rests : port.codec.AtRest)
    (refused : encode payload port = .error fault after) : after.cleared = port.cleared := by
  rw [codec_of_encode_error refused]
  exact congrArg (Port.mk · port.inbox port.outbox)
    (BufferedCodec.cleared_stateOf_frame resets rests payload)

/-! ### Leaving out what fails -/

/-- A call whose reply is a refusal leaves the port as it was, up to its buffers. -/
theorem cleared_step_of_isRefusal (resets : engine.ResetsDeflater) (rests : port.codec.AtRest)
    {call : Call} (refused : (port.step call).1.isRefusal) :
    (port.step call).2.cleared = port.cleared := by
  cases call with
  | encode payload =>
    rcases encoded : encode payload port with ⟨⟨⟩, after⟩ | ⟨fault, after⟩
    · simp [step, act, encoded, told, Reply.isRefusal] at refused
    · have same := cleared_of_encode_error resets rests encoded
      simpa [step, act, encoded, told] using same
  | decode => cases refused
  | enableCompression threshold level => cases refused
  | enableEncryption secret => cases refused
  | handle change => cases refused

theorem run_accepted (resets : engine.ResetsDeflater) (rests : port.codec.AtRest)
    (calls : List Call) :
    (port.run (port.accepted calls)).1 = (port.run calls).1.filter (!·.isRefusal) ∧
      (port.run (port.accepted calls)).2.cleared = (port.run calls).2.cleared := by
  induction calls generalizing port with
  | nil => exact ⟨rfl, rfl⟩
  | cons call rest ih =>
    obtain ⟨replies, last⟩ := ih (atRest_step resets rests call)
    by_cases refused : (port.step call).1.isRefusal
    · -- Without the call, the others find the port that they would have found, up to its buffers.
      obtain ⟨replies', last'⟩ := run_congr (cleared_step_of_isRefusal resets rests refused)
        ((port.step call).2.accepted rest)
      have kept : port.accepted (call :: rest) = (port.step call).2.accepted rest := if_pos refused
      rw [kept]
      refine ⟨?_, last'.symm.trans last⟩
      rw [← replies', replies]
      exact (List.filter_cons_of_neg (by simpa using refused)).symm
    · have kept : port.accepted (call :: rest) = call :: (port.step call).2.accepted rest :=
        if_neg refused
      rw [kept]
      refine ⟨?_, last⟩
      change (port.step call).1 :: ((port.step call).2.run _).1 =
        ((port.step call).1 :: ((port.step call).2.run rest).1).filter _
      rw [replies, List.filter_cons_of_pos (by simpa using refused)]

/-- **An encoding that fails leaves no trace.**  At whatever point of a run: the outgoing buffer is
as it was, and every later call is answered as if the encoding had never been tried.  So the
encodings that fail can be left out of any calls without a change to the replies to the others, or to
what the buffers hold in the end. -/
theorem failed_encode_leaves_no_trace (resets : engine.ResetsDeflater) (earlier : List Call)
    (inbox outbox : Bytes) :
    let port : Port engine := { codec := (({} : Port engine).run earlier).2.codec, inbox, outbox }
    (∀ payload fault after, encode payload port = .error fault after →
      after.outbox = outbox ∧ after.inbox = inbox ∧
        ∀ later, (after.run later).1 = (port.run later).1) ∧
    ∀ calls,
      (port.run (port.accepted calls)).1 = (port.run calls).1.filter (!·.isRefusal) ∧
      (port.run (port.accepted calls)).2.inbox = (port.run calls).2.inbox ∧
      (port.run (port.accepted calls)).2.outbox = (port.run calls).2.outbox := by
  intro port
  have new : ({} : Port engine).codec.AtRest := nofun
  have rests : port.codec.AtRest := atRest_run resets new earlier
  constructor
  · intro payload fault after refused
    have same := cleared_of_encode_error resets rests refused
    obtain ⟨inbox_eq, outbox_eq⟩ := buffers_of_cleared_eq same
    exact ⟨outbox_eq, inbox_eq, fun later => (run_congr same later).1⟩
  · intro calls
    obtain ⟨replies, last⟩ := run_accepted resets rests calls
    exact ⟨replies, buffers_of_cleared_eq last⟩

/-- A payload that may just be wrapped does not fit into a frame if its stream is not shorter. -/
theorem exists_encode_eq_error {level : Nat} {codec : BufferedCodec (.ofLibrary .stored)}
    (packs : codec.packer = some (.new 0 level)) (long : payload.length = Compression.maxUncompressed)
    (inbox outbox : Bytes) :
    ∃ fault after, encode payload { codec, inbox, outbox } = .error fault after := by
  obtain ⟨packer, sealer, decrypted, envelope, scratch⟩ := codec
  obtain rfl : packer = _ := packs
  let packer : Packer (.ofLibrary .stored) := .new 0 level
  have fits : ¬ Compression.maxUncompressed < payload.length := by omega
  have compressed : ¬ payload.length < packer.threshold := Nat.not_lt_zero _
  let stream := Zlib.Library.stored.deflate (min level Compression.maxLevel) payload
  have wrapped : Packer.wrap payload (packer, []) =
      .ok () (packer, Varint.encode payload.length ++ stream) := by
    rw [Packer.wrap]
    dsimp only
    rw [if_neg fits, if_neg compressed]
    rfl
  have tooLong : Frame.maxPayload < (Varint.encode payload.length ++ stream).length := by
    have whole : payload.length ≤ stream.length := by
      simp only [stream, Zlib.Library.stored, Zlib.Library.stored.store, List.length_append]
      omega
    rw [List.length_append]
    unfold Compression.maxUncompressed at long
    unfold Frame.maxPayload
    omega
  let envelope' := Varint.encode payload.length ++ stream
  refine ⟨.sizeExceeded "frame" envelope'.length Frame.maxPayload,
    ⟨⟨some packer, sealer, decrypted, envelope', []⟩, inbox, outbox⟩, ?_⟩
  simp only [encode, BufferedCodec.frame, BufferedCodec.wrap]
  rw [wrapped]
  simp only [Frame.encode, if_pos tooLong, envelope']

/-- A payload that is compressed and encrypted, and too long for a frame once it is. -/
theorem failed_encode_leaves_no_trace_long :
    let engine : Zlib.Engine := .ofLibrary .stored
    let secret : SharedSecret := ⟨List.replicate 16 1, rfl⟩
    let earlier : List Call := [.enableCompression 0 6, .enableEncryption secret, .encode [0]]
    let port : Port engine :=
      { codec := (({} : Port engine).run earlier).2.codec, inbox := [], outbox := [7] }
    engine.ResetsDeflater ∧ ∃ payload fault after, encode payload port = .error fault after ∧
      after.outbox = [7] ∧ ∀ later, (after.run later).1 = (port.run later).1 := by
  intro engine secret earlier port
  have resets : engine.ResetsDeflater := Zlib.Engine.resetsDeflater_ofLibrary .stored
  have packs : port.codec.packer = some (.new 0 6) := by
    let switched : Port engine := (({} : Port engine).run (earlier.take 2)).2
    have rests : switched.codec.AtRest := by
      rintro packer ⟨⟩
      exact Packer.atRest_new 0 6
    change (told (encode [0] switched)).2.codec.packer = _
    rw [snd_told, packer_encode resets rests]
    rfl
  obtain ⟨fault, after, refused⟩ := @exists_encode_eq_error
    (List.replicate Compression.maxUncompressed 0) 6 port.codec packs List.length_replicate [] [7]
  obtain ⟨outbox, -, later⟩ :=
    (failed_encode_leaves_no_trace resets earlier [] [7]).1 _ fault after refused
  exact ⟨resets, _, fault, after, refused, outbox, later⟩

end GameTransport.Port
