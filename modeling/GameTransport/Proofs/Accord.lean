import GameTransport.Proofs.Keeping

/-! # Directions in accord

The octets of a direction are the frames of its payloads, encrypted from the cut on (`Plan.wire`).
So what a receiver holds, once all octets on the way have reached it, is what the payloads that it
has not decoded come to (`Holds`).  A direction is in `Accord` as long as that is so, and it stays in
accord when the sender sends or switches and when the receiver decodes or switches.

A receiver that is to decode a payload is under the layers which the payload was encoded under
(`lt_of_pending`).  The sender has passed every switch up to that payload, so the receiver has sent
all it was to send before, and has switched too unless the switch is due.
-/

namespace GameTransport.Codec

namespace Plan

/-- The octets of frames from a number on: up to the cut they travel as they are. -/
def wire (plan : Plan) (side : Side) (number : Nat) (frames : List Bytes) : Bytes :=
  match cutOf plan.switches with
  | none => frames.flatten
  | some cut =>
    (frames.take (cut.sent side - number)).flatten ++
      (cut.stream.encrypt (frames.drop (cut.sent side - number)).flatten).1

/-- The stream of a direction after frames, if encryption is on. -/
def StreamAfter (plan : Plan) (side : Side) (frames : List Bytes) (stream : Cfb8) : Prop :=
  ∃ cut, cutOf plan.switches = some cut ∧
    stream = (cut.stream.encrypt (frames.drop (cut.sent side)).flatten).2

end Plan

/-- What the inlet is once all octets on the way have reached it and are decrypted. -/
def Inlet.settled (inlet : Inlet) (transit : Bytes) : Inlet := (inlet.arrive transit).decrypt

/-- What a receiver holds that has decoded `number` of the payloads. -/
def Holds (plan : Plan) (side : Side) (frames : List Bytes) (number : Nat) :
    Option Cfb8 → Bytes → Prop
  | none, octets => octets = plan.wire side number (frames.drop number)
  | some stream, octets =>
    octets = (frames.drop number).flatten ∧ plan.StreamAfter side frames stream

/-- **A direction is in accord.**  `frames` are those of the payloads that the sender encoded. -/
structure Accord (z : Zlib.Library) (plan : Plan) (side : Side) (sender receiver : Peer)
    (transit : Bytes) (frames : List Bytes) : Prop where
  size : frames.length = sender.encoded.length
  framed : ∀ number payload frame, sender.encoded[number]? = some payload →
    frames[number]? = some frame →
      payload ≠ [] ∧ (plan.codecAt side number).frame z payload = .ok frame
  heard : receiver.decoded <+: sender.encoded
  outbound : ∀ stream, sender.inlet.codec.outbound? = some stream →
    plan.StreamAfter side frames stream
  inbound : Holds plan side frames receiver.decoded.length
    (receiver.inlet.settled transit).codec.inbound? (receiver.inlet.settled transit).buffer

variable {z : Zlib.Library} {plan : Plan} {side : Side} {peer sender receiver : Peer}
  {made : List Switch} {frames : List Bytes} {transit octets payload frame : Bytes} {number : Nat}

/-! ## Frames on the way -/

namespace Plan

@[simp] theorem wire_nil : plan.wire side number [] = [] := by
  unfold wire
  cases cutOf plan.switches <;> simp

/-- A frame before the cut travels as it is. -/
theorem wire_cons (early : ∀ cut, cutOf plan.switches = some cut → number < cut.sent side) :
    plan.wire side number (frame :: frames) = frame ++ plan.wire side (number + 1) frames := by
  unfold wire
  cases found : cutOf plan.switches with
  | none => rfl
  | some cut =>
    have := early cut found
    dsimp only
    rw [show cut.sent side - number = cut.sent side - (number + 1) + 1 by omega,
      List.take_succ_cons, List.drop_succ_cons, List.flatten_cons, List.append_assoc]

/-- One more frame before the cut travels as it is. -/
theorem wire_concat (early : ∀ cut, cutOf plan.switches = some cut →
      number + frames.length < cut.sent side) :
    plan.wire side number (frames ++ [frame]) = plan.wire side number frames ++ frame := by
  unfold wire
  cases found : cutOf plan.switches with
  | none => simp
  | some cut =>
    have := early cut found
    dsimp only
    rw [List.take_of_length_le (by simp; omega), List.drop_of_length_le (by simp; omega),
      List.take_of_length_le (by omega), List.drop_of_length_le (by omega)]
    simp

/-- At the cut and after it, frames are encrypted. -/
theorem wire_of_le {cut : Cut} (found : cutOf plan.switches = some cut)
    (late : cut.sent side ≤ number) :
    plan.wire side number frames = (cut.stream.encrypt frames.flatten).1 := by
  unfold wire
  rw [found]
  dsimp only
  rw [Nat.sub_eq_zero_of_le late]
  simp

/-- One more frame after the cut is encrypted under the stream that the others left. -/
theorem wire_concat_of_le {cut : Cut} {stream : Cfb8} (found : cutOf plan.switches = some cut)
    (ahead : number ≤ cut.sent side) (late : cut.sent side ≤ frames.length)
    (after : plan.StreamAfter side frames stream) :
    plan.wire side number (frames.drop number ++ [frame]) =
      plan.wire side number (frames.drop number) ++ (stream.encrypt frame).1 := by
  obtain ⟨other, found', rfl⟩ := after
  cases found.symm.trans found'
  have room : cut.sent side - number ≤ (frames.drop number).length := by
    rw [List.length_drop]
    omega
  unfold wire
  rw [found]
  dsimp only
  rw [List.take_append_of_le_length room, List.drop_append_of_le_length room, List.drop_drop,
    show number + (cut.sent side - number) = cut.sent side by omega, List.flatten_append,
    Cfb8.encrypt_append, List.flatten_singleton, List.append_assoc]

namespace StreamAfter

variable {stream other : Cfb8}

theorem unique (h : plan.StreamAfter side frames stream)
    (h' : plan.StreamAfter side frames other) : stream = other := by
  obtain ⟨cut, found, rfl⟩ := h
  obtain ⟨cut', found', rfl⟩ := h'
  cases found.symm.trans found'
  rfl

theorem concat (h : plan.StreamAfter side frames stream)
    (late : ∀ cut, cutOf plan.switches = some cut → cut.sent side ≤ frames.length) :
    plan.StreamAfter side (frames ++ [frame]) (stream.encrypt frame).2 := by
  obtain ⟨cut, found, rfl⟩ := h
  refine ⟨cut, found, ?_⟩
  rw [List.drop_append_of_le_length (late cut found), List.flatten_append, Cfb8.encrypt_append,
    List.flatten_singleton]

end StreamAfter

end Plan

/-! ## What a receiver holds -/

namespace Inlet

variable {inlet other : Inlet}

theorem settled_arrive (rest : Bytes) :
    (inlet.arrive octets).settled rest = inlet.settled (octets ++ rest) := by
  unfold settled
  rw [arrive_arrive]

theorem settled_decrypt (counted : inlet.Counted) :
    inlet.decrypt.settled transit = inlet.settled transit :=
  decrypt_arrive counted transit

theorem Counted.settled (counted : inlet.Counted) : (inlet.settled transit).Counted :=
  (counted.arrive transit).decrypt

/-- Decrypting sees only the stream in. -/
theorem settled_congr (counted : inlet.Counted) (buffer_eq : inlet.buffer = other.buffer)
    (decrypted_eq : inlet.codec.decrypted = other.codec.decrypted)
    (inbound_eq : inlet.codec.inbound? = other.codec.inbound?) :
    (inlet.settled transit).buffer = (other.settled transit).buffer ∧
      (inlet.settled transit).codec.inbound? = (other.settled transit).codec.inbound? := by
  have counted' : other.Counted := by
    unfold Counted at *
    rw [← buffer_eq, ← decrypted_eq]
    exact counted
  unfold inbound? at *
  unfold Inlet.settled
  cases on : inlet.codec.cipher with
  | none =>
    have off : other.codec.cipher = none := by
      rw [on] at inbound_eq
      exact Option.map_eq_none_iff.mp inbound_eq.symm
    rw [decrypt_of_none (by exact on), decrypt_of_none (by exact off)]
    constructor
    · rw [buffer_arrive, buffer_arrive, buffer_eq]
    · rw [codec_arrive, codec_arrive, on, off]
  | some cipher =>
    rw [on] at inbound_eq
    obtain ⟨cipher', on', same⟩ := Option.map_eq_some_iff.mp inbound_eq.symm
    rw [decrypt_of_some (counted.arrive transit) (by exact on),
      decrypt_of_some (counted'.arrive transit) (by exact on')]
    constructor
    · simp only [buffer_arrive, codec_arrive, buffer_eq, decrypted_eq, Duplex.decrypt, same]
    · simp only [buffer_arrive, codec_arrive, buffer_eq, decrypted_eq, Duplex.decrypt, same,
        Option.map_some]

/-- What arrives after all else adds to it what it says. -/
theorem settled_append (counted : inlet.Counted) (later : Bytes) :
    (inlet.settled (transit ++ later)) = ((inlet.settled transit).arrive later).decrypt := by
  unfold settled
  rw [decrypt_arrive (counted.arrive transit), arrive_arrive]

theorem settled_append_of_none (counted : inlet.Counted) (later : Bytes)
    (off : (inlet.settled transit).codec.inbound? = none) :
    (inlet.settled (transit ++ later)).buffer = (inlet.settled transit).buffer ++ later ∧
      (inlet.settled (transit ++ later)).codec.inbound? = none := by
  have off' : ((inlet.settled transit).arrive later).codec.cipher = none :=
    Option.map_eq_none_iff.mp off
  rw [settled_append counted later, decrypt_of_none off']
  exact ⟨rfl, off⟩

theorem settled_append_of_some (counted : inlet.Counted) (later : Bytes) {stream : Cfb8}
    (on : (inlet.settled transit).codec.inbound? = some stream) :
    (inlet.settled (transit ++ later)).buffer =
        (inlet.settled transit).buffer ++ (stream.decrypt later).1 ∧
      (inlet.settled (transit ++ later)).codec.inbound? = some (stream.decrypt later).2 := by
  obtain ⟨cipher, on', rfl⟩ := Option.map_eq_some_iff.mp on
  have all := decrypted_of_settled counted.settled (decrypt_decrypt (counted.arrive transit)) on'
  rw [settled_append counted later, decrypt_of_some (counted.settled.arrive later) (by exact on')]
  simp only [codec_arrive, buffer_arrive, all, List.take_left, List.drop_left]
  exact ⟨rfl, rfl⟩

end Inlet

/-! ## What a receiver holds after one more frame -/

namespace Holds

variable {stream : Cfb8}

theorem concat_plain (room : number ≤ frames.length)
    (early : ∀ cut, cutOf plan.switches = some cut → frames.length < cut.sent side)
    (h : Holds plan side frames number none octets) :
    Holds plan side (frames ++ [frame]) number none (octets ++ frame) := by
  unfold Holds at *
  rw [List.drop_append_of_le_length room, Plan.wire_concat, h]
  intro cut found
  have := early cut found
  rw [List.length_drop]
  omega

theorem concat_sealed {cut : Cut} (found : cutOf plan.switches = some cut)
    (ahead : number ≤ cut.sent side) (late : cut.sent side ≤ frames.length)
    (after : plan.StreamAfter side frames stream) (h : Holds plan side frames number none octets) :
    Holds plan side (frames ++ [frame]) number none (octets ++ (stream.encrypt frame).1) := by
  unfold Holds at *
  rw [List.drop_append_of_le_length (Nat.le_trans ahead late),
    Plan.wire_concat_of_le found ahead late after, h]

theorem concat_opened (room : number ≤ frames.length)
    (late : ∀ cut, cutOf plan.switches = some cut → cut.sent side ≤ frames.length)
    (h : Holds plan side frames number (some stream) octets) :
    Holds plan side (frames ++ [frame]) number (some (stream.encrypt frame).2)
      (octets ++ frame) := by
  obtain ⟨held, after⟩ := h
  refine ⟨?_, after.concat late⟩
  rw [List.drop_append_of_le_length room, List.flatten_append, List.flatten_singleton, held]

end Holds

theorem Inlet.isSome_settled (inlet : Inlet) (transit : Bytes) :
    (inlet.settled transit).codec.inbound?.isSome = inlet.codec.cipher.isSome := by
  have := Inlet.outbound?_decrypt (inlet.arrive transit)
  unfold inbound?
  rw [Option.isSome_map, ← isSome_outbound?, Inlet.settled, this, isSome_outbound?]
  rfl

/-! ## A direction stays in accord -/

/-- **A payload that a receiver may decode was encoded under its layers.**  Where no switch is due,
every switch still to be made lies behind the next payload on the way. -/
theorem lt_of_pending {passed : List Switch} (receives : Keeps plan side receiver made)
    (sends : Keeps plan side.other sender passed)
    (answered : sender.decoded.length ≤ receiver.encoded.length) (early : ¬ receiver.Due side)
    (more : receiver.decoded.length < sender.encoded.length) :
    ∀ switch ∈ receiver.pending, receiver.decoded.length < switch.sent side.other := by
  intro switch member
  obtain ⟨own, others⟩ := receives.ahead switch member
  have apart := receives.not_at_of_not_due early member
  unfold Peer.At at apart
  have whole : switch ∈ passed ++ sender.pending := by
    rw [← sends.whole, receives.whole]
    exact List.mem_append_right made member
  by_contra reached
  rcases List.mem_append.mp whole with behind | ahead
  · -- The sender has switched, so it had decoded all that the receiver sends up to the switch.
    have := (sends.behind switch behind).2
    rw [Side.other_other] at this
    omega
  · -- The sender has not switched, so it has not sent the payload.
    have := (sends.ahead switch ahead).1
    omega

namespace Accord

theorem start (z : Zlib.Library) (plan : Plan) (side : Side) :
    Accord z plan side { pending := plan.switches } { pending := plan.switches } [] [] where
  size := rfl
  framed := nofun
  heard := List.prefix_refl []
  outbound := nofun
  inbound := by simp [Inlet.settled, Inlet.arrive, Inlet.decrypt, inbound?, Holds]

theorem congr_sender {other : Peer} (accord : Accord z plan side sender receiver transit frames)
    (encoded : other.encoded = sender.encoded)
    (outbound : other.inlet.codec.outbound? = sender.inlet.codec.outbound?) :
    Accord z plan side other receiver transit frames :=
  ⟨encoded ▸ accord.size, encoded ▸ accord.framed, encoded ▸ accord.heard,
    outbound ▸ accord.outbound, accord.inbound⟩

theorem congr_receiver {other : Peer} {rest : Bytes}
    (accord : Accord z plan side sender receiver transit frames)
    (decoded : other.decoded = receiver.decoded)
    (settled : (other.inlet.settled rest).buffer = (receiver.inlet.settled transit).buffer ∧
      (other.inlet.settled rest).codec.inbound? =
        (receiver.inlet.settled transit).codec.inbound?) :
    Accord z plan side sender other rest frames := by
  refine ⟨accord.size, accord.framed, decoded ▸ accord.heard, accord.outbound, ?_⟩
  rw [decoded, settled.1, settled.2]
  exact accord.inbound

variable {passed : List Switch}

theorem length_le (accord : Accord z plan side sender receiver transit frames) :
    receiver.decoded.length ≤ sender.encoded.length := accord.heard.length_le

/-- A sender without encryption that has room has not reached the cut. -/
theorem sent_lt_cut {cut : Cut} (sends : Keeps plan side sender passed) (room : sender.HasRoom side)
    (off : sender.inlet.codec.cipher = none) (found : cutOf plan.switches = some cut) :
    sender.encoded.length < cut.sent side := by
  obtain ⟨switch, member, place⟩ := sends.exists_of_cut off found
  rw [← place]
  exact sends.lt_of_hasRoom room member

/-- A sender with encryption has. -/
theorem cut_le_sent {cut : Cut} (sends : Keeps plan side sender passed)
    (on : sender.inlet.codec.cipher.isSome) (found : cutOf plan.switches = some cut) :
    cut.sent side ≤ sender.encoded.length := by
  obtain ⟨cut', found', behind, -⟩ := sends.cut_of_isSome on
  cases found.symm.trans found'
  exact behind

/-- The frame of one more payload is what the layers of its place make of it. -/
theorem framed_send {codec : Codec} {frame : Bytes} (sends : Keeps plan side sender passed)
    (accord : Accord z plan side sender receiver transit frames) (nonempty : payload ≠ [])
    (room : sender.HasRoom side) (framed : sender.inlet.codec.frame z payload = .ok frame)
    (number : Nat) (other frame' : Bytes)
    (encoded : (sender.send payload codec).encoded[number]? = some other)
    (split : (frames ++ [frame])[number]? = some frame') :
    other ≠ [] ∧ (plan.codecAt side number).frame z other = .ok frame' := by
  have same : sender.inlet.codec.compression =
      (plan.codecAt side sender.encoded.length).compression :=
    sends.compression_eq_codecAt side (fun switch member => (sends.behind switch member).1)
      fun switch member => sends.lt_of_hasRoom room member
  rcases Nat.lt_trichotomy number sender.encoded.length with old | rfl | beyond
  · rw [Peer.send, List.getElem?_append_left old] at encoded
    rw [List.getElem?_append_left (accord.size ▸ old)] at split
    exact accord.framed number other frame' encoded split
  · rw [Peer.send, List.getElem?_concat_length] at encoded
    rw [← accord.size, List.getElem?_concat_length] at split
    cases encoded
    cases split
    exact ⟨nonempty, frame_congr same payload ▸ framed⟩
  · rw [List.getElem?_eq_none (by simp [Peer.send]; omega)] at encoded
    cases encoded

/-- What one more frame adds to what the receiver holds.  Whether the receiver has made the switch
decides how it sees the frame, whether the sender has decides how the frame travels. -/
theorem holds_send {codec : Codec} {frame : Bytes} (sends : Keeps plan side sender passed)
    (receives : Keeps plan side.other receiver made)
    (accord : Accord z plan side sender receiver transit frames) (room : sender.HasRoom side)
    (sealed : sender.inlet.codec.cipher = none ∧ octets = frame ∧ codec = sender.inlet.codec ∨
      ∃ cipher, sender.inlet.codec.cipher = some cipher ∧ octets = (cipher.encrypt frame).1 ∧
        codec = { sender.inlet.codec with cipher := some (cipher.encrypt frame).2 }) :
    Holds plan side (frames ++ [frame]) receiver.decoded.length
      (receiver.inlet.settled (transit ++ octets)).codec.inbound?
      (receiver.inlet.settled (transit ++ octets)).buffer := by
  have room' : receiver.decoded.length ≤ frames.length := accord.size ▸ accord.length_le
  have held := accord.inbound
  have seen := Inlet.isSome_settled receiver.inlet transit
  cases on : (receiver.inlet.settled transit).codec.inbound? with
  | none =>
    rw [on] at held seen
    obtain ⟨buffer, inbound⟩ := Inlet.settled_append_of_none receives.counted octets on
    have off : receiver.inlet.codec.cipher = none :=
      Option.isNone_iff_eq_none.mp (by simpa using seen.symm)
    rw [buffer, inbound]
    rcases sealed with ⟨off', rfl, -⟩ | ⟨cipher, on', rfl, -⟩
    · exact held.concat_plain room' fun cut found => accord.size ▸ sent_lt_cut sends room off' found
    · -- The sender alone has switched: the frame is behind the cut, what is held may be before it.
      have isSome : sender.inlet.codec.cipher.isSome := by rw [on']; rfl
      obtain ⟨cut, found, behind, -⟩ := sends.cut_of_isSome isSome
      obtain ⟨switch, member, place⟩ := receives.exists_of_cut off found
      have ahead := (receives.ahead switch member).2
      rw [Side.other_other, place] at ahead
      exact held.concat_sealed found ahead (accord.size ▸ behind)
        (accord.outbound cipher.outbound (by rw [outbound?, on']; rfl))
  | some stream =>
    rw [on] at held seen
    obtain ⟨buffer, inbound⟩ := Inlet.settled_append_of_some receives.counted octets on
    obtain ⟨cut, found, -, behind⟩ := receives.cut_of_isSome seen.symm
    rw [Side.other_other] at behind
    have passed := Nat.le_trans behind accord.length_le
    rcases sealed with ⟨off', -, -⟩ | ⟨cipher, on', rfl, -⟩
    · -- The receiver never switches before the sender has come to the cut.
      exact absurd (sent_lt_cut sends room off' found) (Nat.not_lt.mpr passed)
    · obtain rfl := (accord.outbound cipher.outbound (by rw [outbound?, on']; rfl)).unique held.2
      rw [buffer, inbound, Duplex.encrypt, Cfb8.decrypt_encrypt]
      refine held.concat_opened room' fun cut' found' => ?_
      cases found.symm.trans found'
      exact accord.size ▸ passed

theorem send {codec : Codec} (sends : Keeps plan side sender passed)
    (receives : Keeps plan side.other receiver made)
    (accord : Accord z plan side sender receiver transit frames) (nonempty : payload ≠ [])
    (room : sender.HasRoom side)
    (call : encode z payload sender.inlet.codec = .ok octets codec) :
    ∃ frames, Accord z plan side (sender.send payload codec) receiver (transit ++ octets) frames := by
  obtain ⟨frame, framed, sealed⟩ := encode_eq_ok call
  refine ⟨frames ++ [frame], ?_, accord.framed_send sends nonempty room framed,
    accord.heard.trans (List.prefix_append _ _), ?_, accord.holds_send sends receives room sealed⟩
  · simp [Peer.send, accord.size]
  · intro stream after
    rcases sealed with ⟨off, -, rfl⟩ | ⟨cipher, on, -, rfl⟩
    · simp [Peer.send, outbound?, off] at after
    · cases after
      refine (accord.outbound cipher.outbound (by rw [outbound?, on]; rfl)).concat ?_
      intro cut found
      rw [accord.size]
      exact cut_le_sent sends (by rw [on]; rfl) found

theorem switch_sender {switch : Switch} {rest : List Switch}
    (sends : Keeps plan side sender passed) (next : sender.pending = switch :: rest)
    (due : sender.At side switch)
    (accord : Accord z plan side sender receiver transit frames) :
    Accord z plan side (sender.switch switch.layer rest) receiver transit frames := by
  cases layer : switch.layer with
  | compression threshold level => exact accord.congr_sender rfl rfl
  | encryption secret =>
    obtain ⟨-, found⟩ := sends.cut_of_switch next layer
    refine ⟨accord.size, accord.framed, accord.heard, fun stream after => ?_, accord.inbound⟩
    cases after
    -- All frames so far are before the cut, so the stream is at its start.
    have nothing : frames.drop (switch.sent side) = [] :=
      List.drop_of_length_le (by rw [accord.size]; exact Nat.le_of_eq due.1)
    refine ⟨_, found, ?_⟩
    dsimp only
    rw [nothing]
    rfl

theorem switch_receiver {switch : Switch} {rest : List Switch}
    (receives : Keeps plan side receiver made) (next : receiver.pending = switch :: rest)
    (due : receiver.At side switch)
    (accord : Accord z plan side.other sender receiver transit frames) :
    Accord z plan side.other sender (receiver.switch switch.layer rest) transit frames := by
  cases layer : switch.layer with
  | compression threshold level =>
    exact accord.congr_receiver rfl (Inlet.settled_congr receives.counted rfl rfl rfl)
  | encryption secret =>
    obtain ⟨off, found⟩ := receives.cut_of_switch next layer
    refine ⟨accord.size, accord.framed, accord.heard, accord.outbound, ?_⟩
    have held := accord.inbound
    have raw : receiver.inlet.settled transit = receiver.inlet.arrive transit :=
      Inlet.decrypt_of_none off
    have place : switch.sent side.other = receiver.decoded.length := due.2.symm
    rw [raw, Inlet.codec_arrive, inbound?, off, Option.map_none, Holds, Inlet.buffer_arrive,
      Plan.wire_of_le found (Nat.le_of_eq place)] at held
    -- What has arrived is counted anew, so all of it is decrypted under the new stream.
    have anew : (receiver.switch (.encryption secret) rest).inlet.Counted := Nat.zero_le _
    unfold Inlet.settled
    rw [Inlet.decrypt_of_some (anew.arrive transit) rfl]
    have opened : (Duplex.ofSecret secret).decrypt (receiver.inlet.buffer ++ transit) =
        ((frames.drop receiver.decoded.length).flatten,
          { Duplex.ofSecret secret with
            inbound := ((Duplex.ofSecret secret).outbound.encrypt
              (frames.drop receiver.decoded.length).flatten).2 }) := by
      have same : (Duplex.ofSecret secret).inbound = (Duplex.ofSecret secret).outbound := rfl
      rw [held, Duplex.decrypt, same, Cfb8.decrypt_encrypt]
    change Holds plan side.other frames receiver.decoded.length
      (some ((Duplex.ofSecret secret).decrypt (receiver.inlet.buffer ++ transit)).2.inbound)
      ((Duplex.ofSecret secret).decrypt (receiver.inlet.buffer ++ transit)).1
    rw [opened]
    exact ⟨rfl, _, found, by dsimp only; rw [place]⟩

/-! ## What a receiver decodes -/

/-- Once all payloads are decoded, nothing is left. -/
theorem decode_eq_none (receives : Keeps plan side receiver made)
    (accord : Accord z plan side.other sender receiver transit frames)
    (all : receiver.decoded.length = sender.encoded.length) :
    (receiver.inlet.settled transit).buffer = [] ∧
      decode z (receiver.inlet.arrive transit) =
        .ok none (receiver.inlet.settled transit) := by
  have held := accord.inbound
  have nothing : frames.drop receiver.decoded.length = [] :=
    List.drop_of_length_le (by rw [accord.size]; exact Nat.le_of_eq all.symm)
  have empty : (receiver.inlet.settled transit).buffer = [] := by
    cases on : (receiver.inlet.settled transit).codec.inbound? with
    | none =>
      rw [on, Holds, nothing, Plan.wire_nil] at held
      exact held
    | some stream =>
      rw [on, Holds, nothing] at held
      exact held.1
  refine ⟨empty, ?_⟩
  rw [← decode_of_empty empty]
  exact decode_congr (Inlet.decrypt_decrypt (receives.counted.arrive transit)).symm

/-- Before that, what it holds begins with the next frame. -/
theorem front {frame : Bytes} (receives : Keeps plan side receiver made)
    (accord : Accord z plan side.other sender receiver transit frames)
    (ahead : ∀ switch ∈ receiver.pending, receiver.decoded.length < switch.sent side.other)
    (found : frames[receiver.decoded.length]? = some frame) :
    ∃ rest, (receiver.inlet.settled transit).buffer = frame ++ rest ∧
      Holds plan side.other frames (receiver.decoded.length + 1)
        (receiver.inlet.settled transit).codec.inbound? rest := by
  have split : frames.drop receiver.decoded.length =
      frame :: frames.drop (receiver.decoded.length + 1) := by
    obtain ⟨bound, rfl⟩ := List.getElem?_eq_some_iff.mp found
    exact List.drop_eq_getElem_cons bound
  have seen := Inlet.isSome_settled receiver.inlet transit
  have held := accord.inbound
  cases on : (receiver.inlet.settled transit).codec.inbound? with
  | none =>
    -- The switch is still to be made, so the frame is before the cut.
    rw [on] at held seen
    have off : receiver.inlet.codec.cipher = none :=
      Option.isNone_iff_eq_none.mp (by simpa using seen.symm)
    refine ⟨_, ?_, rfl⟩
    rw [← Plan.wire_cons, ← split]
    · exact held
    · intro cut found
      obtain ⟨switch, member, place⟩ := receives.exists_of_cut off found
      rw [← place]
      exact ahead switch member
  | some stream =>
    rw [on] at held
    refine ⟨_, ?_, rfl, held.2⟩
    rw [held.1, split, List.flatten_cons]

/-- The next payload is decoded once all octets have arrived, and what is left is what the others
come to. -/
theorem decode_eq_some (lawful : z.RoundTrips) (receives : Keeps plan side receiver made)
    (accord : Accord z plan side.other sender receiver transit frames)
    (ahead : ∀ switch ∈ receiver.pending, receiver.decoded.length < switch.sent side.other)
    (more : sender.encoded[receiver.decoded.length]? = some payload) :
    ∃ after, decode z (receiver.inlet.arrive transit) = .ok (some payload) after ∧
      Holds plan side.other frames (receiver.decoded.length + 1) after.codec.inbound? after.buffer := by
  obtain ⟨within, -⟩ := List.getElem?_eq_some_iff.mp more
  obtain ⟨frame, found⟩ : ∃ frame, frames[receiver.decoded.length]? = some frame :=
    ⟨_, List.getElem?_eq_getElem (accord.size ▸ within)⟩
  obtain ⟨nonempty, framed⟩ := accord.framed _ payload frame more found
  obtain ⟨rest, front, left⟩ := accord.front receives ahead found
  have behind : ∀ switch ∈ made, switch.sent side.other ≤ receiver.decoded.length :=
    fun switch member => (receives.behind switch member).2
  have compression : (receiver.inlet.settled transit).codec.compression =
      (plan.codecAt side.other receiver.decoded.length).compression :=
    Inlet.compression_decrypt.trans (receives.compression_eq_codecAt side.other behind ahead)
  have same : (receiver.inlet.settled transit).codec.threshold? =
      (plan.codecAt side.other receiver.decoded.length).threshold? := by
    unfold threshold?
    rw [compression]
  obtain ⟨envelope, enveloped, opened⟩ := unframe_frame lawful same nonempty framed
  have split? : Frame.split? (receiver.inlet.settled transit).buffer =
      .ok (some (envelope, rest)) := by
    rw [front]
    exact Frame.split?_encode rest enveloped
  obtain ⟨after, taken, inbound, compressed, rfl⟩ : ∃ after : Inlet,
      (receiver.inlet.settled transit).takeFrame = .ok (some (envelope, after)) ∧
        after.codec.inbound? = (receiver.inlet.settled transit).codec.inbound? ∧
        after.codec.compression = (receiver.inlet.settled transit).codec.compression ∧
        after.buffer = rest :=
    ⟨_, Inlet.takeFrame_of_split? split?, rfl, rfl, rfl⟩
  refine ⟨after, ?_, inbound ▸ left⟩
  rw [decode_of_takeFrame taken, unframe_congr compressed, opened]

/-- A payload that is decoded is the next one. -/
theorem take {inlet : Inlet} {next : Bytes} (lawful : z.RoundTrips)
    (receives : Keeps plan side receiver made)
    (accord : Accord z plan side.other sender receiver transit frames)
    (ahead : ∀ switch ∈ receiver.pending, receiver.decoded.length < switch.sent side.other)
    (more : sender.encoded[receiver.decoded.length]? = some next)
    (call : decode z receiver.inlet = .ok (some payload) inlet) :
    Accord z plan side.other sender (receiver.take payload inlet) transit frames := by
  obtain ⟨after, call', held⟩ := accord.decode_eq_some lawful receives ahead more
  rw [decode_arrive_some receives.counted call transit] at call'
  cases call'
  refine ⟨accord.size, accord.framed, ?_, accord.outbound, ?_⟩
  · obtain ⟨rest, whole⟩ := accord.heard
    rw [← whole] at more
    rw [List.getElem?_append_right (Nat.le_refl _), Nat.sub_self] at more
    obtain ⟨tail, rfl⟩ := List.head?_eq_some_iff.mp (List.head?_eq_getElem? ▸ more)
    exact ⟨tail, by rw [Peer.take, List.append_assoc, ← whole]; rfl⟩
  · rw [Peer.take, List.length_append]
    exact held

end Accord

end GameTransport.Codec
