import GameTransport.Proofs.Kinds
import GameTransport.Proofs.Histories
import GameTransport.Proofs.Reads

/-! # Which clients are taken for old ones

An old client opens with `FE`, and every other client with the length of its first frame.  The first
octet of a length is its lowest digit, marked if there are more, so a length whose lowest digit is 126
and which has a second digit opens with `FE` too.  The first frame is a handshake.  Its payload takes
up to 1031 octets, and seven lengths in that range are of this kind (`Handshake.swallowed`): clients
that send such a handshake get the answer of an old client.

Every other handshake is handed to the registry of HANDSHAKING, whatever reads it arrives in and
whatever stands behind it (`Connection.handshake_heard_iff`).
-/

namespace GameTransport

/-! ## The first octet of a frame -/

theorem Varint.head?_encode (n : Nat) :
    (encode n).head? = some (UInt8.ofNat (if n < 128 then n else n % 128 + 128)) := by
  by_cases small : n < 128
  · rw [encode_of_lt small, if_pos small]
    rfl
  · rw [encode_of_le (Nat.le_of_not_lt small), if_neg small]
    rfl

namespace Frame

variable {payload frame : Bytes}

theorem head?_encode (framed : encode payload = .ok frame) :
    frame.head? = some (UInt8.ofNat
      (if payload.length < 128 then payload.length else payload.length % 128 + 128)) := by
  obtain ⟨-, rfl⟩ := encode_eq_ok framed
  rw [List.head?_append, Varint.head?_encode]
  rfl

/-- A frame opens like an old client if the lowest digit of its length is 126 and not the last. -/
theorem head?_eq_opening_iff (framed : encode payload = .ok frame) :
    frame.head? = some LegacyPing.opening ↔
      128 ≤ payload.length ∧ payload.length % 128 = 126 := by
  rw [head?_encode framed, Option.some.injEq, ← UInt8.toNat_inj, UInt8.toNat_ofNat']
  change _ = 254 ↔ _
  split <;> omega

end Frame

namespace Handshake

/-- The lengths of the payloads whose frames open like an old client. -/
def swallowed : List Nat := [254, 382, 510, 638, 766, 894, 1022]

variable {packet : Handshake}

/-- What the payload of a handshake takes: one octet each for the number of the kind and for the state,
two for the port, the rest for the version and the address. -/
theorem length_encode (asked : packet.nextState.isRequestable)
    (short : (Utf8.encode packet.serverAddress).length < 2 ^ 32) :
    (Packet.encode packet).length =
      4 + (Varint.encode packet.protocolVersion.toUInt32.toNat).length +
        (Varint.encode (Utf8.encode packet.serverAddress).length).length +
        (Utf8.encode packet.serverAddress).length := by
  have digit {n : Nat} (small : n < 128) : (Varint.encode n).length = 1 :=
    congrArg List.length (Varint.encode_of_lt small)
  have number : (Varint.encode (Packet.id Handshake).toNat).length = 1 := digit (by decide)
  have port : (Field.u16.write packet.serverPort).length = 2 := Bytes.length_ofNat 2 _
  have state : (Field.varU32.write packet.nextState.id.toUInt32).length = 1 := by
    cases same : packet.nextState with
    | handshaking => rw [same] at asked; cases asked
    | status => exact digit (by decide)
    | login => exact digit (by decide)
    | play => rw [same] at asked; cases asked
  have address : ((Field.string maxAddress).write packet.serverAddress).length =
      (Varint.encode (Utf8.encode packet.serverAddress).length).length +
        (Utf8.encode packet.serverAddress).length := by
    simp only [Field.string, Field.writeLength, List.length_append,
      UInt32.toNat_ofNat_of_lt' short]
  have version : (Field.varU32.write packet.protocolVersion.toUInt32).length =
      (Varint.encode packet.protocolVersion.toUInt32.toNat).length := rfl
  simp only [Packet.encode, Packet.write, List.length_append, number, port, state, address, version]
  omega

/-- What is known of the size of a handshake within its limits. -/
theorem length_encode_le (asked : packet.nextState.isRequestable)
    (address : packet.serverAddress.length ≤ maxAddress) :
    (Packet.encode packet).length ≤ 1031 ∧
      (Packet.encode packet).length ≤ 11 + (Utf8.encode packet.serverAddress).length := by
  have host : (Utf8.encode packet.serverAddress).length ≤ 4 * maxAddress :=
    Field.length_encode_le_of_length_le address
  have version := Varint.length_encode_toNat_le packet.protocolVersion.toUInt32
  simp only [maxAddress] at host
  have digits : (Varint.encode (Utf8.encode packet.serverAddress).length).length ≤ 2 :=
    @Varint.length_encode_le 1 _ (by omega)
  rw [length_encode asked (by omega)]
  omega

/-- A handshake whose payload takes 254 octets, of which 246 are the letters of the address. -/
def mistaken : Handshake where
  protocolVersion := 767
  serverAddress := String.ofList (List.replicate 246 'a')
  serverPort := 25565
  nextState := .status

theorem length_encode_mistaken : (Packet.encode mistaken).length = 254 := by
  have letters (n : Nat) : (Utf8.encode (String.ofList (List.replicate n 'a'))).length = n := by
    simp only [Utf8.encode, String.toList_ofList, List.length_flatMap, List.map_replicate,
      List.sum_replicate_nat, String.length_utf8EncodeChar]
    exact Nat.mul_one n
  have host : (Utf8.encode mistaken.serverAddress).length = 246 := letters 246
  have version : (Varint.encode mistaken.protocolVersion.toUInt32.toNat).length = 2 := by
    rw [Varint.encode_of_le (by decide), Varint.encode_of_lt (by decide)]
    rfl
  have digits : (Varint.encode 246).length = 2 := by
    rw [Varint.encode_of_le (by decide), Varint.encode_of_lt (by decide)]
    rfl
  rw [length_encode rfl (by rw [host]; decide), version, host, digits]

/-- The first octet of a handshake tells whether its client is taken for an old one. -/
theorem head?_eq_opening_iff (asked : packet.nextState.isRequestable)
    (address : packet.serverAddress.length ≤ maxAddress) {frame : Bytes}
    (framed : Frame.encode (Packet.encode packet) = .ok frame) :
    frame.head? = some LegacyPing.opening ↔ (Packet.encode packet).length ∈ swallowed := by
  obtain ⟨bound, -⟩ := length_encode_le asked address
  rw [Frame.head?_eq_opening_iff framed]
  simp only [swallowed, List.mem_cons, List.not_mem_nil, or_false]
  omega

end Handshake

/-! ## A frame that arrives in parts -/

namespace Codec

variable {z : Zlib.Library} {payload frame buffer more : Bytes}

/-- At first a payload is put into a frame and no more. -/
theorem encode_first (framed : Frame.encode payload = .ok frame) :
    encode z payload {} = .ok frame {} := encode_of_none framed rfl

/-- Nothing is decoded while a part of the first frame is missing. -/
theorem decode_part (framed : Frame.split? frame = .ok (some (payload, [])))
    (whole : buffer ++ more = frame) (missing : more ≠ []) :
    decode z ⟨{}, buffer⟩ = .ok none ⟨{}, buffer⟩ := by
  have now : Frame.split? buffer = .ok none := Frame.split?_part (whole ▸ framed) missing
  have taken : Inlet.takeFrame ⟨{}, buffer⟩ = .ok none := by
    rw [Inlet.takeFrame, now]
    rfl
  unfold decode
  dsimp only
  rw [show Inlet.decrypt ⟨{}, buffer⟩ = ⟨{}, buffer⟩ from rfl, taken]

/-- The payload of a frame that is all there is decoded. -/
theorem decode_whole (framed : Frame.split? frame = .ok (some (payload, []))) (more : Bytes) :
    decode z ⟨{}, frame ++ more⟩ = .ok (some payload) ⟨{}, more⟩ := by
  have taken : Inlet.takeFrame ⟨{}, frame ++ more⟩ = .ok (some (payload, ⟨{}, more⟩)) := by
    rw [Inlet.takeFrame, Frame.split?_append_some more framed]
    simp [Except.map]
  have plain : Inlet.decrypt ⟨{}, frame ++ more⟩ = ⟨{}, frame ++ more⟩ := rfl
  exact decode_of_takeFrame (plain ▸ taken)

end Codec

namespace Connection

variable {α : Type} {registries : StateRegistries (Session α)} {z : Zlib.Library} {c : Connection α}
  {payload frame more : Bytes}

/-- The payload of the first frame is heard, whatever reads the frame arrives in. -/
theorem heard_of_serving (framed : Frame.encode payload = .ok frame) (serving : c.phase = .serving)
    (plain : c.conversation.codec = {}) (short : c.buffer.length < frame.length) {reads : List Bytes}
    (whole : c.buffer ++ reads.flatten = frame ++ more) :
    ∃ d later, c.history registries z (reads.map .received) = .heard payload d :: later ∧
      d.state = c.conversation.state := by
  induction reads generalizing c with
  | nil =>
    have lengths := congrArg List.length whole
    simp only [List.flatten_nil, List.append_nil, List.length_append] at lengths
    omega
  | cons octets rest ih =>
    obtain ⟨⟨session, state, codec, outgoing, written⟩, readTimeout, phase, buffer, mailbox, silence,
      notes⟩ := c
    cases serving
    cases plain
    dsimp only at short whole ⊢
    have alone : Frame.split? frame = .ok (some (payload, [])) := by
      simpa using Frame.split?_encode [] framed
    rcases octets with _ | ⟨first, octets⟩
    · exact ih rfl rfl short whole
    rw [List.flatten_cons, ← List.append_assoc] at whole
    rw [List.map_cons, history]
    by_cases part : (buffer ++ first :: octets).length < frame.length
    · -- A part of the frame is still missing, and the buffer grows by what was read.
      obtain ⟨missing, rfl⟩ : ∃ missing, buffer ++ first :: octets ++ missing = frame := by
        have within := (List.prefix_append (buffer ++ first :: octets) rest.flatten)
        rw [whole] at within
        exact List.prefix_of_prefix_length_le within (List.prefix_append frame more)
          (Nat.le_of_lt part)
      have some : missing ≠ [] := by
        rintro rfl
        simp at part
      have idle := @Codec.decode_part z _ _ _ _ alone rfl some
      have nothing : happenings registries z (.received (first :: octets))
          ⟨⟨session, state, {}, outgoing, written⟩, readTimeout, .serving, buffer, mailbox, silence,
            notes⟩ = [] :=
        @Conversation.history_of_none _ z registries _ _ _ idle
      have grown : step registries z
          ⟨⟨session, state, {}, outgoing, written⟩, readTimeout, .serving, buffer, mailbox, silence,
            notes⟩ (.received (first :: octets)) =
          ⟨⟨session, state, {}, outgoing, written⟩, readTimeout, .serving,
            buffer ++ first :: octets, mailbox, ⟨0⟩, notes⟩ := by
        change settle registries _ (Conversation.drain z registries (buffer ++ first :: octets) _) = _
        rw [@Conversation.drain_of_none _ z registries _ _ _ idle]
        rfl
      rw [nothing, grown, List.nil_append]
      exact ih rfl rfl part whole
    · -- The frame is all there, and what stands behind it waits.
      obtain ⟨behind, complete⟩ : frame <+: buffer ++ first :: octets := by
        have within := List.prefix_append frame more
        rw [← whole] at within
        exact List.prefix_of_prefix_length_le within (List.prefix_append _ _) (Nat.le_of_not_lt part)
      have decoded := @Codec.decode_whole z _ _ alone behind
      rw [complete] at decoded
      have heard : happenings registries z (.received (first :: octets))
          ⟨⟨session, state, {}, outgoing, written⟩, readTimeout, .serving, buffer, mailbox, silence,
            notes⟩ = _ :=
        @Conversation.history_of_some _ z registries _ _ _ _ decoded
      rw [heard]
      exact ⟨_, _, rfl, rfl⟩

/-! ## The first read -/

/-- As long as nothing has been read, the conversation stands as it was begun. -/
def Untouched (c : Connection α) : Prop :=
  c.phase = .opening → c.buffer = [] ∧ c.conversation.codec = {} ∧ c.conversation.state = .handshaking

namespace Untouched

theorem close (result : Except Fault Unit) (d : Conversation α) (c : Connection α) :
    (c.close registries result d).Untouched := by
  intro opening
  rw [phase_close] at opening
  cases opening

theorem of_serving (serving : c.phase = .serving) : c.Untouched := by
  intro opening
  rw [serving] at opening
  cases opening

theorem drain (serving : c.phase = .serving) : (c.drain registries z).Untouched := by
  rw [Connection.drain]
  split
  · exact of_serving serving
  · exact close _ _ _
  · exact close _ _ _

theorem receive (untouched : c.Untouched) (octets : Bytes) :
    (c.receive registries z octets).Untouched := by
  unfold Connection.receive
  split
  · split
    · exact close _ _ _
    · exact drain rfl
  · rename_i serving
    exact drain serving
  · exact untouched

theorem elapse (untouched : c.Untouched) (time : Duration) :
    (c.elapse registries time).Untouched := by
  rw [Connection.elapse]
  dsimp only
  split
  · exact untouched
  · split
    · exact close _ _ _
    · exact untouched

theorem deliverAll (serving : c.phase = .serving) (messages : List Message) :
    (c.deliverAll registries z messages).Untouched := by
  have untouched : c.Untouched := of_serving serving
  clear serving
  induction messages generalizing c with
  | nil => exact untouched
  | cons message rest ih =>
    rw [Connection.deliverAll]
    split
    · rename_i serving
      refine ih ?_
      cases message with
      | packet packet =>
        rw [deliverMessage]
        split
        · exact of_serving serving
        · exact close _ _ _
      | disconnect => exact close _ _ _
    · exact untouched
    · exact untouched

theorem step (untouched : c.Untouched) (event : Event) : (c.step registries z event).Untouched := by
  cases event with
  | received octets => exact receive untouched octets
  | finished =>
    rw [Connection.step, finish]
    split
    · exact close _ _ _
    · split <;> exact close _ _ _
    · exact untouched
  | elapsed time => exact elapse untouched time
  | posted message =>
    rw [Connection.step, post]
    split <;> exact untouched
  | delivered =>
    rw [Connection.step, deliver]
    split
    · rename_i serving
      exact @deliverAll _ registries z { c with mailbox := [] } serving c.mailbox
    · exact untouched
    · exact untouched

theorem run (untouched : c.Untouched) (events : List Event) :
    (c.run registries z events).Untouched := by
  induction events generalizing c with
  | nil => exact untouched
  | cons event rest ih => exact ih (untouched.step event)

theorem start (registries : StateRegistries (Session α)) (session : Session α) :
    (Connection.start registries session).Untouched :=
  elapse (fun _ => ⟨rfl, rfl, rfl⟩) ⟨0⟩

end Untouched

/-- The payload of the first frame is heard, unless the frame opens like an old client. -/
theorem heard_of_opening (framed : Frame.encode payload = .ok frame) (untouched : c.Untouched)
    (opening : c.phase = .opening) (modern : frame.head? ≠ some LegacyPing.opening)
    {reads : List Bytes} (whole : reads.flatten = frame ++ more) :
    ∃ d later, c.history registries z (reads.map .received) = .heard payload d :: later ∧
      d.state = .handshaking := by
  obtain ⟨empty, plain, state⟩ := untouched opening
  obtain ⟨first, digits, frame_eq⟩ : ∃ first digits, frame = first :: digits := by
    have some := Frame.head?_encode framed
    rcases frame with _ | ⟨first, digits⟩
    · cases some
    · exact ⟨first, digits, rfl⟩
  induction reads with
  | nil =>
    rw [frame_eq] at whole
    cases whole
  | cons octets rest ih =>
    rcases octets with _ | ⟨x, xs⟩
    · have same : c.history registries z (([] :: rest).map .received) =
          c.history registries z (rest.map .received) := by
        rw [List.map_cons, history, step, receive_nil]
        rfl
      rw [same]
      exact ih whole
    · have head : x = first := by
        rw [frame_eq] at whole
        exact (List.cons.inj whole).1
      have other : x ≠ LegacyPing.opening := by
        rintro rfl
        rw [frame_eq, ← head] at modern
        exact modern rfl
      -- A first read that is no old client's is a read like any other.
      have same : c.history registries z (((x :: xs) :: rest).map .received) =
          { c with phase := .serving }.history registries z (((x :: xs) :: rest).map .received) := by
        rw [List.map_cons, history, history, step, step, receive_of_opening opening empty other]
        simp only [happenings, opening, empty, if_neg other, List.nil_append]
      have long : c.buffer.length < frame.length := by
        rw [empty, frame_eq]
        exact Nat.succ_pos _
      rw [← List.nil_append (List.flatten _), ← empty] at whole
      rw [same, ← state]
      exact @heard_of_serving _ registries z { c with phase := .serving } _ _ _ framed rfl plain long
        _ whole

/-- A frame that opens like an old client gets the answer of one, and is not heard. -/
theorem answerLegacy_of_opening (opening : c.phase = .opening)
    (old : frame.head? = some LegacyPing.opening) {reads : List Bytes}
    (whole : reads.flatten = frame ++ more) :
    c.history registries z (reads.map .received) = [] ∧
      c.run registries z (reads.map .received) = c.answerLegacy registries := by
  obtain ⟨digits, rfl⟩ := List.head?_eq_some_iff.mp old
  induction reads with
  | nil => cases whole
  | cons octets rest ih =>
    rw [List.map_cons, history, run, List.foldl_cons, step]
    rcases octets with _ | ⟨x, xs⟩
    · rw [receive_nil]
      exact ih whole
    · obtain rfl : x = LegacyPing.opening := (List.cons.inj whole).1
      have closed := @isClosed_answerLegacy α registries c
      rw [receive_of_legacy opening]
      refine ⟨?_, run_of_isClosed closed _⟩
      rw [history_of_isClosed closed, List.append_nil]
      simp only [happenings, opening, if_pos]

/-- **A handshake is heard unless the first octet of its frame is an old client's.**  That is so for
seven lengths of its payload, and for no address of 242 octets or less. -/
theorem handshake_heard_iff (registries : StateRegistries (Session α)) (z : Zlib.Library)
    (session : Session α) (before : List Event)
    (opening : ((start registries session).run registries z before).phase = .opening)
    {packet : Handshake} {body rest : Bytes} (accepted : Packet.read body = .ok packet rest) :
    ∃ frame, Codec.encode z (Packet.encode packet) {} = .ok frame {} ∧
      (frame.head? = some LegacyPing.opening ↔
        (Packet.encode packet).length ∈ Handshake.swallowed) ∧
      ((Utf8.encode packet.serverAddress).length ≤ 242 →
        (Packet.encode packet).length ∉ Handshake.swallowed) ∧
      ∀ (reads : List Bytes) (more : Bytes), reads.flatten = frame ++ more →
        let c := (start registries session).run registries z before
        ((Packet.encode packet).length ∉ Handshake.swallowed →
          ∃ d later, c.history registries z (reads.map .received) =
            .heard (Packet.encode packet) d :: later ∧ d.state = .handshaking) ∧
        ((Packet.encode packet).length ∈ Handshake.swallowed →
          c.history registries z (reads.map .received) = [] ∧
            c.run registries z (reads.map .received) = c.answerLegacy registries) := by
  have asked := Handshake.isRequestable_of_read accepted
  have address := (Handshake.within_of_read accepted).1
  obtain ⟨bound, host⟩ := Handshake.length_encode_le asked address
  obtain ⟨frame, framed⟩ : ∃ frame, Frame.encode (Packet.encode packet) = .ok frame :=
    ⟨_, Frame.encode_of_le (Nat.le_trans bound (by decide))⟩
  have first := Handshake.head?_eq_opening_iff asked address framed
  have untouched : ((start registries session).run registries z before).Untouched :=
    (Untouched.start registries session).run before
  refine ⟨frame, Codec.encode_first framed, first, ?_, fun reads more whole =>
    ⟨fun modern => ?_, fun old => ?_⟩⟩
  · intro short
    simp only [Handshake.swallowed, List.mem_cons, List.not_mem_nil, or_false]
    omega
  · exact heard_of_opening framed untouched opening (mt first.mp modern) whole
  · exact answerLegacy_of_opening opening (first.mpr old) whole

/-- A client of the newest version that asks for a login at a short address is heard. -/
theorem handshake_heard_iff_localhost :
    ((start Handlers.registries firstSession).run Handlers.registries .stored []).phase = .opening ∧
      Packet.read (Packet.write (Handshake.mk 767 "localhost" 25565 .login)) =
        .ok (Handshake.mk 767 "localhost" 25565 .login) [] ∧
      ∃ frame, Codec.encode .stored (Packet.encode (Handshake.mk 767 "localhost" 25565 .login)) {} =
          .ok frame {} ∧
        ∃ d later, (start Handlers.registries firstSession).history Handlers.registries .stored
            [.received frame] =
          .heard (Packet.encode (Handshake.mk 767 "localhost" 25565 .login)) d :: later ∧
            d.state = .handshaking := by
  have accepted : Packet.read (Packet.write (Handshake.mk 767 "localhost" 25565 .login)) =
      .ok (Handshake.mk 767 "localhost" 25565 .login) [] := by
    have back := @Handshake.readsBack (.mk 767 "localhost" 25565 .login) (by decide) rfl []
    rwa [List.append_nil] at back
  obtain ⟨frame, encoded, -, short, reads⟩ :=
    handshake_heard_iff Handlers.registries .stored firstSession [] rfl accepted
  have host : (Utf8.encode "localhost").length ≤ 242 :=
    Nat.le_trans (Utf8.length_encode_le _) (by decide)
  have heard := (reads [frame] [] (by simp)).1 (short host)
  exact ⟨rfl, accepted, frame, encoded, heard⟩

/-- **A handshake can be taken for an old client.**  The client gets the answer of an old one, and
nothing is heard. -/
theorem handshake_not_heard :
    Handshake.mistaken.serverAddress.length = 246 ∧
      Packet.read (Packet.write Handshake.mistaken) = .ok Handshake.mistaken [] ∧
      ∃ frame, Codec.encode .stored (Packet.encode Handshake.mistaken) {} = .ok frame {} ∧
        frame.head? = some LegacyPing.opening ∧
        (start Handlers.registries firstSession).history Handlers.registries .stored
          [.received frame] = [] ∧
        (start Handlers.registries firstSession).run Handlers.registries .stored [.received frame] =
          (start Handlers.registries firstSession).answerLegacy Handlers.registries := by
  have letters : Handshake.mistaken.serverAddress.length = 246 :=
    String.length_ofList.trans List.length_replicate
  have fits : Handshake.mistaken.serverAddress.length ≤ Handshake.maxAddress := by
    rw [letters]
    decide
  have accepted : Packet.read (Packet.write Handshake.mistaken) = .ok Handshake.mistaken [] := by
    have back := Handshake.readsBack fits rfl []
    rwa [List.append_nil] at back
  have collides : (Packet.encode Handshake.mistaken).length ∈ Handshake.swallowed := by
    rw [Handshake.length_encode_mistaken]
    decide
  obtain ⟨frame, framed⟩ : ∃ frame, Frame.encode (Packet.encode Handshake.mistaken) = .ok frame :=
    ⟨_, Frame.encode_of_le (by rw [Handshake.length_encode_mistaken]; decide)⟩
  have old := (Handshake.head?_eq_opening_iff rfl fits framed).mpr collides
  have ignored := @answerLegacy_of_opening Unit Handlers.registries .stored
    (start Handlers.registries firstSession) _ [] rfl old [_]
    ((List.append_nil _).trans (List.append_nil _).symm)
  exact ⟨letters, accepted, frame, Codec.encode_first framed, old, ignored⟩

end Connection

end GameTransport
