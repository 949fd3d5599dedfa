import GameTransport.Proofs.Arrival
import GameTransport.Proofs.Representation
import GameTransport.Zlib.Standard

/-! # A frame that is refused costs itself alone

A frame is taken off the buffer before its envelope is opened, so an envelope that is refused leaves
the buffer where the next frame begins.  The octets counted as decrypted are the ones that are left,
and the decompressor has been reset, however far it got.  A caller may therefore decode on after such
a fault (`receive`), and then it is told of each frame what a new packer finds in it
(`receive_eq_openEach`).

`Port.plain` is what the argument runs on: what a port holds, decrypted, if some more octets arrive.
A call that takes a frame takes it off the front of all that the port will ever hold.
-/

namespace GameTransport

variable {engine : Zlib.Engine}

/-- A new decompressor that has been used is new again once it is reset. -/
def Zlib.Engine.ResetsInflater (engine : Engine) : Prop :=
  ∀ capacity body, engine.resetInflater (engine.inflate capacity body engine.inflater).2 =
    engine.inflater

theorem Zlib.Engine.resetsInflater_ofLibrary (z : Library) : (ofLibrary z).ResetsInflater :=
  fun _ _ => rfl

/-! ### Resetting the decompressor -/

namespace Packer

variable {packer : Packer engine}

/-- The decompressor is new. -/
def Fresh (packer : Packer engine) : Prop := packer.inflater = engine.inflater

/-- What a new packer finds in an envelope. -/
def opened (engine : Zlib.Engine) (threshold level : Nat) (envelope : Bytes) : Except Fault Bytes :=
  (told (unwrap envelope (new threshold level : Packer engine))).1

theorem opened_eq (resets : engine.ResetsInflater) (threshold level : Nat) (envelope : Bytes) :
    opened engine threshold level envelope =
      (⟨threshold, level⟩ : Compression).unwrap engine.library envelope := by
  have same : (new threshold level : Packer engine).threshold = threshold := rfl
  rw [opened, unwrap_of_new resets rfl level, same]
  rcases Compression.unwrap engine.library ⟨threshold, level⟩ envelope with fault | payload <;> rfl

/-- **Unwrapping finds what a new packer finds** and leaves the packer as it was, also where it
fails. -/
theorem unwrap_of_fresh (resets : engine.ResetsInflater) (fresh : packer.Fresh) (level : Nat)
    (envelope : Bytes) :
    unwrap envelope packer =
      match opened engine packer.threshold level envelope with
      | .ok payload => .ok payload packer
      | .error fault => .error fault packer := by
  rw [opened_eq resets]
  exact unwrap_of_new resets fresh level envelope

/-- Wrapping leaves the decompressor alone. -/
theorem inflater_stateOf_wrap (packer : Packer engine) (payload buffer : Bytes) :
    (stateOf (wrap payload (packer, buffer))).1.inflater = packer.inflater := by
  simp only [wrap]
  split
  · rfl
  · split
    · rfl
    · split <;> rfl

end Packer

namespace BufferedCodec

variable {codec : BufferedCodec engine}

/-- The decompressor, if there is one, is new. -/
def Fresh (codec : BufferedCodec engine) : Prop := ∀ packer ∈ codec.packer, packer.Fresh

theorem Fresh.wrap (fresh : codec.Fresh) (payload : Bytes) :
    (stateOf (wrap payload codec)).Fresh := by
  obtain ⟨packer?, sealer, decrypted, envelope, scratch⟩ := codec
  cases packer? with
  | none => exact fresh
  | some packer =>
    have kept := Packer.inflater_stateOf_wrap packer payload []
    have new := fresh packer rfl
    simp only [BufferedCodec.wrap]
    rcases wrapped : Packer.wrap payload (packer, []) with
      ⟨⟨⟩, packer', envelope'⟩ | ⟨fault, packer', envelope'⟩ <;> rw [wrapped] at kept <;>
      rintro _ ⟨⟩ <;> exact kept.trans new

theorem Fresh.frame (fresh : codec.Fresh) (payload : Bytes) :
    (stateOf (frame payload codec)).Fresh := by
  have cleared : ({ codec with scratch := [] } : BufferedCodec engine).Fresh := fresh
  have kept := cleared.wrap payload
  rw [BufferedCodec.frame]
  rcases wrapped : BufferedCodec.wrap payload { codec with scratch := [] } with
    ⟨body, after⟩ | ⟨fault, after⟩ <;> rw [wrapped] at kept
  · dsimp only
    rcases Frame.encode body with fault | octets <;> exact kept
  · exact kept

/-- What is in a frame is what a new packer finds in it, and the codec is left as it was. -/
theorem unframe_of_fresh (resets : engine.ResetsInflater) {packer : Packer engine}
    (packs : codec.packer = some packer) (fresh : packer.Fresh) (level : Nat) (frame : Bytes) :
    unframe frame codec =
      match Packer.opened engine packer.threshold level frame with
      | .ok payload => .ok payload codec
      | .error fault => .error fault codec := by
  obtain ⟨packer?, sealer, decrypted, envelope, scratch⟩ := codec
  obtain rfl : packer? = some packer := packs
  simp only [unframe, Packer.unwrap_of_fresh resets fresh level]
  rcases Packer.opened engine packer.threshold level frame with fault | payload <;> rfl

theorem Fresh.unframe (resets : engine.ResetsInflater) (fresh : codec.Fresh) (frame : Bytes) :
    (stateOf (unframe frame codec)).Fresh := by
  cases packs : codec.packer with
  | none =>
    rw [BufferedCodec.unframe, packs]
    exact fresh
  | some packer =>
    rw [unframe_of_fresh resets packs (fresh packer packs) 0]
    rcases Packer.opened engine packer.threshold 0 frame with fault | payload <;> exact fresh

end BufferedCodec

namespace Port

variable {port : Port engine}

/-! ### The plain octets -/

/-- What a port holds, decrypted, if more octets arrive. -/
def plain (port : Port engine) (octets : Bytes) : Bytes :=
  port.inbox.take port.codec.decrypted ++
    Codec.plaintext (port.codec.sealer.map (·.duplex))
      (port.inbox.drop port.codec.decrypted ++ octets)

theorem plain_arrive (counted : port.codec.decrypted ≤ port.inbox.length) (octets more : Bytes) :
    (port.arrive octets).plain more = port.plain (octets ++ more) := by
  simp only [plain, arrive, List.take_append_of_le_length counted,
    List.drop_append_of_le_length counted, List.append_assoc]

/-- An inlet that has been decrypted holds the plain octets. -/
theorem buffer_decrypt_arrive (counted : port.codec.decrypted ≤ port.inbox.length)
    (octets : Bytes) : ((port.inlet none).arrive octets).decrypt.buffer = port.plain octets := by
  have counted' : (port.inlet none).Counted := counted
  have sameBuffer : (port.inlet none).buffer = port.inbox := rfl
  have sameCount : (port.inlet none).codec.decrypted = port.codec.decrypted := rfl
  cases cipher : port.codec.sealer with
  | none =>
    have off : ((port.inlet none).arrive octets).codec.cipher = none :=
      congrArg (Option.map Sealer.duplex) cipher
    rw [Codec.Inlet.decrypt_of_none off, plain, cipher]
    change port.inbox ++ octets = port.inbox.take _ ++ (port.inbox.drop _ ++ octets)
    rw [← List.append_assoc, List.take_append_drop]
  | some sealer =>
    have on : ((port.inlet none).arrive octets).codec.cipher = some sealer.duplex :=
      congrArg (Option.map Sealer.duplex) cipher
    rw [Codec.Inlet.decrypt_of_some (counted'.arrive octets) on, plain, cipher]
    simp only [Codec.Inlet.codec_arrive, Codec.Inlet.buffer_arrive, sameBuffer, sameCount,
      List.take_append_of_le_length counted, List.drop_append_of_le_length counted]
    rfl

theorem inbox_decrypt (counted : port.codec.decrypted ≤ port.inbox.length) :
    port.decrypt.inbox = port.plain [] := by
  have held := buffer_decrypt_arrive counted []
  rw [Codec.Inlet.arrive_nil, ← inlet_decrypt] at held
  exact held

/-- What arrives later stands behind what is there. -/
theorem exists_plain_eq_append (counted : port.codec.decrypted ≤ port.inbox.length)
    (octets : Bytes) : ∃ more, port.plain octets = port.plain [] ++ more := by
  have counted' : (port.inlet none).Counted := counted
  obtain ⟨more, longer⟩ := Codec.Inlet.buffer_decrypt_arrive counted' octets
  refine ⟨more, ?_⟩
  rw [← buffer_decrypt_arrive counted octets, longer, ← inlet_decrypt, ← inbox_decrypt counted]
  rfl

/-! ### One call -/

/-- A frame has come off the front of all that the port will hold. -/
structure Takes (port : Port engine) (frame : Bytes) (after : Port engine) : Prop where
  packer : after.codec.packer = port.codec.packer
  counted : after.codec.decrypted ≤ after.inbox.length
  shorter : after.inbox.length < port.inbox.length
  /-- What is left has been decrypted. -/
  left : after.inbox = after.plain []
  splits : ∀ more, Frame.split? (port.plain more) = .ok (some (frame, after.plain more))

/-- What a call comes to, `opened` telling what is in a frame. -/
inductive Decodes (opened : Bytes → Except Fault Bytes) (port : Port engine) :
    EStateM.Result Fault (Port engine) (Option Bytes) → Prop where
  | idle {after : Port engine} (packer : after.codec.packer = port.codec.packer)
    (counted : after.codec.decrypted ≤ after.inbox.length)
    (waits : Frame.split? (port.plain []) = .ok none)
    (same : ∀ more, after.plain more = port.plain more) : Decodes opened port (.ok none after)
  /-- The length of the next frame is too long, whatever arrives. -/
  | stuck {fault : Fault} {after : Port engine} (packer : after.codec.packer = port.codec.packer)
    (counted : after.codec.decrypted ≤ after.inbox.length)
    (whole : after.inbox.length = port.inbox.length)
    (overlong : ∀ more, Frame.split? (port.plain more) = .error fault) :
    Decodes opened port (.error fault after)
  | taken {frame payload : Bytes} {after : Port engine} (takes : port.Takes frame after)
    (holds : opened frame = .ok payload) : Decodes opened port (.ok (some payload) after)
  | refused {frame : Bytes} {fault : Fault} {after : Port engine} (takes : port.Takes frame after)
    (refuses : opened frame = .error fault) : Decodes opened port (.error fault after)

/-- A frame that is at the front comes off, and the count goes down by its length. -/
theorem takes_of_split? (counted : port.codec.decrypted ≤ port.inbox.length) {frame rest : Bytes}
    (split : Frame.split? port.decrypt.inbox = .ok (some (frame, rest))) :
    port.Takes frame { port.decrypt with
      codec := port.decrypt.codec.advance (port.decrypt.inbox.length - rest.length)
      inbox := rest } := by
  let after : Port engine := { port.decrypt with
    codec := port.decrypt.codec.advance (port.decrypt.inbox.length - rest.length)
    inbox := rest }
  have counted' : (port.inlet none).Counted := counted
  -- The inlet beneath the port takes the same frame, and what an inlet takes does not depend on
  -- what arrives later.
  have found : (port.inlet none).decrypt.takeFrame = .ok (some (frame, after.inlet none)) := by
    rw [← inlet_decrypt]
    exact Codec.Inlet.takeFrame_of_split? split
  have left : after.codec.decrypted ≤ after.inbox.length := counted'.decrypt.takeFrame found
  have splits (more : Bytes) :
      Frame.split? (port.plain more) = .ok (some (frame, after.plain more)) := by
    have later := Codec.takeFrame_decrypt_arrive counted' found more
    rw [← buffer_decrypt_arrive counted, ← buffer_decrypt_arrive left]
    exact (Codec.Inlet.takeFrame_eq_some later).1
  have rest_eq : rest = after.plain [] := by
    have now := splits []
    rw [← inbox_decrypt counted, split] at now
    exact (Prod.mk.inj (Option.some.inj (Except.ok.inj now))).2
  refine ⟨packer_decrypt port, left, ?_, rest_eq, splits⟩
  rw [← length_decrypt port]
  exact Frame.length_lt_of_split? split

/-- **A call takes a frame, whatever is in it**, or there is none to take. -/
theorem decodes (resets : engine.ResetsInflater) {packer : Packer engine}
    (packs : port.codec.packer = some packer) (fresh : packer.Fresh)
    (counted : port.codec.decrypted ≤ port.inbox.length) (level : Nat) :
    port.Decodes (Packer.opened engine packer.threshold level) (decode port) := by
  have held := inbox_decrypt counted
  have counted' : (port.inlet none).Counted := counted
  have settled : port.decrypt.codec.decrypted ≤ port.decrypt.inbox.length := by
    have kept := counted'.decrypt
    rw [← inlet_decrypt] at kept
    exact kept
  rw [decode]
  rcases split : Frame.split? port.decrypt.inbox with fault | _ | ⟨frame, rest⟩
  · refine .stuck (packer_decrypt port) settled (length_decrypt port) fun more => ?_
    obtain ⟨behind, longer⟩ := exists_plain_eq_append counted more
    rw [longer, ← held]
    exact Frame.split?_append_error behind split
  · refine .idle (packer_decrypt port) settled (held ▸ split) fun more => ?_
    rw [← buffer_decrypt_arrive settled, ← buffer_decrypt_arrive counted, inlet_decrypt,
      Codec.Inlet.decrypt_arrive counted']
  · have takes := takes_of_split? counted split
    have packs' := takes.packer.trans packs
    dsimp only at packs' ⊢
    rw [BufferedCodec.unframe_of_fresh resets packs' fresh level]
    rcases opens : Packer.opened engine packer.threshold level frame with fault | payload
    · exact .refused takes opens
    · exact .taken takes opens

/-! ### Calling on -/

/-- What calling on came to. -/
structure Received (engine : Zlib.Engine) where
  /-- What was in each frame, or why it was refused. -/
  results : List (Except Fault Bytes)
  /-- The fault of the length at which there is no next frame. -/
  fault : Option Fault
  port : Port engine

/-- Decodes until no frame is complete, and on after a fault for as long as frames come off. -/
def decodeAll (port : Port engine) : Received engine :=
  match _decoded : decode port with
  | .ok none after => ⟨[], none, after⟩
  | .ok (some payload) after =>
    let later := decodeAll after
    { later with results := .ok payload :: later.results }
  | .error fault after =>
    if _shorter : after.inbox.length < port.inbox.length then
      let later := decodeAll after
      { later with results := .error fault :: later.results }
    else ⟨[], some fault, after⟩
termination_by port.inbox.length
decreasing_by
  · exact length_lt_of_decode _decoded
  · exact _shorter

/-- Decodes what is there, and again after each chunk that arrives.  After a length that is too long
nothing is decoded any more. -/
def receive : List Bytes → Port engine → Received engine
  | [], port => decodeAll port
  | chunk :: rest, port =>
    let before := decodeAll port
    match before.fault with
    | some _ => before
    | none =>
      let later := receive rest (before.port.arrive chunk)
      { later with results := before.results ++ later.results }

end Port

namespace Frame

/-- What is in each frame of some octets, and the fault of the length at which there is no next
one. -/
def openEach (opened : Bytes → Except Fault Bytes) (octets : Bytes) :
    List (Except Fault Bytes) × Option Fault :=
  ((splitAll octets).1.map opened, (splitAll octets).2)

variable {opened : Bytes → Except Fault Bytes} {octets frame rest : Bytes}

theorem openEach_of_some (split : split? octets = .ok (some (frame, rest))) :
    openEach opened octets =
      (opened frame :: (openEach opened rest).1, (openEach opened rest).2) := by
  rw [openEach, splitAll_of_some split]
  rfl

theorem openEach_of_none (split : split? octets = .ok none) : openEach opened octets = ([], none) := by
  rw [openEach, splitAll_of_none split]
  rfl

theorem openEach_of_error {fault : Fault} (split : split? octets = .error fault) :
    openEach opened octets = ([], some fault) := by
  rw [openEach, splitAll_of_error split]
  rfl

end Frame

namespace Port

variable {opened : Bytes → Except Fault Bytes} {port after : Port engine} {later : Received engine}

/-- Calling on has told of the frames that a port holds, and of no others. -/
structure Received.Tells (received : Received engine) (opened : Bytes → Except Fault Bytes)
    (port : Port engine) : Prop where
  packer : received.port.codec.packer = port.codec.packer
  counted : received.port.codec.decrypted ≤ received.port.inbox.length
  stops : ∀ fault, received.fault = some fault → ∀ more,
    Frame.openEach opened (port.plain more) = (received.results, some fault)
  waits : received.fault = none → Frame.split? (received.port.plain []) = .ok none
  goesOn : received.fault = none → ∀ more,
    Frame.openEach opened (port.plain more) =
      (received.results ++ (Frame.openEach opened (received.port.plain more)).1,
        (Frame.openEach opened (received.port.plain more)).2)

/-- One frame more, at the front. -/
theorem Takes.tells {frame : Bytes} (takes : port.Takes frame after)
    (tells : later.Tells opened after) :
    { later with results := opened frame :: later.results : Received engine }.Tells opened port where
  packer := tells.packer.trans takes.packer
  counted := tells.counted
  stops fault stopped more := by
    rw [Frame.openEach_of_some (takes.splits more), tells.stops fault stopped more]
  waits := tells.waits
  goesOn none more := by
    rw [Frame.openEach_of_some (takes.splits more), tells.goesOn none more]
    rfl

/-- **Calling on tells of each frame what a new packer finds in it.** -/
theorem tells_decodeAll (resets : engine.ResetsInflater) {packer : Packer engine}
    (packs : port.codec.packer = some packer) (fresh : packer.Fresh)
    (counted : port.codec.decrypted ≤ port.inbox.length) (level : Nat) :
    (decodeAll port).Tells (Packer.opened engine packer.threshold level) port := by
  -- On the frames that come off: each is told of, and the port behind it holds the others.
  fun_induction decodeAll port with
  | case1 port after decoded =>
    have call := decodes resets packs fresh counted level
    rw [decoded] at call
    cases call with
    | idle same left waits plain =>
      refine ⟨same, left, nofun, fun _ => ?_, fun _ more => ?_⟩
      · rw [plain]
        exact waits
      · rw [plain]
        rfl
  | case2 port payload after decoded later ih =>
    have call := decodes resets packs fresh counted level
    rw [decoded] at call
    cases call with
    | taken takes holds =>
      rw [← holds]
      exact takes.tells (ih (takes.packer.trans packs) takes.counted)
  | case3 port fault after decoded shorter later ih =>
    have call := decodes resets packs fresh counted level
    rw [decoded] at call
    cases call with
    | stuck same left whole overlong =>
      -- Nothing came off, so the buffer would not be shorter.
      omega
    | refused takes refuses =>
      rw [← refuses]
      exact takes.tells (ih (takes.packer.trans packs) takes.counted)
  | case4 port fault after decoded whole =>
    have call := decodes resets packs fresh counted level
    rw [decoded] at call
    cases call with
    | stuck same left _ overlong =>
      refine ⟨same, left, ?_, nofun, nofun⟩
      rintro _ ⟨⟩ more
      exact Frame.openEach_of_error (overlong more)
    | refused takes refuses => exact absurd takes.shorter whole

/-- **However the octets arrive, each frame is told of on its own.** -/
theorem receive_eq_openEach (resets : engine.ResetsInflater) {packer : Packer engine}
    (packs : port.codec.packer = some packer) (fresh : packer.Fresh)
    (counted : port.codec.decrypted ≤ port.inbox.length) (level : Nat) (chunks : List Bytes) :
    ((receive chunks port).results, (receive chunks port).fault) =
      Frame.openEach (Packer.opened engine packer.threshold level) (port.plain chunks.flatten) := by
  induction chunks generalizing port with
  | nil =>
    have tells := tells_decodeAll resets packs fresh counted level
    rw [receive, List.flatten_nil]
    cases stops : (decodeAll port).fault with
    | some fault => exact (tells.stops fault stops []).symm
    | none =>
      rw [tells.goesOn stops, Frame.openEach_of_none (tells.waits stops), List.append_nil]
  | cons chunk rest ih =>
    have tells := tells_decodeAll resets packs fresh counted level
    rw [receive, List.flatten_cons]
    cases stops : (decodeAll port).fault with
    | some fault =>
      simp only [stops]
      exact (tells.stops fault stops _).symm
    | none =>
      have arrived : ((decodeAll port).port.arrive chunk).codec.decrypted ≤
          ((decodeAll port).port.arrive chunk).inbox.length :=
        Nat.le_trans tells.counted (by simp [arrive])
      have later := @ih ((decodeAll port).port.arrive chunk) (tells.packer.trans packs) arrived
      rw [plain_arrive tells.counted] at later
      rw [tells.goesOn stops, ← later]

/-! ### The decompressor is new before every call -/

theorem fresh_encode (fresh : port.codec.Fresh) (payload : Bytes) :
    (stateOf (encode payload port)).codec.Fresh := by
  have kept := fresh.frame payload
  rw [encode]
  rcases framed : BufferedCodec.frame payload port.codec with ⟨⟨⟩, codec⟩ | ⟨fault, codec⟩ <;>
    rw [framed] at kept
  · change codec.encrypt.2.Fresh
    rw [BufferedCodec.Fresh, BufferedCodec.packer_encrypt]
    exact kept
  · exact kept

theorem fresh_decode (resets : engine.ResetsInflater) (fresh : port.codec.Fresh) :
    (stateOf (decode port)).codec.Fresh := by
  have fresh' : port.decrypt.codec.Fresh := by
    rw [BufferedCodec.Fresh, packer_decrypt]
    exact fresh
  rw [decode]
  rcases Frame.split? port.decrypt.inbox with fault | _ | ⟨frame, inbox⟩
  · exact fresh'
  · exact fresh'
  · have advanced :
        (port.decrypt.codec.advance (port.decrypt.inbox.length - inbox.length)).Fresh := fresh'
    have kept := advanced.unframe resets frame
    dsimp only
    rcases unframed : BufferedCodec.unframe frame (port.decrypt.codec.advance _) with
      ⟨payload, codec⟩ | ⟨fault, codec⟩ <;> rw [unframed] at kept <;> exact kept

theorem fresh_step (resets : engine.ResetsInflater) (fresh : port.codec.Fresh) (call : Call) :
    (port.step call).2.codec.Fresh := by
  cases call with
  | encode payload =>
    change (told (encode payload port)).2.codec.Fresh
    rw [snd_told]
    exact fresh_encode fresh payload
  | decode =>
    change (told (decode port)).2.codec.Fresh
    rw [snd_told]
    exact fresh_decode resets fresh
  | enableCompression threshold level =>
    rintro packer ⟨⟩
    rfl
  | enableEncryption secret => exact fresh
  | handle change => exact fresh

theorem fresh_run (resets : engine.ResetsInflater) (fresh : port.codec.Fresh) (calls : List Call) :
    (port.run calls).2.codec.Fresh := by
  induction calls generalizing port with
  | nil => exact fresh
  | cons call rest ih => exact ih (fresh_step resets fresh call)

/-- **A frame that is refused costs itself alone.**  At whatever point of a run, and whatever of the
stream has been decrypted: the call that refuses an envelope takes just its frame off the buffer, and
what is left, with all that is to arrive, is what stood behind that frame.  A caller that calls on,
however the octets arrive, is told of each frame of the stream what a new packer of the same threshold
finds in it. -/
theorem refused_frame_costs_itself (resets : engine.ResetsInflater) (earlier : List Call)
    (inbox outbox : Bytes) {packer : Packer engine}
    (packs : (({} : Port engine).run earlier).2.codec.packer = some packer)
    (counted : (({} : Port engine).run earlier).2.codec.decrypted ≤ inbox.length) (level : Nat) :
    let port : Port engine := { codec := (({} : Port engine).run earlier).2.codec, inbox, outbox }
    let opened := Packer.opened engine packer.threshold level
    (∀ head frame rest fault, port.plain [] = head ++ rest →
      Frame.split? head = .ok (some (frame, [])) → opened frame = .error fault →
      ∃ after, decode port = .error fault after ∧ after.inbox = rest ∧
        ∀ more, port.plain more = head ++ after.plain more) ∧
    ∀ chunks, ((receive chunks port).results, (receive chunks port).fault) =
      Frame.openEach opened (port.plain chunks.flatten) := by
  intro port opened
  have new : ({} : Port engine).codec.Fresh := nofun
  have fresh : packer.Fresh := fresh_run resets new earlier packer packs
  replace packs : port.codec.packer = some packer := packs
  replace counted : port.codec.decrypted ≤ port.inbox.length := counted
  refine ⟨?_, receive_eq_openEach resets packs fresh counted level⟩
  intro head frame rest fault held whole refused
  have front : Frame.split? (port.plain []) = .ok (some (frame, rest)) := by
    rw [held]
    exact Frame.split?_append_some rest whole
  have call : port.Decodes opened (decode port) :=
    decodes resets packs fresh counted level
  generalize decode port = result at call
  cases call with
  | idle same left waits plain => rw [front] at waits; cases waits
  | stuck same left length overlong => rw [overlong] at front; cases front
  | taken takes holds =>
    rw [takes.splits] at front
    cases front
    rw [holds] at refused
    cases refused
  | refused takes refuses =>
    rename_i after
    rw [takes.splits] at front
    cases front
    rw [refuses] at refused
    cases refused
    refine ⟨_, rfl, takes.left, fun more => ?_⟩
    obtain ⟨behind, longer⟩ := exists_plain_eq_append counted more
    have later := takes.splits more
    rw [longer, held, List.append_assoc, Frame.split?_append_some _ whole] at later
    have plain : after.plain [] ++ behind = after.plain more :=
      (Prod.mk.inj (Option.some.inj (Except.ok.inj later))).2
    rw [longer, held, List.append_assoc, plain]

/-- A stream that is corrupt and a payload behind it, both encrypted: all at once, and octet by
octet. -/
theorem refused_frame_costs_itself_sealed :
    let engine : Zlib.Engine := .ofLibrary .standard
    let secret : SharedSecret := ⟨List.replicate 16 1, rfl⟩
    let codec : BufferedCodec engine :=
      (({} : Port engine).run [.enableCompression 2 6, .enableEncryption secret]).2.codec
    let sent := ((Duplex.ofSecret secret).encrypt [3, 2, 255, 255, 2, 0, 7]).1
    engine.ResetsInflater ∧ codec.packer = some (.new 2 6) ∧ codec.decrypted = 0 ∧
      (∃ after, decode { codec, inbox := sent } = .error (.badEnvelope .corrupt) after ∧
        after.inbox = [2, 0, 7]) ∧
      (receive (sent.map ([·])) { codec }).results = [.error (.badEnvelope .corrupt), .ok [7]] := by
  intro engine secret codec sent
  have resets : engine.ResetsInflater := Zlib.Engine.resetsInflater_ofLibrary .standard
  let earlier : List Call := [.enableCompression 2 6, .enableEncryption secret]
  have plain : ((Duplex.ofSecret secret).decrypt sent).1 = [3, 2, 255, 255, 2, 0, 7] :=
    congrArg Prod.fst (Cfb8.decrypt_encrypt (Duplex.ofSecret secret).outbound
      [3, 2, 255, 255, 2, 0, 7])
  refine ⟨resets, rfl, rfl, ?_, ?_⟩
  · obtain ⟨after, failed, left, -⟩ :=
      (refused_frame_costs_itself resets earlier sent [] rfl (Nat.zero_le _) 6).1
        [3, 2, 255, 255] [2, 255, 255] [2, 0, 7] (.badEnvelope .corrupt)
        ((congrArg (fun held => ((Duplex.ofSecret secret).decrypt held).1)
          (List.append_nil sent)).trans plain) rfl rfl
    exact ⟨after, failed, left⟩
  · have told := (refused_frame_costs_itself resets earlier [] [] rfl (Nat.le_refl 0) 6).2
      (sent.map ([·]))
    have whole : (sent.map ([·])).flatten = sent := by
      rw [← List.flatMap_def, List.flatMap_singleton']
    rw [whole] at told
    refine (congrArg Prod.fst told).trans ?_
    change (Frame.openEach _ ((Duplex.ofSecret secret).decrypt sent).1).1 = _
    have first : Frame.split? [3, 2, 255, 255, 2, 0, 7] = .ok (some ([2, 255, 255], [2, 0, 7])) :=
      rfl
    have second : Frame.split? [2, 0, 7] = .ok (some ([0, 7], [])) := rfl
    rw [plain, Frame.openEach_of_some first, Frame.openEach_of_some second,
      Frame.openEach_of_none rfl]
    rfl

end Port

end GameTransport
