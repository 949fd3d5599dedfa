import GameTransport.Packet.Status
import GameTransport.Proofs.Early

/-! # Encryption that is turned on with every packet

A handler may turn encryption on more than once.  The first time, what stands in the buffer behind
the packet is decrypted for the first time (`drain_request`).  Each later time it is decrypted
already and is decrypted again, so what a frame was encrypted to is lost (`decode_along`).
-/

namespace GameTransport.Conversation

open Codec (Inlet)

variable {α : Type} {z : Zlib.Library} {registries : StateRegistries (Session α)}
  {c : Conversation α} {secret : SharedSecret}

/-- Turns encryption on, each time anew. -/
def rekey (secret : SharedSecret) : Handler (Session α) StatusRequest :=
  fun _ => modify (·.enableEncryption secret)

/-- Registries of which the first has that handler. -/
def rekeying (secret : SharedSecret) : StateRegistries (Session α) :=
  let empty : Registry.Builder (Session α) := { name := "" }
  { handshaking := (empty.addWith (rekey secret)).build
    status := empty.build
    login := empty.build
    play := empty.build }

/-- The frame of a packet for that handler. -/
def request : Bytes := [1, 0]

/-- The same frame, the first that is encrypted. -/
def sealed (secret : SharedSecret) : Bytes := ((Duplex.ofSecret secret).outbound.encrypt request).1

/-- A conversation that every packet gives another key. -/
structure Ready (c : Conversation α) : Prop where
  state : c.state = .handshaking
  actions : c.session.actions = []
  compression : c.codec.compression = none

/-- The layers after a packet for that handler. -/
def keyed (secret : SharedSecret) : Codec := { cipher := some (.ofSecret secret) }

/-- What a packet leaves of it. -/
def rekeyed (secret : SharedSecret) (c : Conversation α) : Conversation α :=
  { c.flush.count Metrics.received with codec := keyed secret }

theorem Ready.rekeyed (ready : c.Ready) : (c.rekeyed secret).Ready :=
  ⟨ready.state, ready.actions, rfl⟩

/-- The conversation after the handler and before what it queued. -/
def queued (secret : SharedSecret) (c : Conversation α) : Conversation α :=
  { c with session := (c.session.count Metrics.received).enableEncryption secret }

theorem dispatch_rekeying (ready : c.Ready) :
    dispatch (rekeying secret) [0] (c.count Metrics.received) =
      .ok ⟨0, "StatusRequest", true⟩ (c.queued secret) := by
  obtain ⟨session, state, codec, outgoing, written⟩ := c
  obtain ⟨rfl, -, -⟩ := ready
  rfl

theorem pending_queued (ready : c.Ready) :
    (c.queued secret).session.hasPendingActions ∧
      (c.queued secret).takeBatch.1 = [.enableEncryption secret] := by
  have queue : (c.queued secret).session.actions = [.enableEncryption secret] := by
    change c.session.actions ++ [_] = _
    rw [ready.actions, List.nil_append]
  refine ⟨?_, queue⟩
  unfold Session.hasPendingActions
  rw [queue]
  rfl

/-- The conversation after the action and before what is encoded is written. -/
def switched (secret : SharedSecret) (c : Conversation α) : Conversation α :=
  { c.count Metrics.received with codec := keyed secret }

theorem idle_switched (ready : c.Ready) : ¬ (c.switched secret).session.hasPendingActions := by
  change ¬ (!c.session.actions.isEmpty) = true
  rw [ready.actions]
  exact Bool.false_ne_true

theorem performAll_rekeying (ready : c.Ready) :
    performAll z (rekeying secret) (c.queued secret).takeBatch.1 (c.queued secret).takeBatch.2 =
      .ok true (c.switched secret) := by
  obtain ⟨session, state, ⟨compression, cipher, decrypted⟩, outgoing, written⟩ := c
  obtain ⟨rfl, actions, none'⟩ := ready
  cases none'
  obtain ⟨id, peer, state, server, version, username, uuid, token, actions', entropy, app⟩ := session
  cases actions
  rfl

theorem answer_rekeying (ready : c.Ready) :
    answer z (rekeying secret) [0] c = .ok true (c.rekeyed secret) := by
  unfold answer
  rw [dispatch_rekeying ready]
  dsimp only
  rw [carryOut_of_pending (pending_queued ready).1, performAll_rekeying ready]
  dsimp only
  rw [carryOut_of_idle (idle_switched ready)]
  rfl

theorem redecryptedIn_rekeying (ready : c.Ready) :
    redecryptedIn z (rekeying secret) [0] c = [c.codec.decrypted] := by
  obtain ⟨pending, batch⟩ := @pending_queued α c secret ready
  unfold redecryptedIn
  rw [dispatch_rekeying ready]
  dsimp only
  rw [redecryptedOut_of_pending pending, performAll_rekeying ready, batch]
  dsimp only
  rw [redecryptedOut, dif_neg (idle_switched ready)]
  rfl

theorem frame_request : Frame.encode [0] = .ok request := by
  rw [Frame.encode_of_le (by decide), Varint.encode_of_lt (by decide)]
  rfl

theorem encode_request : Codec.encode z [0] {} = .ok request {} :=
  Codec.encode_of_none frame_request rfl

theorem encode_sealed :
    Codec.encode z [0] (keyed secret) = .ok (sealed secret)
      { cipher := some ((Duplex.ofSecret secret).encrypt request).2 } :=
  Codec.encode_of_some (show (keyed secret).frame z [0] = .ok request from frame_request) rfl

theorem decode_request (lawful : z.RoundTrips) (rest : Bytes) :
    Codec.decode z ⟨{}, request ++ rest⟩ = .ok (some [0]) ⟨{}, rest⟩ := by
  have mirrored : Codec.Mirrored {} {} := ⟨rfl, rfl, rfl⟩
  exact mirrored.decode_plain lawful (List.cons_ne_nil 0 []) encode_request rfl rest

/-- What stands after the first frame that is encrypted, decrypted along with it. -/
def along (secret : SharedSecret) (rest : Bytes) : Inlet :=
  ((Inlet.mk ((keyed secret).heard (sealed secret)) []).arrive rest).decrypt

theorem along_eq (rest : Bytes) :
    along secret rest =
      { codec :=
          { (keyed secret) with
            cipher := some (((Duplex.ofSecret secret).decrypt (sealed secret)).2.decrypt rest).2
            decrypted := rest.length }
        buffer := (((Duplex.ofSecret secret).decrypt (sealed secret)).2.decrypt rest).1 } :=
  Inlet.decrypt_of_some (Nat.zero_le _) rfl

theorem decode_sealed (lawful : z.RoundTrips) (rest : Bytes) :
    Codec.decode z ⟨keyed secret, sealed secret ++ rest⟩ = .ok (some [0]) (along secret rest) := by
  have mirrored : Codec.Mirrored (keyed secret) (keyed secret) := ⟨rfl, rfl, rfl⟩
  have decoded := (mirrored.decode_encode lawful (List.cons_ne_nil 0 []) encode_sealed).1
  exact Codec.decode_arrive_some (Nat.zero_le _) decoded rest

theorem drain_nil : drain z registries [] c = .ok (some []) c :=
  drain_of_none (Codec.decode_of_empty rfl)

theorem redecrypted_nil : redecrypted z registries [] c = [] :=
  redecrypted_of_none (Codec.decode_of_empty rfl)

/-- A frame in plain octets is answered, and what stands after it is decrypted for the first
time. -/
theorem drain_request (lawful : z.RoundTrips) (ready : c.Ready) (fresh : c.codec = {})
    (rest : Bytes) :
    drain z (rekeying secret) (request ++ rest) c =
        drain z (rekeying secret) rest (c.rekeyed secret) ∧
      redecrypted z (rekeying secret) (request ++ rest) c =
        0 :: redecrypted z (rekeying secret) rest (c.rekeyed secret) := by
  obtain ⟨session, state, codec, outgoing, written⟩ := c
  cases fresh
  have decoded := @decode_request z lawful rest
  constructor
  · rw [drain_of_some decoded, answer_rekeying ready]
  · rw [redecrypted_of_some decoded, answer_rekeying ready, redecryptedIn_rekeying ready]
    rfl

/-- An encrypted frame is answered, and what stands after it is decrypted again. -/
theorem drain_sealed (lawful : z.RoundTrips) (ready : c.Ready) (on : c.codec = keyed secret)
    (rest : Bytes) :
    drain z (rekeying secret) (sealed secret ++ rest) c =
        drain z (rekeying secret) (along secret rest).buffer (c.rekeyed secret) ∧
      redecrypted z (rekeying secret) (sealed secret ++ rest) c =
        rest.length :: redecrypted z (rekeying secret) (along secret rest).buffer
          (c.rekeyed secret) := by
  obtain ⟨session, state, codec, outgoing, written⟩ := c
  cases on
  have decoded := @decode_sealed z secret lawful rest
  have ready' : Ready ⟨session, state, (along secret rest).codec, outgoing, written⟩ := by
    refine ⟨ready.state, ready.actions, ?_⟩
    rw [along_eq]
    rfl
  constructor
  · rw [drain_of_some decoded, answer_rekeying ready']
    rfl
  · rw [redecrypted_of_some decoded, answer_rekeying ready', redecryptedIn_rekeying ready']
    dsimp only
    rw [along_eq]
    rfl

/-- Where the second of two streams has come in between, the first does not undo itself. -/
theorem decrypt_decrypt_encrypt (stream other : Cfb8) :
    ∃ b, (stream.decrypt (other.decrypt (stream.encrypt request).1).1).1 = [1 ^^^ other.mask, b] := by
  have undone : 1 ^^^ stream.mask ^^^ other.mask ^^^ stream.mask = 1 ^^^ other.mask := by
    rw [UInt8.xor_assoc 1, UInt8.xor_assoc 1, UInt8.xor_comm stream.mask, UInt8.xor_assoc,
      UInt8.xor_self, UInt8.xor_zero]
  exact ⟨_, congrArg (· :: _) undone⟩

/-- The octet that such a frame begins with. -/
def clash (secret : SharedSecret) : UInt8 :=
  1 ^^^ ((Duplex.ofSecret secret).outbound.encrypt request).2.mask

/-- A frame that was decrypted along with the one before it and is decrypted again is one that has
not all arrived. -/
theorem decode_along (long : 1 < (clash secret).toNat) (short : clash secret < 128) :
    ∃ inlet : Inlet, inlet.buffer ≠ [] ∧
      Codec.decode z ⟨keyed secret, (along secret (sealed secret)).buffer⟩ = .ok none inlet := by
  have undone : (Duplex.ofSecret secret).inbound.decrypt (sealed secret) =
      (request, ((Duplex.ofSecret secret).outbound.encrypt request).2) :=
    Cfb8.decrypt_encrypt (Duplex.ofSecret secret).outbound request
  obtain ⟨b, again⟩ := decrypt_decrypt_encrypt (Duplex.ofSecret secret).outbound
    ((Duplex.ofSecret secret).outbound.encrypt request).2
  have settled : (Inlet.mk (keyed secret) (along secret (sealed secret)).buffer).decrypt.buffer =
      [clash secret, b] := by
    rw [Inlet.decrypt_of_some (Nat.zero_le _) rfl, along_eq]
    dsimp only [Duplex.decrypt]
    rw [undone]
    exact again
  have incomplete : Frame.split? [clash secret, b] = .ok none := by
    unfold Frame.split? Frame.length? Frame.maxLengthSize
    rw [Frame.lengthWithin_cons_of_lt short]
    dsimp only
    rw [if_pos (by simp only [List.length_cons, List.length_nil]; omega)]
  refine ⟨(Inlet.mk (keyed secret) (along secret (sealed secret)).buffer).decrypt, ?_, ?_⟩
  · rw [settled]
    exact List.cons_ne_nil _ _
  · unfold Codec.decode
    dsimp only
    unfold Inlet.takeFrame
    rw [settled, incomplete]
    rfl

end GameTransport.Conversation
