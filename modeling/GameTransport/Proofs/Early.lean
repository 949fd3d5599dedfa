import GameTransport.Proofs.Conversations
import GameTransport.Proofs.Mirrors

/-! # Octets that have arrived early

Between two reads a connection has answered all that is complete.  What has arrived early, with an
earlier read, differs from what arrives late in one way only: it may be decrypted already.  That is
the relation `Inlet.Early`, and whatever a conversation does keeps it, up to one action.  Turning
encryption on decrypts anew what is in the buffer, also what is decrypted already; `redecrypted` says
how many octets that concerns each time.

What a conversation does sees little of its codec, so it keeps every relation of codecs that respects
that little (`Codec.Likeness`, `Conversation.Tracks`); `Inlet.likeness_early` is the case of octets that
have arrived early.
-/

namespace GameTransport

/-! ## Octets that have arrived early -/

namespace Codec

namespace Inlet

/-- The second inlet is the first with octets that arrived early. -/
def Early (late : Bytes) (inlet other : Inlet) : Prop :=
  other = inlet.arrive late ∨ other = (inlet.arrive late).decrypt

variable {late buffer buffer' : Bytes} {inlet other : Inlet} {codec codec' : Codec}

/-- Decryption leaves the other stream and the compression alone. -/
theorem decrypt_withOutbound (stream : Cfb8) :
    (Inlet.mk (codec.withOutbound stream) buffer).decrypt =
      { (Inlet.mk codec buffer).decrypt with
        codec := (Inlet.mk codec buffer).decrypt.codec.withOutbound stream } := by
  obtain ⟨compression, _ | cipher, decrypted⟩ := codec
  · rfl
  · unfold decrypt withOutbound
    dsimp only [Option.map_some]
    rcases buffer.drop decrypted with _ | ⟨b, rest⟩ <;> rfl

theorem decrypt_enableCompression (threshold level : Nat) :
    (Inlet.mk (codec.enableCompression threshold level) buffer).decrypt =
      { (Inlet.mk codec buffer).decrypt with
        codec := (Inlet.mk codec buffer).decrypt.codec.enableCompression threshold level } := by
  obtain ⟨compression, _ | cipher, decrypted⟩ := codec
  · rfl
  · unfold decrypt enableCompression
    dsimp only
    rcases buffer.drop decrypted with _ | ⟨b, rest⟩ <;> rfl

/-- Where nothing is decrypted in the end, decryption was of no effect. -/
theorem decrypt_eq_self (counted : inlet.Counted) (nothing : inlet.decrypt.codec.decrypted = 0) :
    inlet.decrypt = inlet := by
  cases on : inlet.codec.cipher with
  | none => exact decrypt_of_none on
  | some cipher =>
    rw [decrypt_of_some counted on] at nothing
    exact decrypt_of_empty (List.length_eq_zero_iff.mp nothing)

namespace Early

theorem refl (inlet : Inlet) : Early [] inlet inlet := .inl (arrive_nil).symm

theorem decrypt_eq (counted : inlet.Counted) (early : Early late inlet other) :
    other.decrypt = (inlet.arrive late).decrypt := by
  rcases early with rfl | rfl
  · rfl
  · exact decrypt_decrypt (counted.arrive late)

theorem decode_eq {z : Zlib.Library} (counted : inlet.Counted) (early : Early late inlet other) :
    decode z other = decode z (inlet.arrive late) :=
  decode_congr (early.decrypt_eq counted)

theorem compression_eq (early : Early late ⟨codec, buffer⟩ ⟨codec', buffer'⟩) :
    codec'.compression = codec.compression := by
  rcases early with same | same
  · exact congrArg (·.codec.compression) same
  · exact (congrArg (·.codec.compression) same).trans compression_decrypt

theorem outbound?_eq (early : Early late ⟨codec, buffer⟩ ⟨codec', buffer'⟩) :
    codec'.outbound? = codec.outbound? := by
  rcases early with same | same
  · exact congrArg (·.codec.outbound?) same
  · exact (congrArg (·.codec.outbound?) same).trans (outbound?_decrypt _)

theorem withOutbound (early : Early late ⟨codec, buffer⟩ ⟨codec', buffer'⟩) (stream : Cfb8) :
    Early late ⟨codec.withOutbound stream, buffer⟩ ⟨codec'.withOutbound stream, buffer'⟩ := by
  rcases early with same | same
  · cases same
    exact .inl rfl
  · refine .inr ?_
    unfold arrive at same ⊢
    rw [decrypt_withOutbound, ← same]

theorem enableCompression (early : Early late ⟨codec, buffer⟩ ⟨codec', buffer'⟩)
    (threshold level : Nat) :
    Early late ⟨codec.enableCompression threshold level, buffer⟩
      ⟨codec'.enableCompression threshold level, buffer'⟩ := by
  rcases early with same | same
  · cases same
    exact .inl rfl
  · refine .inr ?_
    unfold arrive at same ⊢
    rw [decrypt_enableCompression, ← same]

/-- Encryption may be turned on where no octet is decrypted. -/
theorem enableEncryption (counted : (Inlet.mk codec buffer).Counted)
    (early : Early late ⟨codec, buffer⟩ ⟨codec', buffer'⟩) (clean : codec'.decrypted = 0)
    (secret : SharedSecret) :
    Early late ⟨codec.enableEncryption secret, buffer⟩
      ⟨codec'.enableEncryption secret, buffer'⟩ := by
  -- Nothing is decrypted ahead, so what has arrived still stands as it arrived.
  have same : (⟨codec', buffer'⟩ : Inlet) = (Inlet.mk codec buffer).arrive late := by
    rcases early with same | same
    · exact same
    · have nothing := congrArg (·.codec.decrypted) same
      rw [same]
      exact decrypt_eq_self (counted.arrive late) (nothing.symm.trans clean)
  cases same
  exact .inl rfl

end Early

end Inlet

/-- A relation of codecs that encode alike, kept by all that a conversation does to both: encryption is
turned on where the second has an allowed number of octets decrypted. -/
structure Likeness (allowed : Nat → Prop) (Like : Codec → Codec → Prop) : Prop where
  compression_eq {codec codec' : Codec} : Like codec codec' → codec'.compression = codec.compression
  outbound?_eq {codec codec' : Codec} : Like codec codec' → codec'.outbound? = codec.outbound?
  withOutbound {codec codec' : Codec} : Like codec codec' → ∀ stream : Cfb8,
    Like (codec.withOutbound stream) (codec'.withOutbound stream)
  enableCompression {codec codec' : Codec} : Like codec codec' → ∀ threshold level : Nat,
    Like (codec.enableCompression threshold level) (codec'.enableCompression threshold level)
  enableEncryption {codec codec' : Codec} : Like codec codec' → allowed codec'.decrypted →
    ∀ secret : SharedSecret, Like (codec.enableEncryption secret) (codec'.enableEncryption secret)

/-- The second of two codecs is the first where octets have arrived early. -/
def Inlet.LikeEarly (late buffer buffer' : Bytes) (codec codec' : Codec) : Prop :=
  (Inlet.mk codec buffer).Counted ∧ Inlet.Early late ⟨codec, buffer⟩ ⟨codec', buffer'⟩

theorem Inlet.likeness_early (late buffer buffer' : Bytes) :
    Likeness (· = 0) (Inlet.LikeEarly late buffer buffer') where
  compression_eq alike := alike.2.compression_eq
  outbound?_eq alike := alike.2.outbound?_eq
  withOutbound alike stream := ⟨alike.1, alike.2.withOutbound stream⟩
  enableCompression alike threshold level := ⟨alike.1, alike.2.enableCompression threshold level⟩
  enableEncryption alike clean secret := ⟨Nat.zero_le _, alike.2.enableEncryption alike.1 clean secret⟩

end Codec

namespace Conversation

variable {α : Type} (z : Zlib.Library) (registries : StateRegistries (Session α))

/-! ## Octets that are decrypted again -/

/-- How many octets of the buffer are decrypted already when an action turns encryption on. -/
def redecryptedBy (action : Action) (c : Conversation α) : List Nat :=
  match action with
  | .enableEncryption _ => [c.codec.decrypted]
  | .send _ | .enableCompression _ _ | .transition _ | .disconnect => []

/-- The same for each action of a batch that is carried out. -/
def redecryptedAll : List Action → Conversation α → List Nat
  | [], _ => []
  | action :: rest, c =>
    redecryptedBy action c ++
      match perform z registries action c with
      | .ok true c => redecryptedAll rest c
      | .ok false _ | .error _ _ => []

/-- The same for all batches. -/
def redecryptedOut (c : Conversation α) : List Nat :=
  if _pending : c.session.hasPendingActions then
    redecryptedAll z registries c.takeBatch.1 c.takeBatch.2 ++
      match _performed : performAll z registries c.takeBatch.1 c.takeBatch.2 with
      | .ok true c => redecryptedOut c
      | .ok false _ | .error _ _ => []
  else []
termination_by c.batchesLeft
decreasing_by exact batchesLeft_lt_of_performAll z registries _pending _performed

/-- The same for the answer to a payload. -/
def redecryptedIn (payload : Bytes) (c : Conversation α) : List Nat :=
  match dispatch registries payload (c.count Metrics.received) with
  | .ok _ c => redecryptedOut z registries c
  | .error _ _ => []

/-- The same for the payloads of a buffer. -/
def redecrypted (buffer : Bytes) (c : Conversation α) : List Nat :=
  match _decoded : Codec.decode z ⟨c.codec, buffer⟩ with
  | .ok (some payload) inlet =>
    redecryptedIn z registries payload { c with codec := inlet.codec } ++
      match answer z registries payload { c with codec := inlet.codec } with
      | .ok true c => redecrypted inlet.buffer c
      | .ok false _ | .error _ _ => []
  | .ok none _ | .error _ _ => []
termination_by buffer.length
decreasing_by exact Codec.length_lt_of_decode _decoded

/-! ## The same conversation with octets that have arrived early -/

/-- The conversation with another codec. -/
def withCodec (c : Conversation α) (codec : Codec) : Conversation α := { c with codec }

open Codec (Inlet)

variable {z registries}

theorem redecryptedOut_of_pending {c : Conversation α} (pending : c.session.hasPendingActions) :
    redecryptedOut z registries c =
      redecryptedAll z registries c.takeBatch.1 c.takeBatch.2 ++
        match performAll z registries c.takeBatch.1 c.takeBatch.2 with
        | .ok true d => redecryptedOut z registries d
        | .ok false _ | .error _ _ => [] := by
  rw [redecryptedOut, dif_pos pending]
  congr 1
  split
  · rename_i performed; rw [performed]
  · rename_i performed; rw [performed]
  · rename_i performed; rw [performed]

theorem redecrypted_of_some {c : Conversation α} {buffer payload : Bytes} {inlet : Inlet}
    (decoded : Codec.decode z ⟨c.codec, buffer⟩ = .ok (some payload) inlet) :
    redecrypted z registries buffer c =
      redecryptedIn z registries payload { c with codec := inlet.codec } ++
        match answer z registries payload { c with codec := inlet.codec } with
        | .ok true d => redecrypted z registries inlet.buffer d
        | .ok false _ | .error _ _ => [] := by
  rw [redecrypted]
  split
  · rename_i other; rw [decoded] at other; cases other; rfl
  · rename_i other; rw [decoded] at other; cases other
  · rename_i other; rw [decoded] at other; cases other

theorem redecrypted_of_none {c : Conversation α} {buffer : Bytes} {inlet : Inlet}
    (idle : Codec.decode z ⟨c.codec, buffer⟩ = .ok none inlet) :
    redecrypted z registries buffer c = [] := by
  rw [redecrypted]
  split
  · rename_i other; rw [idle] at other; cases other
  · rfl
  · rfl

theorem redecrypted_of_error {c : Conversation α} {buffer : Bytes} {inlet : Inlet} {fault : Fault}
    (failed : Codec.decode z ⟨c.codec, buffer⟩ = .error fault inlet) :
    redecrypted z registries buffer c = [] := by
  rw [redecrypted]
  split
  · rename_i other; rw [failed] at other; cases other
  · rfl
  · rfl

/-- The second of two results is the first with another codec, one that is like it. -/
def Tracks {β : Type} (Like : Codec → Codec → Prop) :
    EStateM.Result Fault (Conversation α) β → EStateM.Result Fault (Conversation α) β → Prop
  | .ok value c, other =>
    ∃ codec, other = .ok value (c.withCodec codec) ∧ Like c.codec codec
  | .error fault c, other => ∃ codec, other = .error fault (c.withCodec codec)

section Alike

variable {allowed : Nat → Prop} {Like : Codec → Codec → Prop} {c : Conversation α} {codec : Codec}

/-- Encoding sees nothing of what has arrived. -/
theorem tracks_encode (like : Codec.Likeness allowed Like) (alike : Like c.codec codec)
    (packet : Bytes) :
    Tracks Like
      (match Codec.encode z packet c.codec with
      | .ok octets codec => .ok () { c with codec, outgoing := c.outgoing ++ octets }
      | .error fault codec => .error fault { c with codec })
      (match Codec.encode z packet codec with
      | .ok octets codec => .ok () { c with codec, outgoing := c.outgoing ++ octets }
      | .error fault codec => .error fault { c with codec }) := by
  rw [Codec.encode_eq, Codec.encode_eq, Codec.frame_congr (like.compression_eq alike),
    like.outbound?_eq alike]
  rcases Codec.frame z c.codec packet with fault | frame
  · exact ⟨codec, rfl⟩
  · rcases c.codec.outbound? with _ | stream
    · exact ⟨codec, rfl, alike⟩
    · exact ⟨_, rfl, like.withOutbound alike _⟩

theorem tracks_feed (like : Codec.Likeness allowed Like) (alike : Like c.codec codec)
    (packet : Bytes) : Tracks Like (feed z packet c) (feed z packet (c.withCodec codec)) := by
  unfold feed
  by_cases full : highWater ≤ c.outgoing.length
  · have full' : highWater ≤ (c.withCodec codec).outgoing.length := full
    simp only [if_pos full, if_pos full']
    exact @tracks_encode α z allowed Like c.flush codec like alike packet
  · have full' : ¬ highWater ≤ (c.withCodec codec).outgoing.length := full
    simp only [if_neg full, if_neg full']
    exact tracks_encode like alike packet

theorem tracks_perform (like : Codec.Likeness allowed Like) (alike : Like c.codec codec)
    (action : Action) (clean : ∀ count ∈ redecryptedBy action (c.withCodec codec), allowed count) :
    Tracks Like (perform z registries action c)
      (perform z registries action (c.withCodec codec)) := by
  cases action with
  | send packet =>
    have fed := tracks_feed (z := z) like alike packet
    unfold perform
    dsimp only
    rcases sent : feed z packet c with ⟨_, d⟩ | ⟨fault, d⟩
    · rw [sent] at fed
      obtain ⟨codec', same, alike'⟩ := fed
      rw [same]
      exact ⟨codec', rfl, alike'⟩
    · rw [sent] at fed
      obtain ⟨codec', same⟩ := fed
      rw [same]
      exact ⟨codec', rfl⟩
  | enableCompression threshold level =>
    exact ⟨_, rfl, like.enableCompression alike threshold level⟩
  | enableEncryption secret =>
    exact ⟨_, rfl, like.enableEncryption alike (clean codec.decrypted List.mem_cons_self) secret⟩
  | transition target =>
    unfold perform move
    dsimp only [withCodec]
    rcases registries.transition c.state target c.session with fault | session
    · exact ⟨codec, rfl⟩
    · exact ⟨codec, rfl, alike⟩
  | disconnect => exact ⟨codec, rfl, alike⟩

theorem tracks_performAll (like : Codec.Likeness allowed Like) (alike : Like c.codec codec)
    (batch : List Action)
    (clean : ∀ count ∈ redecryptedAll z registries batch (c.withCodec codec), allowed count) :
    Tracks Like (performAll z registries batch c)
      (performAll z registries batch (c.withCodec codec)) := by
  induction batch generalizing c codec with
  | nil => exact ⟨codec, rfl, alike⟩
  | cons action rest ih =>
    rw [redecryptedAll] at clean
    have first := @tracks_perform α z registries allowed Like c codec like alike action
      fun count member => clean count (List.mem_append_left _ member)
    rw [performAll, performAll]
    rcases performed : perform z registries action c with ⟨_ | _, d⟩ | ⟨fault, d⟩
    · rw [performed] at first
      obtain ⟨codec', same, alike'⟩ := first
      rw [same]
      exact ⟨codec', rfl, alike'⟩
    · rw [performed] at first
      obtain ⟨codec', same, alike'⟩ := first
      rw [same] at clean ⊢
      exact ih alike' fun count member => clean count (List.mem_append_right _ member)
    · rw [performed] at first
      obtain ⟨codec', same⟩ := first
      rw [same]
      exact ⟨codec', rfl⟩

theorem tracks_batch (like : Codec.Likeness allowed Like) (alike : Like c.codec codec)
    (pending : c.session.hasPendingActions)
    (clean : ∀ count ∈ redecryptedOut z registries (c.withCodec codec), allowed count) :
    Tracks Like (performAll z registries c.takeBatch.1 c.takeBatch.2)
      (performAll z registries (c.withCodec codec).takeBatch.1 (c.withCodec codec).takeBatch.2) := by
  rw [@redecryptedOut_of_pending α z registries (c.withCodec codec) pending] at clean
  exact @tracks_performAll α z registries allowed Like c.takeBatch.2 codec like alike c.takeBatch.1
    fun count member => clean count (List.mem_append_left _ member)

theorem tracks_carryOut (like : Codec.Likeness allowed Like) (alike : Like c.codec codec)
    (clean : ∀ count ∈ redecryptedOut z registries (c.withCodec codec), allowed count) :
    Tracks Like (carryOut z registries c) (carryOut z registries (c.withCodec codec)) := by
  fun_induction carryOut z registries c generalizing codec with
  | case1 c pending d performed ih =>
    have pending' : (c.withCodec codec).session.hasPendingActions := pending
    have batch := tracks_batch like alike pending clean
    rw [performed] at batch
    obtain ⟨codec', same, alike'⟩ := batch
    rw [redecryptedOut_of_pending pending', same] at clean
    rw [carryOut_of_pending pending', same]
    exact ih alike' fun count member => clean count (List.mem_append_right _ member)
  | case2 c pending d performed =>
    have pending' : (c.withCodec codec).session.hasPendingActions := pending
    have batch := tracks_batch like alike pending clean
    rw [performed] at batch
    obtain ⟨codec', same, alike'⟩ := batch
    rw [carryOut_of_pending pending', same]
    exact ⟨codec', rfl, alike'⟩
  | case3 c pending fault d performed =>
    have pending' : (c.withCodec codec).session.hasPendingActions := pending
    have batch := tracks_batch like alike pending clean
    rw [performed] at batch
    obtain ⟨codec', same⟩ := batch
    rw [carryOut_of_pending pending', same]
    exact ⟨codec', rfl⟩
  | case4 c idle =>
    have idle' : ¬ (c.withCodec codec).session.hasPendingActions := idle
    rw [carryOut_of_idle idle']
    exact ⟨codec, rfl, alike⟩

theorem tracks_answer (like : Codec.Likeness allowed Like) (alike : Like c.codec codec)
    (payload : Bytes)
    (clean : ∀ count ∈ redecryptedIn z registries payload (c.withCodec codec), allowed count) :
    Tracks Like (answer z registries payload c)
      (answer z registries payload (c.withCodec codec)) := by
  unfold redecryptedIn dispatch active at clean
  unfold answer dispatch active
  dsimp only [withCodec, count] at clean ⊢
  rcases dispatched : (registries.active c.state).dispatch payload
    (c.session.count Metrics.received) with ⟨outcome, session⟩ | ⟨fault, session⟩
  · rw [dispatched] at clean
    have out := @tracks_carryOut α z registries allowed Like { c with session } codec like alike clean
    dsimp only [withCodec] at out ⊢
    rcases carried : carryOut z registries { c with session } with ⟨goesOn, d⟩ | ⟨fault, d⟩
    · rw [carried] at out
      obtain ⟨codec', same, alike'⟩ := out
      rw [same]
      exact ⟨codec', rfl, alike'⟩
    · rw [carried] at out
      obtain ⟨codec', same⟩ := out
      rw [same]
      exact ⟨codec', rfl⟩
  · exact ⟨codec, rfl⟩

end Alike

variable {late buffer buffer' : Bytes} {c : Conversation α} {codec : Codec}

/-! ## Draining before and after octets arrive -/

/-- Draining sees the codec and the buffer in their normal form only. -/
theorem drain_congr (same : (Inlet.mk codec buffer').decrypt = (Inlet.mk c.codec buffer).decrypt) :
    drain z registries buffer' (c.withCodec codec) = drain z registries buffer c := by
  have decoded : Codec.decode z ⟨(c.withCodec codec).codec, buffer'⟩ =
      Codec.decode z ⟨c.codec, buffer⟩ := Codec.decode_congr same
  rcases outcome : Codec.decode z ⟨c.codec, buffer⟩ with ⟨_ | payload, inlet⟩ | ⟨fault, inlet⟩
  · rw [drain_of_none outcome, drain_of_none (decoded.trans outcome)]
    rfl
  · rw [drain_of_some outcome, drain_of_some (decoded.trans outcome)]
    rfl
  · rw [drain_of_error outcome, drain_of_error (decoded.trans outcome)]
    rfl

theorem redecrypted_congr
    (same : (Inlet.mk codec buffer').decrypt = (Inlet.mk c.codec buffer).decrypt) :
    redecrypted z registries buffer' (c.withCodec codec) = redecrypted z registries buffer c := by
  have decoded : Codec.decode z ⟨(c.withCodec codec).codec, buffer'⟩ =
      Codec.decode z ⟨c.codec, buffer⟩ := Codec.decode_congr same
  rcases outcome : Codec.decode z ⟨c.codec, buffer⟩ with ⟨_ | payload, inlet⟩ | ⟨fault, inlet⟩
  · rw [redecrypted_of_none outcome, redecrypted_of_none (decoded.trans outcome)]
  · rw [redecrypted_of_some outcome, redecrypted_of_some (decoded.trans outcome)]
    rfl
  · rw [redecrypted_of_error outcome, redecrypted_of_error (decoded.trans outcome)]

/-- What draining comes to where octets have arrived early, said by what it comes to without them:
the same, or the same as if they arrived then. -/
def Drains (z : Zlib.Library) (registries : StateRegistries (Session α)) (late : Bytes) :
    EStateM.Result Fault (Conversation α) (Option Bytes) →
      EStateM.Result Fault (Conversation α) (Option Bytes) → Prop
  | .ok (some rest) c, other =>
    (Inlet.mk c.codec rest).Counted ∧ other = drain z registries (rest ++ late) c ∧
      ∀ count ∈ redecrypted z registries (rest ++ late) c, count = 0
  | .ok none c, other => ∃ codec, other = .ok none (c.withCodec codec)
  | .error fault c, other => ∃ codec, other = .error fault (c.withCodec codec)

/-- A payload that is decoded is decoded and answered where octets have arrived early. -/
theorem tracks_decoded {payload : Bytes} {inlet : Inlet}
    (decoded : Codec.decode z ⟨c.codec, buffer⟩ = .ok (some payload) inlet)
    (counted : (Inlet.mk c.codec buffer).Counted)
    (early : Inlet.Early late ⟨c.codec, buffer⟩ ⟨codec, buffer'⟩)
    (clean : ∀ count ∈ redecrypted z registries buffer' (c.withCodec codec), count = 0) :
    Codec.decode z ⟨(c.withCodec codec).codec, buffer'⟩ =
        .ok (some payload) (inlet.arrive late).decrypt ∧
      Tracks (Inlet.LikeEarly late inlet.buffer (inlet.arrive late).decrypt.buffer)
        (answer z registries payload { c with codec := inlet.codec })
        (answer z registries payload
          { c.withCodec codec with codec := (inlet.arrive late).decrypt.codec }) := by
  have sees : Codec.decode z ⟨(c.withCodec codec).codec, buffer'⟩ = _ :=
    (early.decode_eq counted).trans (Codec.decode_arrive_some counted decoded late)
  rw [redecrypted_of_some sees] at clean
  refine ⟨sees, ?_⟩
  exact @tracks_answer α z registries _ _ { c with codec := inlet.codec }
    (inlet.arrive late).decrypt.codec (Inlet.likeness_early _ _ _)
    ⟨counted.decode_some decoded, .inr rfl⟩ payload
    fun count member => clean count (List.mem_append_left _ member)

/-- **Octets that arrive while a buffer is answered may as well arrive after it.** -/
theorem drains_early (counted : (Inlet.mk c.codec buffer).Counted)
    (early : Inlet.Early late ⟨c.codec, buffer⟩ ⟨codec, buffer'⟩)
    (clean : ∀ count ∈ redecrypted z registries buffer' (c.withCodec codec), count = 0) :
    Drains z registries late (drain z registries buffer c)
      (drain z registries buffer' (c.withCodec codec)) := by
  fun_induction drain z registries buffer c generalizing codec buffer' with
  | case1 buffer c fault inlet failed =>
    -- A frame that is refused is refused whatever stands behind it.
    have sees : Codec.decode z ⟨(c.withCodec codec).codec, buffer'⟩ = _ :=
      (early.decode_eq counted).trans (Codec.decode_arrive_error counted failed late)
    exact ⟨(inlet.arrive late).decrypt.codec, (drain_of_error sees).trans rfl⟩
  | case2 buffer c inlet idle =>
    -- Nothing was complete, and the call has left the normal form of what it was given.
    obtain rfl := Codec.decode_eq_none idle
    have same : (Inlet.mk codec buffer').decrypt =
        ((Inlet.mk c.codec buffer).decrypt.arrive late).decrypt := by
      rw [early.decrypt_eq counted, Inlet.decrypt_arrive counted]
    refine ⟨counted.decrypt, ?_, ?_⟩
    · exact @drain_congr α z registries _ _ { c with codec := _ } codec same
    · rw [← @redecrypted_congr α z registries _ _ { c with codec := _ } codec same]
      exact clean
  | case3 buffer c payload inlet decoded d answered ih =>
    -- The answer sees nothing of what stands behind its payload, and leaves it arrived early.
    obtain ⟨sees, given⟩ := tracks_decoded decoded counted early clean
    rw [answered] at given
    obtain ⟨codec', same, counted', early'⟩ := given
    rw [redecrypted_of_some sees, same] at clean
    rw [drain_of_some sees, same]
    exact ih counted' early' fun count member => clean count (List.mem_append_right _ member)
  | case4 buffer c payload inlet decoded d answered =>
    obtain ⟨sees, given⟩ := tracks_decoded decoded counted early clean
    rw [answered] at given
    obtain ⟨codec', same, -, -⟩ := given
    rw [drain_of_some sees, same]
    exact ⟨codec', rfl⟩
  | case5 buffer c payload inlet decoded fault d answered =>
    obtain ⟨sees, given⟩ := tracks_decoded decoded counted early clean
    rw [answered] at given
    obtain ⟨codec', same⟩ := given
    rw [drain_of_some sees, same]
    exact ⟨codec', rfl⟩

end Conversation

end GameTransport
