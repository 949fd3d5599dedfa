import GameTransport.Proofs.Envelopes
import GameTransport.Proofs.Histories
import GameTransport.Proofs.Inlets

/-! # Octets that go out under a secret

Once encryption is turned on, every frame leaves the codec encrypted, in one stream from the secret on
(`Codec.Under.sealed`).  Nothing that a conversation does ends that, but for turning encryption on
anew (`Conversation.under_perform`).
-/

namespace GameTransport

variable {α : Type}

namespace Codec

/-- What leaves the codec is encrypted under a secret. -/
def Under (secret : SharedSecret) (codec : Codec) : Prop :=
  ∃ earlier, codec.outbound? = some ((Duplex.ofSecret secret).outbound.encrypt earlier).2

variable {secret : SharedSecret} {codec after : Codec} {z : Zlib.Library} {payload sent : Bytes}

theorem under_enableEncryption (codec : Codec) (secret : SharedSecret) :
    (codec.enableEncryption secret).Under secret := ⟨[], rfl⟩

theorem Under.encode (under : codec.Under secret)
    (encoded : Codec.encode z payload codec = .ok sent after) : after.Under secret := by
  obtain ⟨earlier, stream⟩ := under
  obtain ⟨frame, -, ⟨off, -, -⟩ | ⟨cipher, on, -, rfl⟩⟩ := encode_eq_ok encoded
  · rw [outbound?, off] at stream
    cases stream
  · rw [outbound?, on] at stream
    injection stream with stream
    refine ⟨earlier ++ frame, ?_⟩
    rw [Cfb8.encrypt_append, ← stream]
    rfl

/-- What is encoded under a secret is the frame, encrypted. -/
theorem Under.sealed (under : codec.Under secret)
    (encoded : Codec.encode z payload codec = .ok sent after) :
    ∃ earlier frame, codec.frame z payload = .ok frame ∧
      sent = (((Duplex.ofSecret secret).outbound.encrypt earlier).2.encrypt frame).1 := by
  obtain ⟨earlier, stream⟩ := under
  obtain ⟨frame, framed, ⟨off, -, -⟩ | ⟨cipher, on, same, -⟩⟩ := encode_eq_ok encoded
  · rw [outbound?, off] at stream
    cases stream
  · rw [outbound?, on] at stream
    injection stream with stream
    refine ⟨earlier, frame, framed, ?_⟩
    rw [same, ← stream]
    rfl

/-- Decoding leaves the stream out alone. -/
theorem outbound?_decode (inlet : Inlet) :
    (stateOf (decode z inlet)).codec.outbound? = inlet.codec.outbound? := by
  rw [← Inlet.outbound?_decrypt inlet, decode]
  rcases taken : inlet.decrypt.takeFrame with fault | _ | ⟨frame, rest⟩
  · rfl
  · rfl
  · obtain ⟨-, codec⟩ := Inlet.takeFrame_eq_some taken
    have same : rest.codec.outbound? = inlet.decrypt.codec.outbound? := by
      rw [codec]
      rfl
    dsimp only
    rcases rest.codec.unframe z frame with fault | payload <;> exact same

end Codec

namespace Conversation

variable {z : Zlib.Library} {c d : Conversation α} {secret : SharedSecret}

theorem under_feed (under : c.codec.Under secret) (packet : Bytes) :
    (stateOf (feed z packet c)).codec.Under secret := by
  simp only [feed, codec_of_room]
  rcases encoded : Codec.encode z packet c.codec with ⟨octets, codec⟩ | ⟨fault, codec⟩
  · exact under.encode encoded
  · rw [← Codec.encode_eq_error encoded] at under
    exact under

/-- So does every action, unless it turns encryption on. -/
theorem under_perform {registries : StateRegistries (Session α)} {action : Action} {goesOn : Bool}
    (under : c.codec.Under secret) (other : ∀ secret, action ≠ .enableEncryption secret)
    (performed : perform z registries action c = .ok goesOn d) : d.codec.Under secret := by
  cases action with
  | send packet =>
    have fed := under_feed (z := z) under packet
    rw [perform] at performed
    rcases out : feed z packet c with ⟨_, e⟩ | ⟨fault, e⟩ <;> rw [out] at performed fed <;>
      cases performed
    exact fed
  | enableCompression threshold level => cases performed; exact under
  | enableEncryption secret => exact absurd rfl (other secret)
  | transition target =>
    by_cases allowed : c.state.canMoveTo target
    · rw [perform_transition_of_canMoveTo allowed] at performed
      cases performed
      exact under
    · rw [perform_transition_of_not_canMoveTo allowed] at performed
      cases performed
  | disconnect => cases performed; exact under

/-- A quiet step stays under the secret. -/
theorem Quiet.under (quiet : Quiet z c d) (under : c.codec.Under secret) : d.codec.Under secret := by
  cases quiet with
  | counted change => exact under
  | wrote outgoing written => exact under
  | decoded buffer =>
    obtain ⟨earlier, stream⟩ := under
    exact ⟨earlier, (Codec.outbound?_decode _).trans stream⟩
  | fed packet => exact under_feed under packet

end Conversation

end GameTransport
