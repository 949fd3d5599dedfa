import GameTransport.Proofs.Accord
import Mathlib

/-! # Codecs that are switched in step agree

Both facts about two peers, that each keeps to the plan and that each direction is in accord, are
kept by every step (`InStep.step`), so they hold in every course of the two.  They leave `decode`
two answers where no switch is due and all octets have arrived: the next payload, or nothing where
all are decoded (`InStep.decode_settled`).
-/

namespace GameTransport.Codec

variable {z : Zlib.Library} {plan : Plan}

/-! ## All steps -/

/-- Both peers keep to the plan, both directions are in accord, and no call of `decode` failed. -/
structure InStep (z : Zlib.Library) (plan : Plan) (pair : Pair) : Prop where
  keeps : ∀ side, ∃ made, Keeps plan side (pair.peer side) made
  accord : ∀ side, ∃ frames, Accord z plan side (pair.peer side) (pair.peer side.other)
    (pair.transit side.other) frames
  faultless : ∀ side, (pair.peer side).fault? = none

namespace InStep

variable {pair later : Pair} {actor : Side}

theorem start (z : Zlib.Library) (plan : Plan) : InStep z plan (.start plan) where
  keeps := fun side => ⟨[], Keeps.start plan side⟩
  accord := fun side => ⟨[], Accord.start z plan side⟩
  faultless := fun _ => rfl

/-- What the sides are to each other is said from the actor's side. -/
theorem of_actor (inStep : InStep z plan pair) (actor : Side)
    (idle : later.peer actor.other = pair.peer actor.other)
    (keeps : ∃ made, Keeps plan actor (later.peer actor) made)
    (out : ∃ frames, Accord z plan actor (later.peer actor) (pair.peer actor.other)
      (later.transit actor.other) frames)
    (back : ∃ frames, Accord z plan actor.other (pair.peer actor.other) (later.peer actor)
      (later.transit actor) frames)
    (faultless : (later.peer actor).fault? = none) : InStep z plan later := by
  refine ⟨fun side => ?_, fun side => ?_, fun side => ?_⟩
  · rcases side.eq_or_eq_other actor with rfl | rfl
    · exact keeps
    · exact idle ▸ inStep.keeps actor.other
  · rcases side.eq_or_eq_other actor with rfl | rfl
    · exact idle.symm ▸ out
    · rw [Side.other_other, idle]
      exact back
  · rcases side.eq_or_eq_other actor with rfl | rfl
    · exact faultless
    · exact idle ▸ inStep.faultless actor.other

/-- A peer that changes nothing that the other side can see. -/
theorem setPeer {peer : Peer} (inStep : InStep z plan pair)
    (keeps : ∃ made, Keeps plan actor peer made)
    (out : ∀ frames, Accord z plan actor (pair.peer actor) (pair.peer actor.other)
      (pair.transit actor.other) frames →
        Accord z plan actor peer (pair.peer actor.other) (pair.transit actor.other) frames)
    (back : ∀ frames, Accord z plan actor.other (pair.peer actor.other) (pair.peer actor)
      (pair.transit actor) frames →
        Accord z plan actor.other (pair.peer actor.other) peer (pair.transit actor) frames)
    (faultless : peer.fault? = none) : InStep z plan (pair.setPeer actor peer) := by
  obtain ⟨frames, outward⟩ := inStep.accord actor
  obtain ⟨frames', inward⟩ := inStep.accord actor.other
  rw [Side.other_other] at inward
  refine inStep.of_actor actor (pair.peer_setPeer_other actor peer) ?_ ?_ ?_ ?_
  · rw [Pair.peer_setPeer]
    exact keeps
  · rw [Pair.peer_setPeer]
    exact ⟨frames, out frames outward⟩
  · rw [Pair.peer_setPeer]
    exact ⟨frames', back frames' inward⟩
  · rw [Pair.peer_setPeer]
    exact faultless

variable (lawful : z.RoundTrips) (inStep : InStep z plan pair)
  (early : ¬ (pair.peer actor).Due actor)

theorem accord_back (inStep : InStep z plan pair) (actor : Side) :
    ∃ frames, Accord z plan actor.other (pair.peer actor.other) (pair.peer actor)
      (pair.transit actor) frames := by
  have := inStep.accord actor.other
  rwa [Side.other_other] at this

include inStep early

theorem ahead_of_lt
    (more : (pair.peer actor).decoded.length < (pair.peer actor.other).encoded.length) :
    ∀ switch ∈ (pair.peer actor).pending,
      (pair.peer actor).decoded.length < switch.sent actor.other := by
  obtain ⟨made, receives⟩ := inStep.keeps actor
  obtain ⟨passed, sends⟩ := inStep.keeps actor.other
  obtain ⟨frames, answers⟩ := inStep.accord actor
  exact lt_of_pending receives sends answers.length_le early more

include lawful

/-- Where no switch is due, a call of `decode` after all has arrived gives the next payload, or
nothing where all are decoded. -/
theorem decode_settled :
    (∃ payload after,
      (pair.peer actor.other).encoded[(pair.peer actor).decoded.length]? = some payload ∧
      decode z ((pair.peer actor).inlet.arrive (pair.transit actor)) =
        .ok (some payload) after) ∨
    ((pair.peer actor).decoded = (pair.peer actor.other).encoded ∧
      ((pair.peer actor).inlet.settled (pair.transit actor)).buffer = [] ∧
      decode z ((pair.peer actor).inlet.arrive (pair.transit actor)) =
        .ok none ((pair.peer actor).inlet.settled (pair.transit actor))) := by
  obtain ⟨made, receives⟩ := inStep.keeps actor
  obtain ⟨frames, accord⟩ := inStep.accord_back actor
  rcases Nat.lt_or_eq_of_le accord.length_le with more | all
  · have next := List.getElem?_eq_getElem more
    obtain ⟨after, call, -⟩ :=
      accord.decode_eq_some lawful receives (inStep.ahead_of_lt early more) next
    exact .inl ⟨_, after, next, call⟩
  · exact .inr ⟨accord.heard.eq_of_length all, accord.decode_eq_none receives all⟩

theorem decode_ne_error {fault : Fault} {after : Inlet} :
    decode z (pair.peer actor).inlet ≠ .error fault after := by
  intro call
  obtain ⟨made, receives⟩ := inStep.keeps actor
  have failed := decode_arrive_error receives.counted call (pair.transit actor)
  rcases inStep.decode_settled lawful early with ⟨payload, later, -, call'⟩ | ⟨-, -, call'⟩
  · rw [failed] at call'
    cases call'
  · rw [failed] at call'
    cases call'

/-- A payload that is decoded is the next of those that the other side encoded. -/
theorem next_of_decode {payload : Bytes} {after : Inlet}
    (call : decode z (pair.peer actor).inlet = .ok (some payload) after) :
    (pair.peer actor.other).encoded[(pair.peer actor).decoded.length]? = some payload := by
  obtain ⟨made, receives⟩ := inStep.keeps actor
  have given := decode_arrive_some receives.counted call (pair.transit actor)
  rcases inStep.decode_settled lawful early with ⟨payload', later, next, call'⟩ | ⟨-, -, call'⟩
  · rw [given] at call'
    cases call'
    exact next
  · rw [given] at call'
    cases call'

end InStep

/-- **Every step keeps both peers in step.** -/
theorem InStep.step {pair later : Pair} {actor : Side} (lawful : z.RoundTrips)
    (inStep : InStep z plan pair) (step : Step z actor pair later) : InStep z plan later := by
  obtain ⟨made, keeps⟩ := inStep.keeps actor
  obtain ⟨passed, other⟩ := inStep.keeps actor.other
  have faultless := inStep.faultless actor
  cases step with
  | @encoded payload octets codec nonempty room call =>
    obtain ⟨frames, out⟩ := inStep.accord actor
    obtain ⟨frames', back⟩ := inStep.accord_back actor
    have sent := keeps.send room call
    -- The other direction sees the stream in and the buffer of this side, which stay the same.
    have unseen : Accord z plan actor.other (pair.peer actor.other)
        ((pair.peer actor).send payload codec) (pair.transit actor) frames' :=
      back.congr_receiver rfl (Inlet.settled_congr sent.counted rfl (decrypted_encode call)
        (inbound?_encode call))
    refine inStep.of_actor actor (by simp) ⟨made, ?_⟩ ?_ ⟨frames', ?_⟩ ?_
    · simpa using sent
    · simpa using out.send keeps other nonempty room call
    · rw [Pair.transit_setTransit_of_other, Pair.transit_setPeer]
      simpa using unseen
    · rw [Pair.peer_setTransit, Pair.peer_setPeer]
      exact faultless
  | refused early call =>
    obtain rfl := encode_eq_error call
    exact inStep.setPeer ⟨made, keeps⟩ (fun _ out => out) (fun _ back => back) faultless
  | @delivered octets rest way =>
    obtain ⟨frames, out⟩ := inStep.accord actor
    obtain ⟨frames', back⟩ := inStep.accord_back actor
    have unseen : Accord z plan actor ((pair.peer actor).receive octets)
        (pair.peer actor.other) (pair.transit actor.other) frames :=
      out.congr_sender rfl rfl
    -- Octets that were on the way are part of what the receiver comes to hold already.
    have arrived : Accord z plan actor.other (pair.peer actor.other)
        ((pair.peer actor).receive octets) rest frames' := by
      refine back.congr_receiver rfl ?_
      rw [way, Peer.receive, Inlet.settled_arrive]
      exact ⟨rfl, rfl⟩
    refine inStep.of_actor actor (by simp) ⟨made, ?_⟩ ⟨frames, ?_⟩ ⟨frames', ?_⟩ ?_
    · simpa using keeps.arrive octets
    · rw [Pair.transit_setTransit_other, Pair.transit_setPeer]
      simpa using unseen
    · simpa using arrived
    · rw [Pair.peer_setTransit, Pair.peer_setPeer]
      exact faultless
  | decoded early call =>
    have next := inStep.next_of_decode lawful early call
    have ahead := inStep.ahead_of_lt early (List.getElem?_eq_some_iff.mp next).1
    refine inStep.setPeer ⟨made, keeps.take ahead call⟩ (fun _ out => ?_) (fun _ back => ?_) faultless
    · exact out.congr_sender rfl (outbound?_of_decode_some call)
    · exact back.take lawful keeps ahead next call
  | idled early call =>
    refine inStep.setPeer ⟨made, keeps.idle call⟩ (fun _ out => ?_) (fun _ back => ?_) faultless
    · obtain rfl := Codec.decode_eq_none call
      exact out.congr_sender rfl (Inlet.outbound?_decrypt _)
    · obtain rfl := Codec.decode_eq_none call
      exact back.congr_receiver rfl (by rw [Inlet.settled_decrypt keeps.counted]; exact ⟨rfl, rfl⟩)
  | failed early call => exact absurd call (inStep.decode_ne_error lawful early)
  | switched next due =>
    refine inStep.setPeer ⟨_, keeps.switch next due⟩ (fun _ out => ?_) (fun _ back => ?_) faultless
    · exact out.switch_sender keeps next due
    · exact back.switch_receiver keeps next due

/-- Every course of two peers that keep to a plan keeps them in step. -/
theorem Course.inStep {pair : Pair} (lawful : z.RoundTrips) (course : Course z plan pair) :
    InStep z plan pair := by
  induction course with
  | start => exact InStep.start z plan
  | step before step ih => exact ih.step lawful step

/-! ## The receiver alone comes to the end -/

open Relation

/-- How many switches and payloads a side has before it. -/
def Pair.left (pair : Pair) (side : Side) : Nat :=
  (pair.peer side).pending.length +
    ((pair.peer side.other).encoded.length - (pair.peer side).decoded.length)

/-- A side that everything has reached makes the switches that are due and decodes all that was
sent, whatever the other side does. -/
theorem InStep.drains {pair : Pair} {actor : Side} (lawful : z.RoundTrips)
    (inStep : InStep z plan pair) (arrived : pair.transit actor = []) :
    ∃ later, ReflTransGen (Step z actor) pair later ∧ later.transit actor = [] ∧
      (later.peer actor).decoded = (pair.peer actor.other).encoded ∧
      (later.peer actor).inlet.buffer = [] ∧ (later.peer actor).fault? = none := by
  induction left : pair.left actor using Nat.strongRecOn generalizing pair with
  | ind count ih =>
    -- The other side is as it was after a step of this side that sends nothing.
    have goOn (peer : Peer) (step : Step z actor pair (pair.setPeer actor peer))
        (fewer : (pair.setPeer actor peer).left actor < count) :
        ∃ later, ReflTransGen (Step z actor) pair later ∧ later.transit actor = [] ∧
          (later.peer actor).decoded = (pair.peer actor.other).encoded ∧
          (later.peer actor).inlet.buffer = [] ∧ (later.peer actor).fault? = none := by
      obtain ⟨later, steps, ends⟩ := ih _ fewer (inStep.step lawful step) arrived rfl
      rw [Pair.peer_setPeer_other] at ends
      exact ⟨later, .head step steps, ends⟩
    unfold Pair.left at left goOn
    simp only [Pair.peer_setPeer, Pair.peer_setPeer_other] at goOn
    by_cases due : (pair.peer actor).Due actor
    · -- A switch that is due is made before anything else.
      obtain ⟨switch, head, reached⟩ := due
      obtain ⟨rest, next⟩ := List.head?_eq_some_iff.mp head
      refine goOn _ (.switched next reached) ?_
      simp only [Peer.switch]
      rw [next, List.length_cons] at left
      omega
    · rcases inStep.decode_settled lawful due with ⟨payload, after, next, call⟩ | ⟨all, empty, call⟩
      · rw [arrived, Inlet.arrive_nil] at call
        have more := (List.getElem?_eq_some_iff.mp next).1
        refine goOn _ (.decoded due call) ?_
        simp only [Peer.take, List.length_append, List.length_singleton]
        omega
      · rw [arrived] at empty
        rw [arrived, Inlet.arrive_nil] at call
        refine ⟨_, .single (.idled due call), arrived, ?_, ?_, ?_⟩
        · rw [Pair.peer_setPeer]
          exact all
        · rw [Pair.peer_setPeer]
          exact empty
        · rw [Pair.peer_setPeer]
          exact inStep.faultless actor

/-- **Two codecs that are switched in step agree.**  Whatever was called and delivered so far, no
call of `decode` failed, and what a side decoded is the front of what the other side encoded.  Where
all octets have reached it, no switch is due and `decode` has nothing to give, it is all of it, and
the buffer is empty.  A side comes there from everywhere: it is enough that the octets on the way
reach it and that it goes on. -/
theorem decoded_prefix_encoded {pair : Pair} (lawful : z.RoundTrips) (course : Course z plan pair)
    (side : Side) :
    let peer := pair.peer side
    let sent := (pair.peer side.other).encoded
    peer.fault? = none ∧ peer.decoded <+: sent ∧
      (∀ after, pair.transit side = [] → ¬ peer.Due side → decode z peer.inlet = .ok none after →
        peer.decoded = sent ∧ after.buffer = []) ∧
      ∃ later, ReflTransGen (Step z side) pair later ∧ later.transit side = [] ∧
        (later.peer side).decoded = sent ∧ (later.peer side).inlet.buffer = [] ∧
        (later.peer side).fault? = none := by
  intro peer sent
  have inStep := course.inStep lawful
  obtain ⟨frames, accord⟩ := inStep.accord_back side
  refine ⟨inStep.faultless side, accord.heard, ?_, ?_⟩
  · intro after arrived early call
    rcases inStep.decode_settled lawful early with ⟨payload, after', -, call'⟩ | ⟨all, empty, call'⟩
    · rw [arrived, Inlet.arrive_nil] at call'
      cases call.symm.trans call'
    · rw [arrived, Inlet.arrive_nil] at call'
      cases call.symm.trans call'
      exact ⟨all, arrived ▸ empty⟩
  · have delivery : Step z side pair ((pair.setPeer side (peer.receive (pair.transit side))).setTransit
        side []) := .delivered (List.append_nil _).symm
    obtain ⟨later, steps, arrived, all, ends⟩ :=
      (inStep.step lawful delivery).drains lawful (Pair.transit_setTransit ..)
    rw [Pair.peer_setTransit, Pair.peer_setPeer_other] at all
    exact ⟨later, .head delivery steps, arrived, all, ends⟩

/-- The codecs agree where compression and encryption are both turned on after the first payload of
one side, and the second payload has arrived, encrypted, before the other side has switched. -/
theorem decoded_prefix_encoded_of_early_ciphertext :
    let secret : SharedSecret := ⟨(List.range' 1 16).map UInt8.ofNat, rfl⟩
    let place : Side → Nat := fun side => if side = .near then 1 else 0
    let plan : Plan :=
      { switches := [⟨.compression 2 0, place⟩, ⟨.encryption secret, place⟩]
        rising := by simp
        once := by simp [Layer.isEncryption] }
    Zlib.Library.stored.RoundTrips ∧ ∃ pair, Course .stored plan pair ∧
      (pair.peer .near).encoded = [[7], [5, 6]] ∧ (pair.peer .far).decoded = [[7]] ∧
      (pair.peer .far).pending.length = 2 ∧ (pair.peer .far).inlet.buffer.length = 15 ∧
      ∃ later, ReflTransGen (Step .stored .far) pair later ∧
        (later.peer .far).decoded = [[7], [5, 6]] ∧ (later.peer .far).inlet.buffer = [] := by
  intro secret place plan
  let z := Zlib.Library.stored
  let frame : Bytes := [14, 2, 120, 156, 1, 2, 0, 253, 255, 5, 6, 0, 18, 0, 12]
  obtain ⟨octets, cipher, sealed⟩ :
      ∃ octets cipher, (Duplex.ofSecret secret).encrypt frame = (octets, cipher) := ⟨_, _, rfl⟩
  let compressing : Codec := ({} : Codec).enableCompression 2 0
  have short : encode z [7] {} = .ok [1, 7] {} := by
    simp [encode, Codec.frame, Frame.encode, Frame.maxPayload, Varint.encode_of_lt]
  have long : encode z [5, 6] (compressing.enableEncryption secret) =
      .ok octets { compressing.enableEncryption secret with cipher := some cipher } := by
    have stored : z.deflate 0 [5, 6] = [120, 156, 1, 2, 0, 253, 255, 5, 6, 0, 18, 0, 12] := by
      decide
    have framed : (compressing.enableEncryption secret).frame z [5, 6] = .ok frame := by
      simp [compressing, enableCompression, enableEncryption, Codec.frame, Compression.wrap,
        Compression.maxUncompressed, Frame.encode, Frame.maxPayload, Varint.encode_of_lt, bind,
        Except.bind, stored, frame]
    have call := encode_of_some framed rfl
    rw [sealed] at call
    exact call
  have taken : decode z ⟨{}, [1, 7] ++ octets⟩ = .ok (some [7]) ⟨{}, octets⟩ := by
    have front := @Inlet.takeFrame_of_split? ⟨{}, [1, 7] ++ octets⟩ [7] octets
      (@Frame.split?_append_some [1, 7] [7] [] octets rfl)
    dsimp only at front
    rw [Nat.zero_sub] at front
    exact @decode_of_takeFrame z ⟨{}, [1, 7] ++ octets⟩ _ _ front
  have first := (Course.start : Course z plan _).step
    (@Step.encoded z .near (.start plan) [7] [1, 7] {} (by decide)
      (by simp [Pair.start, Peer.HasRoom, plan, place]) short)
  have second := first.step (@Step.switched z .near _ ⟨.compression 2 0, place⟩ _ rfl ⟨rfl, rfl⟩)
  have third := second.step (@Step.switched z .near _ ⟨.encryption secret, place⟩ _ rfl ⟨rfl, rfl⟩)
  have fourth := third.step (@Step.encoded z .near _ [5, 6] octets
    { compressing.enableEncryption secret with cipher := some cipher } (by decide)
      (by intro switch member; cases member) long)
  have fifth := fourth.step (@Step.delivered z .far _ ([1, 7] ++ octets) []
    (List.append_nil _).symm)
  have last := fifth.step (@Step.decoded z .far _ [7] ⟨{}, octets⟩ (by
      rintro ⟨switch, head, reached⟩
      cases head
      exact Nat.zero_ne_one reached.2) taken)
  obtain ⟨later, steps, -, all, empty, -⟩ :=
    (decoded_prefix_encoded Zlib.Library.stored_roundTrips last .far).2.2.2
  refine ⟨Zlib.Library.stored_roundTrips, _, last, rfl, rfl, rfl, ?_, later, steps, all, empty⟩
  have size := Duplex.length_encrypt (Duplex.ofSecret secret) frame
  rw [sealed] at size
  exact size

end GameTransport.Codec
