import GameTransport.Proofs.Mirrors
import GameTransport.Proofs.Passes
import GameTransport.Proofs.QueueOrder
import GameTransport.Proofs.Reads

/-! # A receiver that follows its sender

A sender passes payloads through its codec and turns layers on between them.  A receiver follows it if
it turns the same layers on between the same payloads.  Encryption may be turned on any number of times.

What the receiver holds is some octets that it has decrypted under its layers and then others as they
arrived (`InSync`).  While no octet is decrypted twice this stays so: octets arrive behind the others,
`decode` takes the next payload off or decrypts the rest, and where nothing is decrypted yet the layers
may change.  So the receiver decodes what the sender encoded, however the octets arrive
(`Course.inSync`).  Where encryption is turned on over octets that are decrypted, the receiver loses
them.
-/

namespace GameTransport

/-- The payload that an action sends. -/
def Action.packet? : Action → Option Bytes
  | send packet => some packet
  | enableCompression _ _ | enableEncryption _ | transition _ | disconnect => none

/-- What an action makes of the layers of a codec that does not send. -/
def Action.switch : Action → Codec → Codec
  | enableCompression threshold level, codec => codec.enableCompression threshold level
  | enableEncryption secret, codec => codec.enableEncryption secret
  | send _, codec | transition _, codec | disconnect, codec => codec

namespace Codec

/-- A receiver and what is still to reach it. -/
structure Follower where
  inlet : Inlet
  /-- The octets on the way. -/
  transit : Bytes
  /-- What the sender has done and the receiver has not come to. -/
  pending : List Action
  decoded : List Bytes := []
  /-- What a call of `decode` failed with. -/
  fault? : Option Fault := none
  /-- How many octets were counted as decrypted when encryption was turned on. -/
  redecrypted : Nat := 0

namespace Follower

/-- The receiver is to turn a layer on before it decodes the next payload. -/
def Due (f : Follower) : Prop := ∃ action ∈ f.pending.head?, action.packet? = none

/-- The sender has done all there is to do. -/
def start (receiver : Codec) (actions : List Action) (octets : Bytes) : Follower where
  inlet := ⟨receiver, []⟩
  transit := octets
  pending := actions

/-- What the receiver does next, or what reaches it. -/
inductive Step (z : Zlib.Library) (f : Follower) : Follower → Prop
  | arrived {octets rest : Bytes} (way : f.transit = octets ++ rest) :
    Step z f { f with inlet := f.inlet.arrive octets, transit := rest }
  | decoded {payload : Bytes} {inlet : Inlet} (early : ¬ f.Due)
      (call : decode z f.inlet = .ok (some payload) inlet) :
    Step z f { f with
      inlet
      decoded := f.decoded ++ [payload]
      pending := f.pending.tail }
  | idled {inlet : Inlet} (call : decode z f.inlet = .ok none inlet) : Step z f { f with inlet }
  | failed {fault : Fault} {inlet : Inlet} (early : ¬ f.Due)
      (call : decode z f.inlet = .error fault inlet) :
    Step z f { f with inlet, fault? := some fault }
  | switched {action : Action} {rest : List Action} (next : f.pending = action :: rest)
      (layer : action.packet? = none) :
    Step z f { f with
      inlet := { f.inlet with codec := action.switch f.inlet.codec }
      pending := rest
      redecrypted := f.redecrypted +
        (f.inlet.codec.decrypted - (action.switch f.inlet.codec).decrypted) }

/-- What a receiver can come to. -/
inductive Course (z : Zlib.Library) (first : Follower) : Follower → Prop
  | refl : Course z first first
  | step {f later : Follower} (before : Course z first f) (step : Step z f later) :
    Course z first later

end Follower

variable {z : Zlib.Library} {sender receiver after : Codec} {payload octets : Bytes}
  {actions : List Action} {action : Action} {f later : Follower}

/-! ### A prefix of a frame -/

theorem pass_of_layer (layer : action.packet? = none) :
    pass z action sender = .ok [] (action.switch sender) := by
  cases action <;> first | rfl | cases layer

/-- What a receiver holds of the next frame is nothing yet, or the frame and more. -/
theorem decode_held (mirrored : Mirrored sender receiver) (lawful : z.RoundTrips)
    (nonempty : payload ≠ []) (encoded : encode z payload sender = .ok octets after)
    {held transit more : Bytes} (way : octets ++ more = held ++ transit) :
    (∃ rest, more = rest ++ transit ∧ held = octets ++ rest ∧
      decode z ⟨receiver, held⟩ = .ok (some payload) (Inlet.mk (receiver.heard octets) rest).decrypt) ∨
    transit ≠ [] ∧ ∃ inlet, decode z ⟨receiver, held⟩ = .ok none inlet := by
  have decoded := (mirrored.decode_encode lawful nonempty encoded).1
  rcases List.append_eq_append_iff.mp way with ⟨rest, rfl, rfl⟩ | ⟨missing, rfl, rfl⟩
  · exact .inl ⟨rest, rfl, rfl, decode_arrive_some (mirrored.counted octets) decoded rest⟩
  · by_cases whole : missing = []
    · subst whole
      rw [List.append_nil] at decoded ⊢
      refine .inl ⟨[], rfl, (List.append_nil _).symm, ?_⟩
      rw [Inlet.decrypt_of_empty rfl]
      exact decoded
    · -- What the call would find, it would find in the whole frame too.
      refine .inr ⟨fun none_left => whole (List.append_eq_nil_iff.mp none_left).1, ?_⟩
      change decode z ((Inlet.mk receiver held).arrive missing) = _ at decoded
      rcases call : decode z ⟨receiver, held⟩ with ⟨_ | found, inlet⟩ | ⟨fault, inlet⟩
      · exact ⟨inlet, rfl⟩
      · rw [decode_arrive_some (mirrored.counted held) call missing] at decoded
        have left := congrArg (·.buffer.length) (EStateM.Result.ok.inj decoded).2
        simp only [Inlet.length_decrypt, Inlet.buffer_arrive, List.length_append,
          List.length_nil] at left
        exact absurd (List.eq_nil_of_length_eq_zero (by omega)) whole
      · rw [decode_arrive_error (mirrored.counted held) call missing] at decoded
        cases decoded

/-! ### A receiver in step -/

/-- **The receiver is in step.**  Of the octets that are to come from the sender on, `seen` have been
decrypted under the layers that mirror the sender's, `fresh` have arrived, and the others are on the
way. -/
structure InSync (z : Zlib.Library) (actions : List Action) (f : Follower) : Prop where
  exists_mirror : ∃ sender receiver after seen fresh, Mirrored sender receiver ∧
    passAll z f.pending sender = .ok (seen ++ fresh ++ f.transit) after ∧
    f.inlet = ((Inlet.mk receiver seen).decrypt).arrive fresh
  nonempty : ∀ packet ∈ f.pending.filterMap Action.packet?, packet ≠ []
  heard : f.decoded ++ f.pending.filterMap Action.packet? = actions.filterMap Action.packet?
  faultless : f.fault? = none

theorem Mirrored.switch (mirrored : Mirrored sender receiver) (action : Action) :
    Mirrored (action.switch sender) (action.switch receiver) := by
  obtain ⟨threshold, stream, fresh⟩ := mirrored
  cases action with
  | enableCompression limit level => exact ⟨rfl, stream, fresh⟩
  | enableEncryption secret => exact ⟨threshold, rfl, rfl⟩
  | send packet => exact ⟨threshold, stream, fresh⟩
  | transition target => exact ⟨threshold, stream, fresh⟩
  | disconnect => exact ⟨threshold, stream, fresh⟩

/-- Where no count is lost, a layer may be turned on before or after octets have arrived and been
decrypted. -/
theorem Mirrored.switch_decrypt {seen : Bytes} (mirrored : Mirrored sender receiver)
    (action : Action) (fresh : Bytes)
    (clean : (Inlet.mk receiver seen).decrypt.codec.decrypted ≤
      (action.switch (Inlet.mk receiver seen).decrypt.codec).decrypted) :
    ∃ seen' fresh', seen' ++ fresh' = seen ++ fresh ∧
      Inlet.arrive { (Inlet.mk receiver seen).decrypt with
        codec := action.switch (Inlet.mk receiver seen).decrypt.codec } fresh =
      (Inlet.mk (action.switch receiver) seen').decrypt.arrive fresh' := by
  cases action with
  | enableCompression limit level =>
    exact ⟨seen, fresh, rfl, congrArg (·.arrive fresh)
      (Inlet.decrypt_enableCompression limit level).symm⟩
  | enableEncryption secret =>
    refine ⟨[], seen ++ fresh, rfl, ?_⟩
    -- Nothing is counted, so nothing was decrypted.
    rw [Inlet.decrypt_eq_self (mirrored.counted seen) (Nat.le_zero.mp clean)]
    have empty := @Inlet.decrypt_of_empty ⟨receiver.enableEncryption secret, []⟩ rfl
    change _ = (Inlet.mk (receiver.enableEncryption secret) []).decrypt.arrive _
    rw [empty]
    rfl
  | send packet => exact ⟨seen, fresh, rfl, rfl⟩
  | transition target => exact ⟨seen, fresh, rfl, rfl⟩
  | disconnect => exact ⟨seen, fresh, rfl, rfl⟩

namespace InSync

theorem start (mirrored : Mirrored sender receiver)
    (nonempty : ∀ packet ∈ actions.filterMap Action.packet?, packet ≠ [])
    (passed : passAll z actions sender = .ok octets after) :
    InSync z actions (.start receiver actions octets) where
  exists_mirror := by
    refine ⟨sender, receiver, after, [], [], mirrored, passed, ?_⟩
    rw [Inlet.decrypt_of_empty rfl]
    rfl
  nonempty := nonempty
  heard := rfl
  faultless := rfl

theorem arrive (sync : InSync z actions f) {rest : Bytes} (way : f.transit = octets ++ rest) :
    InSync z actions { f with inlet := f.inlet.arrive octets, transit := rest } := by
  obtain ⟨⟨sender, receiver, after, seen, fresh, mirrored, passed, inlet⟩, nonempty, heard,
    faultless⟩ := sync
  refine ⟨⟨sender, receiver, after, seen, fresh ++ octets, mirrored, ?_, ?_⟩, nonempty, heard,
    faultless⟩
  · rw [way] at passed
    simpa using passed
  · dsimp only
    rw [inlet, Inlet.arrive_arrive]

theorem idle (sync : InSync z actions f) {inlet : Inlet}
    (call : decode z f.inlet = .ok none inlet) : InSync z actions { f with inlet } := by
  obtain ⟨⟨sender, receiver, after, seen, fresh, mirrored, passed, held⟩, nonempty, heard,
    faultless⟩ := sync
  refine ⟨⟨sender, receiver, after, seen ++ fresh, [], mirrored, ?_, ?_⟩, nonempty, heard,
    faultless⟩
  · rw [List.append_nil]
    exact passed
  · dsimp only
    rw [decode_eq_none call, held, Inlet.decrypt_arrive (mirrored.counted seen), Inlet.arrive_nil]
    rfl

theorem switch (sync : InSync z actions f) {rest : List Action} (next : f.pending = action :: rest)
    (layer : action.packet? = none)
    (clean : f.inlet.codec.decrypted ≤ (action.switch f.inlet.codec).decrypted) (count : Nat) :
    InSync z actions { f with
      inlet := { f.inlet with codec := action.switch f.inlet.codec }
      pending := rest
      redecrypted := count } := by
  obtain ⟨⟨sender, receiver, after, seen, fresh, mirrored, passed, inlet⟩, nonempty, heard,
    faultless⟩ := sync
  rw [next, List.filterMap_cons, layer] at nonempty heard
  rw [next] at passed
  obtain ⟨_, middle, _, first, others, split⟩ := passAll_cons_eq_ok passed
  rw [pass_of_layer layer] at first
  cases first
  rw [inlet] at clean
  obtain ⟨seen', fresh', same, held⟩ := mirrored.switch_decrypt action fresh clean
  refine ⟨⟨_, _, after, seen', fresh', mirrored.switch action, ?_, ?_⟩, nonempty, heard, faultless⟩
  · rw [same]
    rw [List.nil_append] at split
    rw [split]
    exact others
  · dsimp only
    rw [← held, inlet]
    rfl

/-- **Where no layer is to be turned on, a call gives the next payload**, or nothing, which it does
once all octets have arrived only if there is no next. -/
theorem decode (sync : InSync z actions f) (lawful : z.RoundTrips) (early : ¬ f.Due) :
    (∃ payload inlet, Codec.decode z f.inlet = .ok (some payload) inlet ∧
      InSync z actions { f with
        inlet
        decoded := f.decoded ++ [payload]
        pending := f.pending.tail }) ∨
    ∃ inlet, Codec.decode z f.inlet = .ok none inlet ∧
      (f.transit = [] → f.decoded = actions.filterMap Action.packet?) := by
  obtain ⟨⟨sender, receiver, after, seen, fresh, mirrored, passed, held⟩, nonempty, heard,
    faultless⟩ := sync
  have settled : Codec.decode z f.inlet = Codec.decode z ⟨receiver, seen ++ fresh⟩ := by
    rw [held]
    exact decode_congr (Inlet.decrypt_arrive (mirrored.counted seen) fresh)
  rw [settled]
  rcases pending : f.pending with _ | ⟨action, rest⟩
  · rw [pending] at passed heard
    have none_left : seen ++ fresh = [] :=
      (List.append_eq_nil_iff.mp (EStateM.Result.ok.inj passed).1.symm).1
    refine .inr ⟨_, decode_of_empty none_left, fun _ => ?_⟩
    rw [List.filterMap_nil, List.append_nil] at heard
    exact heard
  · rcases packet : action.packet? with _ | payload
    · exact absurd ⟨action, by rw [pending]; rfl, packet⟩ early
    · obtain rfl : action = .send payload := by
        cases action <;> cases packet
        rfl
      rw [pending] at passed
      rw [pending, List.filterMap_cons, packet] at nonempty heard
      obtain ⟨octets, middle, more, encoded, others, way⟩ := passAll_cons_eq_ok passed
      have nonempty' := nonempty payload List.mem_cons_self
      rcases decode_held mirrored lawful nonempty' encoded way.symm with
        ⟨rest', rfl, -, decoded⟩ | ⟨on_the_way, inlet, nothing⟩
      · refine .inl ⟨payload, _, decoded, ⟨middle, receiver.heard octets, after, rest', [],
          (mirrored.decode_encode lawful nonempty' encoded).2, ?_, ?_⟩,
          fun packet mem => nonempty packet (List.mem_cons_of_mem _ mem), ?_, faultless⟩
        · rw [List.append_nil, List.tail_cons]
          exact others
        · rw [Inlet.arrive_nil]
        · rw [List.tail_cons, List.append_assoc]
          exact heard
      · exact .inr ⟨inlet, nothing, fun none_left => absurd none_left on_the_way⟩

end InSync

/-! ### All courses -/

namespace Follower

theorem Step.redecrypted_le (step : Step z f later) : f.redecrypted ≤ later.redecrypted := by
  cases step with
  | arrived way => exact Nat.le_refl _
  | decoded early call => exact Nat.le_refl _
  | idled call => exact Nat.le_refl _
  | failed early call => exact Nat.le_refl _
  | switched next layer => exact Nat.le_add_right _ _

/-- A receiver stays in step unless a count is lost. -/
theorem Step.inSync (step : Step z f later) (sync : InSync z actions f) (lawful : z.RoundTrips)
    (clean : later.redecrypted = 0) : InSync z actions later := by
  cases step with
  | arrived way => exact sync.arrive way
  | decoded early call =>
    rcases sync.decode lawful early with ⟨payload, inlet, found, next⟩ | ⟨inlet, nothing, -⟩
    · rw [call] at found
      cases found
      exact next
    · rw [call] at nothing
      cases nothing
  | idled call => exact sync.idle call
  | failed early call =>
    rcases sync.decode lawful early with ⟨payload, inlet, found, -⟩ | ⟨inlet, nothing, -⟩
    · rw [call] at found
      cases found
    · rw [call] at nothing
      cases nothing
  | switched next layer =>
    dsimp only at clean
    exact sync.switch next layer (by omega) _

theorem Course.inSync (course : Course z (.start receiver actions octets) f)
    (mirrored : Mirrored sender receiver) (lawful : z.RoundTrips)
    (nonempty : ∀ packet ∈ actions.filterMap Action.packet?, packet ≠ [])
    (passed : passAll z actions sender = .ok octets after) (clean : f.redecrypted = 0) :
    InSync z actions f := by
  induction course with
  | refl => exact .start mirrored nonempty passed
  | step before step ih =>
    have clean' := Nat.le_zero.mp (clean ▸ step.redecrypted_le)
    exact step.inSync (ih clean') lawful clean

end Follower

/-- **Octets are decrypted once, and a receiver that follows its sender decodes what it encoded, unless
encryption is turned on over octets that are decrypted.**  An octet is decrypted twice just if that
happens and something is decoded after it.  While it does not happen, no call fails, and once all octets
have arrived and no call finds a payload, all payloads are decoded. -/
theorem decoded_prefix_unless_redecrypted (z : Zlib.Library) :
    (∀ calls : List Call, (∃ n ∈ (watch z calls).passes, 1 < n) ↔
      ∃ before secret after, calls = before ++ .enableEncryption secret :: after ∧
        0 < (watch z before).inlet.codec.decrypted ∧ .decode ∈ after) ∧
    ∀ (sender receiver after : Codec) (actions : List Action) (octets : Bytes) (f : Follower),
      z.RoundTrips → Mirrored sender receiver →
      (∀ packet ∈ actions.filterMap Action.packet?, packet ≠ []) →
      passAll z actions sender = .ok octets after →
      Follower.Course z (.start receiver actions octets) f → f.redecrypted = 0 →
      f.decoded <+: actions.filterMap Action.packet? ∧ f.fault? = none ∧
        (f.transit = [] → ¬ f.Due → ∀ inlet, decode z f.inlet = .ok none inlet →
          f.decoded = actions.filterMap Action.packet?) := by
  refine ⟨exists_twice_iff z, fun sender receiver after actions octets f lawful mirrored nonempty
    passed course clean => ?_⟩
  have sync := course.inSync mirrored lawful nonempty passed clean
  refine ⟨⟨_, sync.heard⟩, sync.faultless, fun arrived early inlet call => ?_⟩
  rcases sync.decode lawful early with ⟨payload, other, found, -⟩ | ⟨-, -, all⟩
  · rw [call] at found
    cases found
  · exact all arrived

/-! ### A secret that is replaced -/

section Replaced

open Conversation (request sealed keyed along along_eq encode_request encode_sealed decode_request
  decode_sealed decode_along clash)

variable (secret : SharedSecret)

/-- Three payloads, the second and the third under a key that is turned on just before. -/
def script : List Action :=
  [.send [0], .enableEncryption secret, .send [0], .enableEncryption secret, .send [0]]

/-- The octets that carry them. -/
def wire : Bytes := request ++ (sealed secret ++ sealed secret)

theorem passAll_script (z : Zlib.Library) :
    ∃ after, passAll z (script secret) {} = .ok (wire secret) after := by
  have anew (codec : Codec) (off : codec.compression = none) :
      codec.enableEncryption secret = keyed secret := by
    obtain ⟨compression, cipher, decrypted⟩ := codec
    cases off
    rfl
  refine ⟨{ cipher := some ((Duplex.ofSecret secret).encrypt request).2 }, ?_⟩
  simp [script, passAll, pass, encode_request, anew, encode_sealed, wire]

variable {secret}

theorem not_due_of_send {packet : Bytes} {rest : List Action}
    (next : f.pending = .send packet :: rest) : ¬ f.Due := by
  rintro ⟨action, head, layer⟩
  rw [next] at head
  cases head
  cases layer

/-- The first payload is decoded, whatever has arrived behind it. -/
theorem course_request (lawful : z.RoundTrips) (rest transit : Bytes)
    (way : wire secret = request ++ rest ++ transit) :
    Follower.Course z (.start {} (script secret) (wire secret))
      { inlet := ⟨keyed secret, rest⟩
        transit
        pending := [.send [0], .enableEncryption secret, .send [0]]
        decoded := [[0]] } := by
  have arrived : Follower.Course z (.start {} (script secret) (wire secret))
      { inlet := ⟨{}, request ++ rest⟩, transit, pending := script secret } :=
    .step .refl (.arrived way)
  have decoded := arrived.step (.decoded (not_due_of_send rfl) (decode_request lawful rest))
  have switched := decoded.step (.switched rfl rfl)
  exact switched

/-- The second payload is decoded, and what has arrived behind it was decrypted along with it. -/
theorem course_sealed (lawful : z.RoundTrips) {first : Follower} (rest transit : Bytes)
    (before : Follower.Course z first
      { inlet := ⟨keyed secret, sealed secret ++ rest⟩
        transit
        pending := [.send [0], .enableEncryption secret, .send [0]]
        decoded := [[0]] }) :
    Follower.Course z first
      { inlet := ⟨keyed secret, (along secret rest).buffer⟩
        transit
        pending := [.send [0]]
        decoded := [[0], [0]]
        redecrypted := rest.length } := by
  have decoded := before.step (.decoded (not_due_of_send rfl) (decode_sealed lawful rest))
  have counted : (along secret rest).codec.decrypted = rest.length := by rw [along_eq]
  have anew : (along secret rest).codec.enableEncryption secret = keyed secret := by
    rw [along_eq]
    rfl
  have switched := decoded.step (.switched rfl rfl)
  simpa [Action.switch, anew, counted, keyed] using switched

/-- Frame by frame, the three payloads are decoded. -/
theorem course_apart (lawful : z.RoundTrips) :
    ∃ f, Follower.Course z (.start {} (script secret) (wire secret)) f ∧ f.redecrypted = 0 ∧
      f.decoded = [[0], [0], [0]] := by
  have nothing : (along secret []).buffer = [] := by
    rw [along_eq]
    rfl
  have decoded := @decode_sealed z secret lawful []
  rw [List.append_nil] at decoded
  have first := @course_request z secret lawful [] _ rfl
  have second := course_sealed lawful [] _ (by
    simpa [Inlet.arrive] using first.step (.arrived rfl))
  rw [nothing] at second
  have third := (second.step (.arrived (List.append_nil _).symm)).step
    (.decoded (not_due_of_send rfl) decoded)
  exact ⟨_, third, rfl, rfl⟩

/-- In one piece, the third is lost. -/
theorem course_joined (lawful : z.RoundTrips) (long : 1 < (clash secret).toNat)
    (short : clash secret < 128) :
    ∃ f inlet, Follower.Course z (.start {} (script secret) (wire secret)) f ∧ f.transit = [] ∧
      ¬ f.Due ∧ decode z f.inlet = .ok none inlet ∧ f.decoded = [[0], [0]] := by
  have first := @course_request z secret lawful (sealed secret ++ sealed secret) []
    (List.append_nil _).symm
  obtain ⟨inlet, -, nothing⟩ := @decode_along z secret long short
  exact ⟨_, inlet, course_sealed lawful _ _ first, rfl, not_due_of_send rfl, nothing, rfl⟩

/-- The same octets and calls, as the codec sees them. -/
theorem inlet_watch_joined (lawful : z.RoundTrips) :
    (watch z [.arrive (wire secret), .decode, .enableEncryption secret, .decode]).inlet =
      along secret (sealed secret) := by
  have first : decode z ((Inlet.mk {} []).arrive (wire secret)) =
    .ok (some [0]) ⟨{}, sealed secret ++ sealed secret⟩ := decode_request lawful _
  have second : decode z ⟨({} : Codec).enableEncryption secret, sealed secret ++ sealed secret⟩ =
    .ok (some [0]) (along secret (sealed secret)) := decode_sealed lawful _
  simp only [watch, List.foldl_cons, List.foldl_nil, Watched.step, first, stateOf, second]

end Replaced

open Connection (firstSecret clash_firstSecret)

/-- Each frame arrives after the layer was turned on that it is encrypted under. -/
theorem decoded_prefix_unless_redecrypted_apart :
    ∃ f, Zlib.Library.stored.RoundTrips ∧ Mirrored {} {} ∧
      (∀ packet ∈ (script firstSecret).filterMap Action.packet?, packet ≠ []) ∧
      (∃ after, passAll .stored (script firstSecret) {} = .ok (wire firstSecret) after) ∧
      Follower.Course .stored (.start {} (script firstSecret) (wire firstSecret)) f ∧
      f.redecrypted = 0 ∧ f.decoded = [[0], [0], [0]] ∧ f.fault? = none := by
  have lawful := Zlib.Library.stored_roundTrips
  obtain ⟨after, passed⟩ := passAll_script firstSecret .stored
  obtain ⟨f, course, clean, decoded⟩ := @course_apart .stored firstSecret lawful
  have mirrored : Mirrored {} {} := ⟨rfl, rfl, rfl⟩
  have nonempty : ∀ packet ∈ (script firstSecret).filterMap Action.packet?, packet ≠ [] := by
    decide
  obtain ⟨-, agrees⟩ := decoded_prefix_unless_redecrypted .stored
  exact ⟨f, lawful, mirrored, nonempty, ⟨after, passed⟩, course, clean, decoded,
    (agrees {} {} after _ _ f lawful mirrored nonempty passed course clean).2.1⟩

/-- **Octets are decrypted twice, and a payload is lost**: two frames arrive together, and the second is
decrypted along with the first, and again when encryption is turned on anew between them. -/
theorem not_decoded_prefix_of_redecrypted :
    (¬ ∀ (z : Zlib.Library) (calls : List Call), ∀ n ∈ (watch z calls).passes, n ≤ 1) ∧
    ¬ ∀ (z : Zlib.Library) (sender receiver after : Codec) (actions : List Action)
      (octets : Bytes) (f : Follower), z.RoundTrips → Mirrored sender receiver →
      (∀ packet ∈ actions.filterMap Action.packet?, packet ≠ []) →
      passAll z actions sender = .ok octets after →
      Follower.Course z (.start receiver actions octets) f →
      f.decoded <+: actions.filterMap Action.packet? ∧ f.fault? = none ∧
        (f.transit = [] → ¬ f.Due → ∀ inlet, decode z f.inlet = .ok none inlet →
          f.decoded = actions.filterMap Action.packet?) := by
  have lawful := Zlib.Library.stored_roundTrips
  constructor
  · intro once
    have twice : ∃ n ∈ (watch .stored [.arrive (wire firstSecret), .decode,
        .enableEncryption firstSecret, .decode, .enableEncryption firstSecret, .decode]).passes,
        1 < n := by
      rw [exists_twice_iff]
      refine ⟨[.arrive (wire firstSecret), .decode, .enableEncryption firstSecret, .decode],
        firstSecret, [.decode], rfl, ?_, List.mem_singleton_self _⟩
      rw [inlet_watch_joined lawful, Conversation.along_eq]
      decide
    obtain ⟨n, mem, two⟩ := twice
    exact absurd (once _ _ n mem) (Nat.not_le.mpr two)
  · intro agrees
    obtain ⟨after, passed⟩ := passAll_script firstSecret .stored
    obtain ⟨f, inlet, course, arrived, early, nothing, decoded⟩ :=
      @course_joined .stored firstSecret lawful (by rw [clash_firstSecret]; decide)
        (by rw [clash_firstSecret]; decide)
    have all := (agrees .stored {} {} after _ _ f lawful ⟨rfl, rfl, rfl⟩ (by decide) passed
      course).2.2 arrived early inlet nothing
    rw [decoded] at all
    cases all

end Codec

end GameTransport
