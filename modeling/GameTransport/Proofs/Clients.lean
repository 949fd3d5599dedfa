import GameTransport.Client
import GameTransport.Proofs.Early
import GameTransport.Proofs.Packets

/-! # What a client reads

A client follows each payload before it decodes the next, so a switch of its layers takes effect on
what stands in its buffer behind the payload.  All that following does is to switch compression on,
to keep a token or to note that the login is over; what a payload of a known kind does is said here
(`follow_setCompression`, `follow_encryptionRequest`, `follow_loginSuccess`).

A stream of which nothing is refused may be read in parts (`receive_append`).
-/

namespace GameTransport.Client

open Codec (Inlet)

variable {z : Zlib.Library} {client after : Client} {inlet : Inlet} {payload late octets : Bytes}
  {payloads : List Bytes} {fault : Fault}

/-! ## Steps of a client -/

theorem drain_of_error (failed : Codec.decode z client.inlet = .error fault inlet) :
    client.drain z = ([], some fault, { client with inlet }) := by
  rw [drain]
  split
  · rename_i other; rw [failed] at other; cases other; rfl
  · rename_i other; rw [failed] at other; cases other
  · rename_i other; rw [failed] at other; cases other

theorem drain_of_none (idle : Codec.decode z client.inlet = .ok none inlet) :
    client.drain z = ([], none, { client with inlet }) := by
  rw [drain]
  split
  · rename_i other; rw [idle] at other; cases other
  · rename_i other; rw [idle] at other; cases other; rfl
  · rename_i other; rw [idle] at other; cases other

theorem drain_of_some (decoded : Codec.decode z client.inlet = .ok (some payload) inlet) :
    client.drain z =
      (payload :: (({ client with inlet }.follow payload).drain z).1,
        (({ client with inlet }.follow payload).drain z).2) := by
  rw [drain]
  split
  · rename_i other; rw [decoded] at other; cases other
  · rename_i other; rw [decoded] at other; cases other
  · rename_i other; rw [decoded] at other; cases other; rfl

/-- Draining sees the inlet in its normal form only. -/
theorem drain_congr (same : inlet.decrypt = client.inlet.decrypt) :
    { client with inlet }.drain z = client.drain z := by
  have decoded : Codec.decode z inlet = Codec.decode z client.inlet := Codec.decode_congr same
  rcases outcome : Codec.decode z client.inlet with ⟨_ | payload, rest⟩ | ⟨fault, rest⟩
  · rw [drain_of_none outcome, @drain_of_none z { client with inlet } _ (decoded.trans outcome)]
  · rw [drain_of_some outcome, @drain_of_some z { client with inlet } _ _ (decoded.trans outcome)]
  · rw [drain_of_error outcome,
      @drain_of_error z { client with inlet } _ _ (decoded.trans outcome)]

/-! ## Reading in parts -/

/-- Following a payload does the same whatever stands in the buffer behind it. -/
theorem follow_early (counted : client.inlet.Counted) (early : Inlet.Early late client.inlet inlet)
    (payload : Bytes) :
    (client.follow payload).inlet.Counted ∧
      ∃ rest, { client with inlet }.follow payload = { client.follow payload with inlet := rest } ∧
        Inlet.Early late (client.follow payload).inlet rest := by
  unfold follow
  dsimp only
  split
  · exact ⟨counted, inlet, rfl, early⟩
  · split
    · exact ⟨counted, inlet, rfl, early⟩
    · split
      · exact ⟨counted, _, rfl, early.enableCompression _ _⟩
      · split
        · exact ⟨counted, inlet, rfl, early⟩
        · exact ⟨counted, inlet, rfl, early⟩

/-- What is read where octets have arrived early: the same, and then what they come to, unless the
same is refused. -/
theorem drain_early {first : List Bytes} {fault? : Option Fault} {between : Client}
    (counted : client.inlet.Counted) (early : Inlet.Early late client.inlet inlet)
    (drained : client.drain z = (first, fault?, between)) :
    (fault? = none → between.inlet.Counted ∧ { client with inlet }.drain z =
        (first ++ (between.receive z late).1, (between.receive z late).2)) ∧
      ∀ fault, fault? = some fault → ∃ other,
        { client with inlet }.drain z = (first, some fault, other) := by
  fun_induction drain z client generalizing inlet first fault? between with
  | case1 client fault inlet' failed =>
    -- A frame that is refused is refused whatever stands behind it.
    cases drained
    have sees := (early.decode_eq counted).trans (Codec.decode_arrive_error counted failed late)
    refine ⟨nofun, ?_⟩
    rintro _ ⟨⟩
    exact ⟨_, @drain_of_error z { client with inlet } _ _ sees⟩
  | case2 client inlet' idle =>
    -- Nothing was complete, and the call has left the normal form of what it was given.
    cases drained
    obtain rfl := Codec.decode_eq_none idle
    have same : inlet.decrypt = (client.inlet.decrypt.arrive late).decrypt := by
      rw [early.decrypt_eq counted, Inlet.decrypt_arrive counted]
    refine ⟨fun _ => ⟨counted.decrypt, ?_⟩, nofun⟩
    exact @drain_congr z { client with inlet := client.inlet.decrypt.arrive late } inlet same
  | case3 client payload inlet' decoded later fault' between' drained' ih =>
    cases drained
    have sees : Codec.decode z inlet = .ok (some payload) (inlet'.arrive late).decrypt :=
      (early.decode_eq counted).trans (Codec.decode_arrive_some counted decoded late)
    -- Following the payload does not look behind it, and leaves what is there arrived early.
    obtain ⟨counted', inlet'', same, early'⟩ :=
      @follow_early { client with inlet := inlet' } _ late (counted.decode_some decoded) (.inr rfl)
        payload
    have joined := @drain_of_some z { client with inlet } _ _ sees
    rw [show ({ client with inlet := (inlet'.arrive late).decrypt } : Client).follow payload = _
      from same] at joined
    obtain ⟨whole, stopped⟩ := ih counted' early' drained'
    constructor
    · intro none'
      obtain ⟨counted'', rest⟩ := whole none'
      refine ⟨counted'', joined.trans ?_⟩
      exact congrArg (fun (r : List Bytes × Option Fault × Client) => (payload :: r.1, r.2)) rest
    · intro fault some'
      obtain ⟨other, rest⟩ := stopped fault some'
      refine ⟨other, joined.trans ?_⟩
      exact congrArg (fun (r : List Bytes × Option Fault × Client) => (payload :: r.1, r.2)) rest

/-- **What is read before more arrives is read with it**, and what has arrived then is read next. -/
theorem receive_append {first : List Bytes} {between : Client} (counted : client.inlet.Counted)
    (heard : client.receive z octets = (first, none, between)) (late : Bytes) :
    between.inlet.Counted ∧ client.receive z (octets ++ late) =
      (first ++ (between.receive z late).1, (between.receive z late).2) := by
  have early : Inlet.Early late (client.inlet.arrive octets) (client.inlet.arrive (octets ++ late)) :=
    .inl (Inlet.arrive_arrive late).symm
  exact (@drain_early z { client with inlet := client.inlet.arrive octets } _ late first none between
    (counted.arrive octets) early heard).1 rfl

/-- **A stream of which nothing is refused may be read in parts.** -/
theorem receive_of_append (counted : client.inlet.Counted)
    (heard : client.receive z (octets ++ late) = (payloads, none, after)) :
    ∃ first rest between, client.receive z octets = (first, none, between) ∧
      between.inlet.Counted ∧ between.receive z late = (rest, none, after) ∧
      payloads = first ++ rest := by
  have early : Inlet.Early late (client.inlet.arrive octets) (client.inlet.arrive (octets ++ late)) :=
    .inl (Inlet.arrive_arrive late).symm
  obtain ⟨whole, stopped⟩ := @drain_early z { client with inlet := client.inlet.arrive octets } _ late
    _ _ _ (counted.arrive octets) early rfl
  -- A fault on the way would be the fault of the whole, and there is none.
  rcases drained : client.receive z octets with ⟨first, _ | fault, between⟩
  · obtain ⟨counted', joined⟩ := receive_append counted drained late
    rw [heard] at joined
    obtain ⟨payloads_eq, final⟩ := Prod.mk.inj joined
    exact ⟨first, _, between, rfl, counted', Prod.ext rfl final.symm, payloads_eq⟩
  · obtain ⟨other, joined⟩ := stopped fault (congrArg (·.2.1) drained)
    rw [show ({ client with inlet := client.inlet.arrive (octets ++ late) } : Client).drain z = _
      from heard] at joined
    cases joined

/-- A payload that the server encoded is decoded and followed. -/
theorem receive_encode {sender codec : Codec} (lawful : z.RoundTrips) (nonempty : payload ≠ [])
    (mirrored : Codec.Mirrored sender client.inlet.codec) (empty : client.inlet.buffer = [])
    (encoded : Codec.encode z payload sender = .ok octets codec) :
    client.receive z octets = ([payload], none,
      { client with inlet := ⟨client.inlet.codec.heard octets, []⟩ }.follow payload) := by
  have decoded := (mirrored.decode_encode lawful nonempty encoded).1
  have arrived : client.inlet.arrive octets = ⟨client.inlet.codec, octets⟩ := by
    unfold Inlet.arrive
    rw [empty, List.nil_append]
  have idle : Codec.decode z
      ({ client with inlet := ⟨client.inlet.codec.heard octets, []⟩ }.follow payload).inlet =
        .ok none _ := Codec.decode_of_empty (buffer_follow _ _)
  change { client with inlet := client.inlet.arrive octets }.drain z = _
  rw [arrived, @drain_of_some z { client with inlet := ⟨client.inlet.codec, octets⟩ } _ _ decoded,
    drain_of_none idle]

/-! ## What a client has read to the end -/

/-- Draining again finds nothing. -/
theorem drain_drain {fault? : Option Fault} (counted : client.inlet.Counted)
    (drained : client.drain z = (payloads, fault?, after)) (sound : fault? = none) :
    after.drain z = ([], none, after) := by
  fun_induction drain z client generalizing payloads fault? after with
  | case1 client fault inlet failed =>
    cases drained
    cases sound
  | case2 client inlet idle =>
    cases drained
    obtain rfl := Codec.decode_eq_none idle
    have again : Codec.decode z client.inlet.decrypt = .ok none client.inlet.decrypt := by
      rw [Codec.decode_congr (Inlet.decrypt_decrypt counted), idle]
    exact @drain_of_none z { client with inlet := client.inlet.decrypt } _ again
  | case3 client payload inlet decoded later fault' between drained' ih =>
    cases drained
    have counted' := (@follow_early { client with inlet } _ [] (counted.decode_some decoded)
      (.refl inlet) payload).1
    exact ih counted' drained' sound

theorem receive_nil : client.receive z [] = client.drain z := by
  unfold receive
  rw [List.append_nil]

/-- **What is read is read at once**: it does not take more octets for a client to notice it. -/
theorem receive_receive (counted : client.inlet.Counted)
    (heard : client.receive z octets = (payloads, none, after)) :
    after.receive z [] = ([], none, after) := by
  rw [receive_nil]
  exact @drain_drain z { client with inlet := client.inlet.arrive octets } _ _ none
    (counted.arrive octets) heard rfl

/-- Octets that come to no payload stay in the buffer. -/
theorem length_buffer_of_receive (heard : client.receive z octets = ([], none, after)) :
    after.inlet.buffer.length = client.inlet.buffer.length + octets.length := by
  have drained : { client with inlet := client.inlet.arrive octets }.drain z = ([], none, after) :=
    heard
  rcases decoded : Codec.decode z (client.inlet.arrive octets) with
    ⟨_ | payload, rest⟩ | ⟨fault, rest⟩
  · rw [@drain_of_none z { client with inlet := client.inlet.arrive octets } _ decoded] at drained
    cases drained
    rw [Codec.decode_eq_none decoded, Inlet.length_decrypt, Inlet.buffer_arrive, List.length_append]
  · rw [@drain_of_some z { client with inlet := client.inlet.arrive octets } _ _ decoded] at drained
    cases drained
  · rw [@drain_of_error z { client with inlet := client.inlet.arrive octets } _ _ decoded] at drained
    cases drained

/-- Whether a payload asks for a key exchange. -/
def isRequest (payload : Bytes) : Bool :=
  (Packet.ofPayload? payload : Option EncryptionRequest).isSome

theorem token_follow (client : Client) (payload : Bytes) :
    (client.follow payload).token = client.token ∨ isRequest payload := by
  unfold follow isRequest
  split
  · exact .inl rfl
  · split
    · exact .inl rfl
    · split
      · exact .inl rfl
      · split
        · rename_i asked
          rw [asked]
          exact .inr rfl
        · exact .inl rfl

theorem token_drain (client : Client) :
    (client.drain z).2.2.token = client.token ∨
      ∃ payload ∈ (client.drain z).1, isRequest payload := by
  fun_induction drain z client with
  | case1 client fault inlet failed => exact .inl rfl
  | case2 client inlet idle => exact .inl rfl
  | case3 client payload inlet decoded later fault between drained ih =>
    rw [drained] at ih
    rcases token_follow { client with inlet } payload with same | asks
    · rcases ih with same' | ⟨other, member, asks⟩
      · exact .inl (same'.trans same)
      · exact .inr ⟨other, List.mem_cons_of_mem _ member, asks⟩
    · exact .inr ⟨payload, List.mem_cons_self, asks⟩

/-- A client has no other token than before, unless it has read a request. -/
theorem token_receive {fault? : Option Fault}
    (heard : client.receive z octets = (payloads, fault?, after)) :
    after.token = client.token ∨ ∃ payload ∈ payloads, isRequest payload := by
  have kept := @token_drain z { client with inlet := client.inlet.arrive octets }
  rw [show ({ client with inlet := client.inlet.arrive octets } : Client).drain z = _ from heard]
    at kept
  exact kept

/-! ## Packets of the login -/

/-- A payload of another kind does not end the login. -/
theorem endsLogin_encode {β : Type} [Packet β] (packet : β) :
    endsLogin (Packet.encode packet) = (Packet.id β == Packet.id LoginSuccess) := by
  unfold endsLogin
  rw [Packet.decode_encode]

theorem follow_encryptionRequest {packet : EncryptionRequest} (back : Packet.ReadsBack packet)
    (out : client.isLoggedIn = false) :
    client.follow (Packet.encode packet) = { client with token := some packet.verifyToken } := by
  have goes : endsLogin (Packet.encode packet) = false := endsLogin_encode packet
  unfold follow
  rw [out, goes, @Packet.split?_of_ne EncryptionRequest SetCompression _ _ packet (by decide),
    Packet.ofPayload?_encode back]
  rfl

theorem follow_setCompression (packet : SetCompression) (out : client.isLoggedIn = false) :
    client.follow (Packet.encode packet) = client.compress packet.threshold.toNat := by
  have goes : endsLogin (Packet.encode packet) = false := endsLogin_encode packet
  unfold follow
  rw [out, goes, Packet.split?_encode (SetCompression.readsBack packet)]
  rfl

theorem follow_loginSuccess (packet : LoginSuccess) (out : client.isLoggedIn = false) :
    client.follow (Packet.encode packet) = { client with isLoggedIn := true } := by
  have ends : endsLogin (Packet.encode packet) = true := endsLogin_encode packet
  unfold follow
  rw [out, ends]
  rfl

end GameTransport.Client
