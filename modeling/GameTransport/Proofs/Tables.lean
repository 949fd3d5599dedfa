import GameTransport.Proofs.Welcome
import GameTransport.Proofs.Written

/-! # What stands in a table, and what is done with a payload

The table of a registry holds the entries of its builder and no others (`mem_of_entry?_build`).  A
payload is refused or dropped, or it is handed to the handler of one entry as the packet that it is
(`Registry.Served`): that is all a dispatch can do, whatever the payload.  The default tables hold six
handlers, and the two of LOGIN either fail or do what a login needs.
-/

namespace GameTransport

variable {σ : Type}

namespace Registry

/-! ## Entries -/

/-- What stands in a table after entries were put in stood there before, or is one of them at its
place. -/
theorem mem_of_getElem?_foldl {entries : List (Entry σ)} {table : Array (Option (Entry σ))}
    {entry : Entry σ} {place : Nat}
    (found : (entries.foldl (fun table entry => table.setIfInBounds entry.id.toNat (some entry))
      table)[place]? = some (some entry)) :
    table[place]? = some (some entry) ∨ entry ∈ entries ∧ entry.id.toNat = place := by
  induction entries generalizing table with
  | nil => exact .inl found
  | cons first rest ih =>
    rcases ih found with earlier | ⟨member, at_⟩
    · rw [Array.getElem?_setIfInBounds] at earlier
      by_cases here : first.id.toNat = place
      · rw [if_pos here] at earlier
        split at earlier
        · cases earlier
          exact .inr ⟨List.mem_cons_self, here⟩
        · cases earlier
      · rw [if_neg here] at earlier
        exact .inl earlier
    · exact .inr ⟨List.mem_cons_of_mem _ member, at_⟩

/-- The entry with a number is one that was put in, and has that number. -/
theorem mem_of_entry?_build {builder : Builder σ} {id : UInt32} {entry : Entry σ}
    (known : builder.build.entry? id = some entry) : entry ∈ builder.entries ∧ entry.id = id := by
  have found : builder.table[id.toNat]? = some (some entry) := Option.join_eq_some_iff.mp known
  rcases mem_of_getElem?_foldl found with empty | ⟨member, at_⟩
  · rw [Array.getElem?_replicate] at empty
    split at empty <;> cases empty
  · exact ⟨member, UInt32.toNat_inj.mp at_⟩

/-! ## Dispatches -/

/-- Why a payload comes to no handler: no kind is known, or its body is not read. -/
inductive Refused (registry : Registry σ) (payload : Bytes) : Fault → Prop where
  | numberless {fault : Fault} {rest : Bytes} (unread : Varint.readU32 payload = .error fault rest) :
    Refused registry payload fault
  | unknown (id : UInt32) : Refused registry payload (.unknownPacket registry.name id)
  | unread {id : UInt32} {body rest : Bytes} {entry : Entry σ} {fault : Fault}
    (known : registry.entry? id = some entry) (unread : entry.packet.read body = .error fault rest) :
    Refused registry payload fault
  | overlong (entry : Entry σ) (remaining : Nat) :
    Refused registry payload (.trailingBytes entry.name remaining)

/-- What a dispatch of a payload comes to. -/
inductive Served (registry : Registry σ) (payload : Bytes) (context : σ) :
    EStateM.Result Fault σ Dispatched → Prop where
  | refused {fault : Fault} (reason : Refused registry payload fault) :
    Served registry payload context (.error fault context)
  | dropped {id : UInt32} {entry : Entry σ} {dispatched : Dispatched}
    (known : registry.entry? id = some entry) (idle : entry.handler = none) :
    Served registry payload context (.ok dispatched context)
  | handled {id : UInt32} {body : Bytes} {entry : Entry σ} {handler : Handler σ entry.Value}
    {packet : entry.Value} {dispatched : Dispatched} {after : σ}
    (number : Varint.readU32 payload = .ok id body) (known : registry.entry? id = some entry)
    (takes : entry.handler = some handler) (read : entry.packet.read body = .ok packet [])
    (done : handler packet context = .ok () after) :
    Served registry payload context (.ok dispatched after)
  | failed {id : UInt32} {body : Bytes} {entry : Entry σ} {handler : Handler σ entry.Value}
    {packet : entry.Value} {fault : Fault} {after : σ}
    (number : Varint.readU32 payload = .ok id body) (known : registry.entry? id = some entry)
    (takes : entry.handler = some handler) (read : entry.packet.read body = .ok packet [])
    (done : handler packet context = .error fault after) :
    Served registry payload context (.error (.handler entry.name fault) after)

theorem served_dispatch (registry : Registry σ) (payload : Bytes) (context : σ) :
    registry.Served payload context (registry.dispatch payload context) := by
  unfold dispatch
  rcases number : Varint.readU32 payload with ⟨id, body⟩ | ⟨fault, rest⟩
  · dsimp only
    rcases known : registry.entry? id with _ | ⟨Value, kind, handler⟩
    · exact .refused (.unknown id)
    · unfold Entry.run
      dsimp only
      rcases read : kind.read body with ⟨packet, _ | ⟨b, rest⟩⟩ | ⟨fault, rest⟩
      · rcases handler with _ | handler
        · exact .dropped known rfl
        · dsimp only
          rcases done : handler packet context with ⟨_, after⟩ | ⟨fault, after⟩
          · exact .handled number known rfl read done
          · exact .failed number known rfl read done
      · exact .refused (.overlong ⟨Value, kind, handler⟩ _)
      · exact .refused (.unread known read)
  · exact .refused (.numberless number)

/-- What holds of a context holds after a dispatch if every handler keeps it. -/
theorem stateOf_dispatch {registry : Registry σ} {P : σ → Prop} {context : σ} (holds : P context)
    (keeps : ∀ id entry handler, registry.entry? id = some entry → entry.handler = some handler →
      ∀ packet, P (stateOf (handler packet context))) (payload : Bytes) :
    P (stateOf (registry.dispatch payload context)) := by
  have served := served_dispatch registry payload context
  generalize registry.dispatch payload context = result at served
  cases served with
  | refused reason => exact holds
  | dropped known idle => exact holds
  | handled number known takes read done =>
    have after := keeps _ _ _ known takes ‹_›
    rw [done] at after
    exact after
  | failed number known takes read done =>
    have after := keeps _ _ _ known takes ‹_›
    rw [done] at after
    exact after

end Registry

/-! ## The packet that a payload is -/

namespace Packet

variable {β : Type} [kind : Packet β] {payload body : Bytes} {packet : β}

theorem ofPayload?_of_read (number : Varint.readU32 payload = .ok kind.id body)
    (read : kind.read body = .ok packet []) : ofPayload? payload = some packet := by
  have split : RawPacket.decode payload = .ok ⟨kind.id, body⟩ := by
    have raw : RawPacket.read payload = .ok ⟨kind.id, body⟩ [] := Reader.bind_ok number
    rw [RawPacket.decode, raw]
  rw [ofPayload?, split?, split]
  dsimp only
  rw [if_pos rfl, read]

/-- A payload that is a packet is the number of its kind and a body that is read to its end. -/
theorem read_of_ofPayload? (is : ofPayload? payload = some packet) :
    ∃ body, Varint.readU32 payload = .ok kind.id body ∧ kind.read body = .ok packet [] := by
  rcases number : Varint.readU32 payload with ⟨id, body⟩ | ⟨fault, rest⟩
  · have raw : RawPacket.decode payload = .ok ⟨id, body⟩ := by
      have raw : RawPacket.read payload = .ok ⟨id, body⟩ [] := Reader.bind_ok number
      rw [RawPacket.decode, raw]
    rw [ofPayload?, split?, raw] at is
    dsimp only at is
    by_cases same : id = kind.id
    · rw [if_pos same] at is
      rcases read : kind.read body with ⟨value, _ | ⟨b, rest⟩⟩ | ⟨fault, rest⟩ <;> rw [read] at is <;>
        cases is
      exact ⟨body, by rw [same], read⟩
    · rw [if_neg same] at is
      cases is
  · have raw : RawPacket.decode payload = .error fault := by
      have raw : RawPacket.read payload = .error fault rest := by
        change EStateM.bind _ _ _ = _
        rw [EStateM.bind, number]
      rw [RawPacket.decode, raw]
    rw [ofPayload?, split?, raw] at is
    cases is

/-- A payload is the packet of one kind only. -/
theorem ofPayload?_eq_none {γ : Type} [other : Packet γ] (is : ofPayload? payload = some packet)
    (apart : kind.id ≠ other.id) : (ofPayload? payload : Option γ) = none := by
  cases is' : (ofPayload? payload : Option γ) with
  | none => rfl
  | some value =>
    obtain ⟨body, number, -⟩ := read_of_ofPayload? is
    obtain ⟨body', number', -⟩ := read_of_ofPayload? is'
    rw [number] at number'
    injection number' with same
    exact absurd same apart

end Packet

/-- A payload that is a packet of a kind with a handler is handed to that handler. -/
theorem Registry.dispatch_of_ofPayload? {β : Type} [kind : Packet β] {registry : Registry σ}
    {handler : Handler σ β} {payload : Bytes} {packet : β}
    (known : registry.entry? kind.id = some ⟨β, kind, some handler⟩)
    (is : Packet.ofPayload? payload = some packet) (context : σ) :
    registry.dispatch payload context =
      match handler packet context with
      | .ok () after => .ok ⟨kind.id, kind.name, true⟩ after
      | .error fault after => .error (.handler kind.name fault) after := by
  obtain ⟨body, number, read⟩ := Packet.read_of_ofPayload? is
  have ran : (Entry.mk β kind (some handler)).run body context =
      match handler packet context with
      | .ok () after => .ok true after
      | .error fault after => .error (.handler kind.name fault) after := by
    unfold Entry.run
    dsimp only
    rw [read]
    rfl
  unfold Registry.dispatch
  rw [number]
  dsimp only
  rw [known]
  dsimp only
  rw [ran]
  rcases handler packet context with ⟨_, after⟩ | ⟨fault, after⟩ <;> rfl

/-! ## What a packet that was read says -/

theorem ConnectionState.isRequestable_of_requested {n : Int32} {state : ConnectionState}
    (asked : requested n = .ok state) : state.isRequestable := by
  rw [requested] at asked
  split at asked
  · split at asked
    · cases asked
      assumption
    · cases asked
  · cases asked

/-- A handshake asks for a state that may be asked for. -/
theorem Handshake.isRequestable_of_read {body rest : Bytes} {packet : Handshake}
    (read : Packet.read body = .ok packet rest) : packet.nextState.isRequestable := by
  obtain ⟨version, _, -, read⟩ := Reader.of_bind_ok read
  obtain ⟨host, _, -, read⟩ := Reader.of_bind_ok read
  obtain ⟨port, _, -, read⟩ := Reader.of_bind_ok read
  obtain ⟨asked, _, -, read⟩ := Reader.of_bind_ok read
  cases known : ConnectionState.requested asked.toInt32 with
  | error fault =>
    rw [known] at read
    cases read
  | ok state =>
    rw [known] at read
    cases read
    exact ConnectionState.isRequestable_of_requested known

/-- A response that is accepted holds the token and a secret under the key. -/
theorem ServerKey.of_openResponse {key : ServerKey} {sealed token expected : Bytes}
    {secret : SharedSecret} (opened : key.openResponse sealed token expected = .ok secret) :
    key.decrypt? token = some expected ∧ key.decrypt? sealed = some secret.bytes := by
  rw [openResponse] at opened
  cases given : key.decrypt? token with
  | none => rw [given] at opened; cases opened
  | some token =>
    rw [given] at opened
    dsimp only at opened
    by_cases same : token = expected
    · rw [if_neg (not_not_intro same)] at opened
      cases held : key.decrypt? sealed with
      | none => rw [held] at opened; cases opened
      | some bytes =>
        rw [held] at opened
        dsimp only at opened
        by_cases whole : bytes.length = SharedSecret.length
        · rw [SharedSecret.ofBytes?, dif_pos whole] at opened
          cases opened
          exact ⟨congrArg some same, rfl⟩
        · rw [SharedSecret.ofBytes?, dif_neg whole] at opened
          cases opened
    · rw [if_pos same] at opened
      cases opened

/-! ## The default tables -/

namespace Handlers

variable {α : Type} {id : UInt32} {entry : Entry (Session α)}

theorem eq_of_entry?_handshaking
    (known : Registry.entry? (registries.active .handshaking) id = some entry) :
    entry = ⟨Handshake, inferInstance, some handshake⟩ := by
  obtain ⟨member, -⟩ := Registry.mem_of_entry?_build known
  exact List.mem_singleton.mp member

theorem eq_of_entry?_status (known : Registry.entry? (registries.active .status) id = some entry) :
    entry = ⟨StatusRequest, inferInstance, some statusRequest⟩ ∨
      entry = ⟨PingRequest, inferInstance, some pingRequest⟩ := by
  obtain ⟨member, -⟩ := Registry.mem_of_entry?_build known
  have listed : entry ∈ [⟨PingRequest, inferInstance, some pingRequest⟩,
    ⟨StatusRequest, inferInstance, some statusRequest⟩] := member
  rw [List.mem_cons, List.mem_singleton] at listed
  exact listed.symm

theorem eq_of_entry?_login (known : Registry.entry? (registries.active .login) id = some entry) :
    entry = ⟨LoginStart, inferInstance, some loginStart⟩ ∨
      entry = ⟨EncryptionResponse, inferInstance, some encryptionResponse⟩ := by
  obtain ⟨member, -⟩ := Registry.mem_of_entry?_build known
  have listed : entry ∈ [⟨EncryptionResponse, inferInstance, some encryptionResponse⟩,
    ⟨LoginStart, inferInstance, some loginStart⟩] := member
  rw [List.mem_cons, List.mem_singleton] at listed
  exact listed.symm

theorem eq_of_entry?_play (known : Registry.entry? (registries.active .play) id = some entry) :
    entry = ⟨KeepAlive, inferInstance, some keepAlive⟩ := by
  obtain ⟨member, -⟩ := Registry.mem_of_entry?_build known
  exact List.mem_singleton.mp member

/-! ## What the handlers before LOGIN come to -/

theorem handshaking_of_dispatch {session after : Session α} {payload : Bytes} {outcome : Dispatched}
    (done : (registries.active .handshaking).dispatch payload session = .ok outcome after) :
    ∃ packet : Handshake, packet.nextState.isRequestable ∧
      after = (session.setProtocolVersion packet.protocolVersion).requestTransition
        packet.nextState := by
  have served := Registry.served_dispatch (registries.active .handshaking) payload session
  rw [done] at served
  cases served with
  | dropped known idle => cases eq_of_entry?_handshaking known; cases idle
  | handled number known takes read handled =>
    cases eq_of_entry?_handshaking known
    cases takes
    cases handled
    exact ⟨_, Handshake.isRequestable_of_read read, rfl⟩

theorem status_of_dispatch {session after : Session α} {payload : Bytes} {outcome : Dispatched}
    (done : (registries.active .status).dispatch payload session = .ok outcome after) :
    after = session.send (StatusResponse.mk session.server.status.toJson) ∨
      ∃ n, after = (session.send (PongResponse.mk n)).disconnect := by
  have served := Registry.served_dispatch (registries.active .status) payload session
  rw [done] at served
  cases served with
  | dropped known idle => rcases eq_of_entry?_status known with rfl | rfl <;> cases idle
  | handled number known takes read handled =>
    rcases eq_of_entry?_status known with rfl | rfl <;> cases takes <;> cases handled
    · exact .inl rfl
    · exact .inr ⟨_, rfl⟩

/-! ## What the handlers of LOGIN come to -/

variable {session : Session α}

/-- The first name that is not empty is taken; any other is refused, and nothing is changed. -/
theorem loginStart_cases (packet : LoginStart) (session : Session α) :
    (∃ fault, (fault = .invalidData .duplicateLogin ∨ fault = .invalidData .emptyUsername) ∧
        loginStart packet session = .error fault session) ∨
      session.username = none ∧ packet.username.isEmpty = false ∧
        loginStart packet session = .ok () (match session.server.key with
          | some key =>
            let (verifyToken, session) :=
              (session.setProfile packet.username packet.uuid).issueVerifyToken
            session.send { serverId := "", publicKey := key.publicDer, verifyToken : EncryptionRequest }
          | none => finishLogin (session.setProfile packet.username packet.uuid)) := by
  obtain ⟨id, peer, state, server, version, username, uuid, token, actions, entropy, app⟩ := session
  cases username with
  | some username => exact .inl ⟨_, .inl rfl, rfl⟩
  | none =>
    cases empty : packet.username.isEmpty with
    | true =>
      refine .inl ⟨_, .inr rfl, ?_⟩
      unfold loginStart
      change (if packet.username.isEmpty then _ else _ : EStateM Fault (Session α) Unit) _ = _
      rw [empty]
      rfl
    | false => exact .inr ⟨rfl, rfl, loginStart_eq rfl empty⟩

/-- Why a response is not accepted. -/
inductive Unaccepted (packet : EncryptionResponse) (session : Session α) : Fault → Prop where
  | unrequested (unissued : session.verifyToken = none) :
    Unaccepted packet session (.invalidData .unrequestedResponse)
  | keyless {expected : Bytes} (issued : session.verifyToken = some expected)
    (absent : session.server.key = none) : Unaccepted packet session (.crypto .noKeyPair)
  | unopened {expected : Bytes} {key : ServerKey} {fault : Fault}
    (issued : session.verifyToken = some expected) (exchange : session.server.key = some key)
    (failed : key.openResponse packet.sharedSecret packet.verifyToken expected = .error fault) :
    Unaccepted packet session fault

/-- A response uses the token up.  If it is accepted, the key opens it with that token. -/
theorem encryptionResponse_cases (packet : EncryptionResponse) (session : Session α) :
    (∃ fault, Unaccepted packet session fault ∧
        encryptionResponse packet session = .error fault { session with verifyToken := none }) ∨
      ∃ expected key secret, session.verifyToken = some expected ∧ session.server.key = some key ∧
        key.openResponse packet.sharedSecret packet.verifyToken expected = .ok secret ∧
        encryptionResponse packet session =
          .ok () (finishLogin ({ session with verifyToken := none }.enableEncryption secret)) := by
  cases token : session.verifyToken with
  | none =>
    refine .inl ⟨_, .unrequested token, ?_⟩
    obtain ⟨id, peer, state, server, version, username, uuid, _, actions, entropy, app⟩ := session
    cases token
    rfl
  | some expected =>
    cases exchange : session.server.key with
    | none =>
      refine .inl ⟨_, .keyless token exchange, ?_⟩
      obtain ⟨id, peer, state, ⟨config, _, metrics⟩, version, username, uuid, _, actions, entropy,
        app⟩ := session
      cases token
      cases exchange
      rfl
    | some key =>
      rw [encryptionResponse_issued exchange token]
      cases opened : key.openResponse packet.sharedSecret packet.verifyToken expected with
      | error fault => exact .inl ⟨fault, .unopened token exchange opened, rfl⟩
      | ok secret => exact .inr ⟨expected, key, secret, rfl, rfl, opened, rfl⟩

theorem finishLogin_keeps (session : Session α) :
    (finishLogin session).state = session.state ∧
      (finishLogin session).verifyToken = session.verifyToken := by
  obtain ⟨id, peer, state, ⟨config, key, metrics⟩, version, username, uuid, token, actions, entropy,
    app⟩ := session
  simp only [finishLogin, announceCompression, playerUuid]
  cases config.compressionThreshold <;> cases uuid <;> exact ⟨rfl, rfl⟩

/-- What a payload in LOGIN comes to if it is not refused. -/
inductive Welcomed (payload : Bytes) (session : Session α) : Session α → Prop where
  /-- A name is taken. -/
  | started {packet : LoginStart} (is : Packet.ofPayload? payload = some packet)
    (fresh : session.username = none) (named : packet.username.isEmpty = false) :
    Welcomed payload session (match session.server.key with
      | some key =>
        let (verifyToken, session) :=
          (session.setProfile packet.username packet.uuid).issueVerifyToken
        session.send { serverId := "", publicKey := key.publicDer, verifyToken : EncryptionRequest }
      | none => finishLogin (session.setProfile packet.username packet.uuid))
  /-- A response is accepted. -/
  | responded {packet : EncryptionResponse} {expected : Bytes} {key : ServerKey}
    {secret : SharedSecret} (is : Packet.ofPayload? payload = some packet)
    (issued : session.verifyToken = some expected) (exchange : session.server.key = some key)
    (opened : key.openResponse packet.sharedSecret packet.verifyToken expected = .ok secret) :
    Welcomed payload session (finishLogin ({ session with verifyToken := none }.enableEncryption secret))

theorem entry?_encryptionResponse :
    Registry.entry? (registries.active .login) (Packet.id EncryptionResponse) =
      some ⟨EncryptionResponse, inferInstance, some (@encryptionResponse α)⟩ := rfl

theorem welcomed_of_dispatch {payload : Bytes} {dispatched : Dispatched} {after : Session α}
    (done : (registries.active .login).dispatch payload session = .ok dispatched after) :
    Welcomed payload session after := by
  have served := Registry.served_dispatch (registries.active .login) payload session
  rw [done] at served
  cases served with
  | dropped known idle => rcases eq_of_entry?_login known with rfl | rfl <;> cases idle
  | handled number known takes read handled =>
    obtain ⟨-, numbered⟩ := Registry.mem_of_entry?_build known
    rcases eq_of_entry?_login known with rfl | rfl <;> cases takes <;> cases numbered
    · rename_i packet
      rcases loginStart_cases packet session with
        ⟨fault, -, refused⟩ | ⟨fresh, named, started⟩
      · rw [refused] at handled
        cases handled
      · rw [started] at handled
        cases handled
        exact .started (Packet.ofPayload?_of_read number read) fresh named
    · rename_i packet
      rcases encryptionResponse_cases packet session with
        ⟨fault, -, refused⟩ | ⟨expected, key, secret, issued, exchange, opened, responded⟩
      · rw [refused] at handled
        cases handled
      · rw [responded] at handled
        cases handled
        exact .responded (Packet.ofPayload?_of_read number read) issued exchange opened

/-- A response that is handled uses up the token, whether it is accepted or not. -/
theorem verifyToken_of_response {payload : Bytes} {packet : EncryptionResponse}
    (is : Packet.ofPayload? payload = some packet) (session : Session α) :
    (stateOf ((registries.active .login).dispatch payload session)).verifyToken = none := by
  rw [Registry.dispatch_of_ofPayload? entry?_encryptionResponse is]
  rcases encryptionResponse_cases packet session with
    ⟨fault, -, refused⟩ | ⟨expected, key, secret, issued, exchange, opened, responded⟩
  · rw [refused]
    rfl
  · rw [responded]
    exact (finishLogin_keeps _).2

end Handlers

end GameTransport
