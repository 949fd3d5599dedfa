import GameTransport.Handlers
import GameTransport.Proofs.Batches
import GameTransport.Proofs.Clients

/-! # How the default handlers let a client in

Three packets of a client are answered on the way to PLAY.  What the last of them queues is the
`welcome`: SetCompression and compression, LoginSuccess, the move.  It is carried out in that order,
so each packet is encoded under the layers that a client has which follows the packets before it
(`carries_welcome`).
-/

namespace GameTransport.Handlers

variable {α : Type} {z : Zlib.Library} {config : ServerConfig} {key : Option ServerKey}

open Conversation (Performs)

/-! ## What is queued -/

/-- The packets that let a client in. -/
def welcomePackets (config : ServerConfig) (id : Uuid) (username : String) : List Bytes :=
  (match config.compressionThreshold with
    | some threshold => [Packet.encode (SetCompression.mk threshold.toUInt32)]
    | none => []) ++ [Packet.encode (LoginSuccess.mk id username)]

/-- The actions that let a client in. -/
def welcome (config : ServerConfig) (id : Uuid) (username : String) : List Action :=
  (match config.compressionThreshold with
    | some threshold =>
      [.send (Packet.encode (SetCompression.mk threshold.toUInt32)),
        .enableCompression threshold.toNat config.compressionLevel.toNat]
    | none => []) ++ [.send (Packet.encode (LoginSuccess.mk id username)), .transition .play]

/-- The identifier of a player, and the supply that is left. -/
def identify (id? : Option Uuid) (entropy : Entropy) : Uuid × Entropy :=
  match id? with
  | some id => (id, entropy)
  | none => (Uuid.ofRandom (entropy.draw 16).1, (entropy.draw 16).2)

theorem finishLogin_eq (session : Session α) {username : String}
    (named : session.username = some username) :
    finishLogin session =
      { session with
        uuid := some (identify session.uuid session.entropy).1
        entropy := (identify session.uuid session.entropy).2
        actions := session.actions ++
          welcome session.server.config (identify session.uuid session.entropy).1 username } := by
  obtain ⟨id, peer, state, ⟨config, key, metrics⟩, version, name, uuid, token, actions, entropy, app⟩ :=
    session
  cases named
  unfold finishLogin announceCompression playerUuid welcome identify
  dsimp only
  rcases config.compressionThreshold with _ | threshold <;> cases uuid <;>
    simp only [Session.send, Session.queue, Session.enableCompression, Session.requestTransition,
      Session.setProfile, Session.drawUuid, List.append_assoc, List.cons_append, List.nil_append,
      Option.getD_some]

/-! ## A conversation between two answers -/

/-- The conversation is in a state, has nothing left to do or to write, and its server has this
configuration and this key. -/
structure Rests (config : ServerConfig) (key : Option ServerKey) (state : ConnectionState)
    (c : Conversation α) : Prop where
  state : c.state = state
  outgoing : c.outgoing = []
  actions : c.session.actions = []
  config : c.session.server.config = config
  key : c.session.server.key = key

variable {c d : Conversation α} {client : Client}

/-- The client's codec and the server's belong together, and nothing is on the way. -/
structure Attends (c : Conversation α) (client : Client) : Prop where
  paired : Codec.Paired c.codec client.inlet.codec
  empty : client.inlet.buffer = []
  out : client.isLoggedIn = false

/-- What is left the same by a batch that sends packets and changes layers and states. -/
structure Keeps (c d : Conversation α) : Prop where
  username : d.session.username = c.session.username
  uuid : d.session.uuid = c.session.uuid
  config : d.session.server.config = c.session.server.config
  key : d.session.server.key = c.session.server.key

/-- A batch takes the conversation from `c` to `d`.  A client that reads what is written meanwhile
reads `packets`, and both ends are under the same layers again. -/
structure Carries (z : Zlib.Library) (batch : List Action) (c : Conversation α) (client : Client)
    (packets : List Bytes) (d : Conversation α) (after : Client) : Prop where
  performs : Performs z registries batch c d
  heard : ∃ octets, d.written = c.written ++ octets ∧
    client.receive z octets = (packets, none, after)
  paired : Codec.Paired d.codec after.inlet.codec
  empty : after.inlet.buffer = []
  keeps : Keeps c d
  outgoing : d.outgoing = []
  actions : d.session.actions = c.session.actions

/-- A packet fits any frame. -/
theorem exists_encode_of_small (bounded : z.Bounded) {payload : Bytes}
    (small : payload.length ≤ Packet.small) (codec : Codec) :
    ∃ octets after, Codec.encode z payload codec = .ok octets after := by
  refine Codec.exists_encode bounded ?_ codec
  unfold Packet.small at small
  unfold Frame.maxPayload
  omega

theorem carries_success (lawful : z.RoundTrips) (bounded : z.Bounded) (id : Uuid)
    {username : String} (name : username.length ≤ maxUsername) (state : c.state = .login)
    (outgoing : c.outgoing = []) (attends : Attends c client) :
    ∃ d after, Carries z [.send (Packet.encode (LoginSuccess.mk id username)), .transition .play]
        c client [Packet.encode (LoginSuccess.mk id username)] d after ∧
      d.state = .play ∧ d.codec.compression = c.codec.compression ∧
      d.codec.isEncrypted = c.codec.isEncrypted := by
  obtain ⟨paired, empty, out⟩ := attends
  have nonempty := Packet.encode_ne_nil (LoginSuccess.mk id username)
  obtain ⟨octets, codec, encoded⟩ := exists_encode_of_small bounded
    (@LoginSuccess.small ⟨id, username⟩ name) c.codec
  have heard := Client.receive_encode lawful nonempty paired.there empty encoded
  have followed := @Client.follow_loginSuccess
    { client with inlet := ⟨client.inlet.codec.heard octets, []⟩ } ⟨id, username⟩ out
  rw [followed] at heard
  have moved : registries.transition c.state .play (c.session.count Metrics.sent) =
      .ok ((c.session.count Metrics.sent).count Metrics.joined) := by
    rw [state]
    rfl
  -- The packet is encoded before the move, under the layers that the client has already.
  have performs : Performs z registries
      [.send (Packet.encode (LoginSuccess.mk id username)), .transition .play] c
      { c with
        session := { (c.session.count Metrics.sent).count Metrics.joined with state := .play }
        state := .play
        codec
        written := c.written ++ octets } := by
    refine .send outgoing encoded ?_
    exact .transition outgoing moved (.nil outgoing)
  exact ⟨_, _, ⟨performs, ⟨octets, rfl, heard⟩, paired.send lawful nonempty encoded, rfl,
    ⟨rfl, rfl, rfl, rfl⟩, outgoing, rfl⟩, rfl, Codec.compression_encode encoded,
    Codec.isEncrypted_encode encoded⟩

/-- The announcement of compression, and compression. -/
theorem carries_announcement (lawful : z.RoundTrips) (bounded : z.Bounded)
    {threshold : Nat} (level : Nat) {announced : UInt32} (same : announced.toNat = threshold)
    (outgoing : c.outgoing = []) (attends : Attends c client) :
    ∃ d after, Carries z [.send (Packet.encode (SetCompression.mk announced)),
        .enableCompression threshold level] c client
        [Packet.encode (SetCompression.mk announced)] d after ∧
      d.state = c.state ∧ after.isLoggedIn = false ∧
      d.codec.compression = some ⟨threshold, level⟩ ∧
      d.codec.isEncrypted = c.codec.isEncrypted := by
  obtain ⟨paired, empty, out⟩ := attends
  have nonempty := Packet.encode_ne_nil (SetCompression.mk announced)
  obtain ⟨octets, codec, encoded⟩ := exists_encode_of_small bounded
    (SetCompression.small ⟨announced⟩) c.codec
  have heard := Client.receive_encode lawful nonempty paired.there empty encoded
  have followed := @Client.follow_setCompression
    { client with inlet := ⟨client.inlet.codec.heard octets, []⟩ } ⟨announced⟩ out
  rw [followed] at heard
  -- The announcement is not compressed yet, and the client does not expect it to be.
  have performs : Performs z registries
      [.send (Packet.encode (SetCompression.mk announced)), .enableCompression threshold level] c
      { c with
        session := c.session.count Metrics.sent
        codec := codec.enableCompression threshold level
        written := c.written ++ octets } := by
    refine .send outgoing encoded ?_
    exact .enableCompression outgoing (.nil outgoing)
  have switched := (paired.send lawful nonempty encoded).enableCompression threshold level
    Compression.defaultLevel
  have encrypted : codec.isEncrypted = c.codec.isEncrypted := Codec.isEncrypted_encode encoded
  subst same
  exact ⟨_, _, ⟨performs, ⟨octets, rfl, heard⟩, switched, rfl, ⟨rfl, rfl, rfl, rfl⟩, outgoing, rfl⟩,
    rfl, out, rfl, encrypted⟩

/-- What one batch carries and what the next carries is carried by both. -/
theorem Carries.append {first second : List Action} {packets more : List Bytes}
    {d e : Conversation α} {between after : Client} (counted : client.inlet.Counted)
    (carries : Carries z first c client packets d between)
    (later : Carries z second d between more e after) :
    Carries z (first ++ second) c client (packets ++ more) e after := by
  obtain ⟨octets, written, heard⟩ := carries.heard
  obtain ⟨octets', written', heard'⟩ := later.heard
  refine ⟨carries.performs.append later.performs, ⟨octets ++ octets', ?_, ?_⟩, later.paired,
    later.empty, ?_, later.outgoing, later.actions.trans carries.actions⟩
  · rw [written', written, List.append_assoc]
  · rw [(Client.receive_append counted heard octets').2, heard']
  · exact ⟨later.keeps.username.trans carries.keeps.username,
      later.keeps.uuid.trans carries.keeps.uuid, later.keeps.config.trans carries.keeps.config,
      later.keeps.key.trans carries.keeps.key⟩

/-- A threshold that a payload can reach is announced as it is. -/
theorem toNat_toUInt32_of_le {t : UInt64} (low : t.toNat ≤ Frame.maxPayload) :
    t.toUInt32.toNat = t.toNat := by
  unfold Frame.maxPayload at low
  rw [UInt64.toNat_toUInt32]
  omega

/-- **The welcome is carried out, and a client that follows it gets its packets.**  Both ends are
under the layers of the configuration then. -/
theorem carries_welcome (lawful : z.RoundTrips) (bounded : z.Bounded) {id : Uuid}
    {username : String} (name : username.length ≤ maxUsername)
    (threshold : ∀ t ∈ config.compressionThreshold, t.toNat ≤ Frame.maxPayload)
    (state : c.state = .login) (outgoing : c.outgoing = []) (attends : Attends c client)
    (off : c.codec.compression = none) :
    ∃ d after, Carries z (welcome config id username) c client (welcomePackets config id username)
        d after ∧
      d.state = .play ∧ d.codec.compression = config.compression? ∧
      d.codec.isEncrypted = c.codec.isEncrypted := by
  have counted : client.inlet.Counted := by
    unfold Codec.Inlet.Counted
    rw [attends.paired.there.fresh]
    exact Nat.zero_le _
  unfold welcome welcomePackets ServerConfig.compression?
  cases announced : config.compressionThreshold with
  | none =>
    obtain ⟨d, after, carries, played, kept, encrypted⟩ :=
      carries_success lawful bounded id name state outgoing attends
    exact ⟨d, after, carries, played, kept.trans off, encrypted⟩
  | some t =>
    have fits : t.toUInt32.toNat = t.toNat := toNat_toUInt32_of_le (threshold t announced)
    obtain ⟨d, between, first, state', out, kept, encrypted⟩ :=
      carries_announcement lawful bounded config.compressionLevel.toNat fits outgoing attends
    obtain ⟨e, after, second, played, kept', encrypted'⟩ :=
      carries_success lawful bounded id name (state'.trans state) first.outgoing
        ⟨first.paired, first.empty, out⟩
    exact ⟨e, after, first.append counted second, played, kept'.trans kept,
      encrypted'.trans encrypted⟩

/-! ## Answers -/

/-- The conversation after a handshake that asks for LOGIN. -/
def greeted (packet : Handshake) (c : Conversation α) : Conversation α :=
  { c with
    session :=
      { c.session.count Metrics.received with
        protocolVersion := some packet.protocolVersion
        state := .login
        actions := [] }
    state := .login }

theorem answer_handshake {packet : Handshake} (back : Packet.ReadsBack packet)
    (asks : packet.nextState = .login) (state : c.state = .handshaking) (outgoing : c.outgoing = [])
    (actions : c.session.actions = []) :
    Conversation.answer z registries (Packet.encode packet) c = .ok true (greeted packet c) := by
  obtain ⟨⟨id, peer, _, server, _, name, uuid, token, _, entropy, app⟩, _, codec, _, written⟩ := c
  obtain ⟨version, host, port, _⟩ := packet
  cases asks
  cases state
  cases outgoing
  cases actions
  have known : Registry.entry? ((registries (α := α)).active .handshaking) (Packet.id Handshake) =
      some ⟨Handshake, inferInstance, some handshake⟩ := rfl
  refine Conversation.answer_of_performs (Conversation.dispatch_encode known back rfl)
    (List.cons_ne_nil _ _) ?_ rfl
  exact .transition rfl rfl (.nil rfl)

theorem loginStart_eq {packet : LoginStart} {session : Session α} (fresh : session.username = none)
    (named : packet.username.isEmpty = false) :
    loginStart packet session = .ok () (match session.server.key with
      | some key =>
        let (verifyToken, session) := (session.setProfile packet.username packet.uuid).issueVerifyToken
        session.send { serverId := "", publicKey := key.publicDer, verifyToken : EncryptionRequest }
      | none => finishLogin (session.setProfile packet.username packet.uuid)) := by
  obtain ⟨id, peer, state, ⟨config, key, metrics⟩, version, name, uuid, token, actions, entropy, app⟩ :=
    session
  cases fresh
  unfold loginStart
  change (if packet.username.isEmpty then _ else _ : EStateM Fault (Session α) Unit) _ = _
  rw [named]
  cases key <;> rfl

/-- The conversation of a server with a key after the name of a player: it has sent its request. -/
def asked (packet : LoginStart) (codec : Codec) (octets : Bytes) (c : Conversation α) :
    Conversation α :=
  { c with
    session :=
      { (c.session.count Metrics.received).count Metrics.sent with
        username := some packet.username
        uuid := packet.uuid
        verifyToken := some (c.session.entropy.draw ServerKey.tokenLength).1
        entropy := (c.session.entropy.draw ServerKey.tokenLength).2
        actions := [] }
    codec
    written := c.written ++ octets }

/-- The request for a key exchange. -/
def request (key : ServerKey) (entropy : Entropy) : EncryptionRequest where
  serverId := ""
  publicKey := key.publicDer
  verifyToken := (entropy.draw ServerKey.tokenLength).1

theorem answer_loginStart_of_key {key : ServerKey} {packet : LoginStart} {codec : Codec}
    {octets : Bytes} (back : Packet.ReadsBack packet) (named : packet.username.isEmpty = false)
    (rests : Rests config (some key) .login c) (fresh : c.session.username = none)
    (encoded : Codec.encode z (Packet.encode (request key c.session.entropy)) c.codec =
      .ok octets codec) :
    Conversation.answer z registries (Packet.encode packet) c =
      .ok true (asked packet codec octets c) := by
  obtain ⟨state, outgoing, actions, -, exchange⟩ := rests
  obtain ⟨⟨id, peer, _, ⟨_, _, metrics⟩, version, _, uuid, token, _, entropy, app⟩, _, codec', _,
    written⟩ := c
  cases state
  cases outgoing
  cases actions
  cases exchange
  cases fresh
  have known : Registry.entry? ((registries (α := α)).active .login) (Packet.id LoginStart) =
      some ⟨LoginStart, inferInstance, some loginStart⟩ := rfl
  refine Conversation.answer_of_performs
    (Conversation.dispatch_encode known back (loginStart_eq rfl named)) (List.cons_ne_nil _ _) ?_ rfl
  exact .send rfl encoded (.nil rfl)

/-- A client has been let in: the conversation is in PLAY, both ends are under the same layers, and
from then on there is nothing on the way. -/
structure Admitted (config : ServerConfig) (id : Uuid) (username : String) (encrypted : Bool)
    (d : Conversation α) (after : Client) : Prop where
  state : d.state = .play
  username : d.session.username = some username
  uuid : d.session.uuid = some id
  compression : d.codec.compression = config.compression?
  encrypted : d.codec.isEncrypted = encrypted
  paired : Codec.Paired d.codec after.inlet.codec
  empty : after.inlet.buffer = []

/-- A handler that finishes the login, after other actions or none. -/
theorem answer_welcome {payload : Bytes} {outcome : Dispatched} {session : Session α}
    {codec : Codec} {id : Uuid} {username : String} (first : List Action)
    (lawful : z.RoundTrips) (bounded : z.Bounded) (name : username.length ≤ maxUsername)
    (threshold : ∀ t ∈ config.compressionThreshold, t.toNat ≤ Frame.maxPayload)
    (dispatched : Conversation.dispatch registries payload (c.count Metrics.received) =
      .ok outcome { c with session })
    (queued : session.actions = first ++ welcome config id username)
    (performs : Performs z registries first { c with session := { session with actions := [] } }
      { c with session := { session with actions := [] }, codec })
    (state : c.state = .login) (outgoing : c.outgoing = [])
    (paired : Codec.Paired codec client.inlet.codec) (empty : client.inlet.buffer = [])
    (out : client.isLoggedIn = false) (off : codec.compression = none)
    (named : session.username = some username) (identified : session.uuid = some id) :
    ∃ d after octets, Conversation.answer z registries payload c = .ok true d ∧
      d.written = c.written ++ octets ∧
      client.receive z octets = (welcomePackets config id username, none, after) ∧
      Admitted config id username codec.isEncrypted d after := by
  obtain ⟨d, after, carries, played, compression, encrypted⟩ :=
    carries_welcome (c := { c with session := { session with actions := [] }, codec }) lawful bounded
      name threshold state outgoing ⟨paired, empty, out⟩ off
  obtain ⟨octets, written, heard⟩ := carries.heard
  refine ⟨d, after, octets, ?_, written, heard, played, carries.keeps.username.trans named,
    carries.keeps.uuid.trans identified, compression, encrypted, carries.paired, carries.empty⟩
  refine Conversation.answer_of_performs dispatched ?_ ?_ carries.actions
  · rw [queued]
    exact List.append_ne_nil_of_right_ne_nil _
      (List.append_ne_nil_of_right_ne_nil _ (List.cons_ne_nil _ _))
  · rw [queued]
    exact performs.append carries.performs

theorem answer_loginStart (client : Client) {packet : LoginStart} (lawful : z.RoundTrips)
    (bounded : z.Bounded)
    (name : packet.username.length ≤ maxUsername) (named : packet.username.isEmpty = false)
    (threshold : ∀ t ∈ config.compressionThreshold, t.toNat ≤ Frame.maxPayload)
    (rests : Rests config none .login c) (fresh : c.session.username = none)
    (paired : Codec.Paired c.codec client.inlet.codec) (empty : client.inlet.buffer = [])
    (out : client.isLoggedIn = false) (off : c.codec.compression = none) :
    ∃ d after octets, Conversation.answer z registries (Packet.encode packet) c = .ok true d ∧
      d.written = c.written ++ octets ∧
      client.receive z octets = (welcomePackets config (identify packet.uuid c.session.entropy).1
        packet.username, none, after) ∧
      Admitted config (identify packet.uuid c.session.entropy).1 packet.username
        c.codec.isEncrypted d after := by
  obtain ⟨state, outgoing, actions, configured, plain⟩ := rests
  have keyless : (c.session.count Metrics.received).server.key = none := plain
  have handled := @loginStart_eq α packet (c.session.count Metrics.received) fresh named
  rw [keyless] at handled
  dsimp only at handled
  rw [finishLogin_eq _ rfl] at handled
  have known : Registry.entry? ((registries (α := α)).active c.state) (Packet.id LoginStart) =
      some ⟨LoginStart, inferInstance, some loginStart⟩ := by
    rw [state]
    rfl
  have dispatched := Conversation.dispatch_encode (c := c.count Metrics.received) known
    (LoginStart.readsBack name) handled
  refine answer_welcome [] lawful bounded name threshold dispatched ?_ (.nil outgoing) state outgoing
    paired empty out off rfl rfl
  change c.session.actions ++ welcome c.session.server.config _ _ = _
  rw [actions, configured]
  rfl

/-- What comes of a response that the key has been tried on. -/
def settle (session : Session α) : Except Fault SharedSecret → EStateM Fault (Session α) Unit
  | .error fault => throw fault
  | .ok secret => set (finishLogin (session.enableEncryption secret))

/-- A response that was asked for uses up the token, and the key is tried on it. -/
theorem encryptionResponse_issued {packet : EncryptionResponse} {session : Session α}
    {key : ServerKey} {expected : Bytes} (exchange : session.server.key = some key)
    (token : session.verifyToken = some expected) :
    encryptionResponse packet session =
      settle { session with verifyToken := none }
        (key.openResponse packet.sharedSecret packet.verifyToken expected)
        { session with verifyToken := none } := by
  obtain ⟨id, peer, state, ⟨config, _, metrics⟩, version, name, uuid, _, actions, entropy, app⟩ :=
    session
  cases exchange
  cases token
  rfl

theorem encryptionResponse_eq {packet : EncryptionResponse} {session : Session α} {key : ServerKey}
    {expected : Bytes} {secret : SharedSecret} (exchange : session.server.key = some key)
    (token : session.verifyToken = some expected)
    (opened : key.openResponse packet.sharedSecret packet.verifyToken expected = .ok secret) :
    encryptionResponse packet session =
      .ok () (finishLogin ({ session with verifyToken := none }.enableEncryption secret)) := by
  rw [encryptionResponse_issued exchange token, opened]
  rfl

theorem answer_encryptionResponse (client : Client) {packet : EncryptionResponse} {key : ServerKey}
    {expected : Bytes} {secret : SharedSecret} {id? : Option Uuid} {username : String}
    (lawful : z.RoundTrips) (bounded : z.Bounded) (name : username.length ≤ maxUsername)
    (threshold : ∀ t ∈ config.compressionThreshold, t.toNat ≤ Frame.maxPayload)
    (back : Packet.ReadsBack packet) (rests : Rests config (some key) .login c)
    (named : c.session.username = some username) (claimed : c.session.uuid = id?)
    (token : c.session.verifyToken = some expected)
    (opened : key.openResponse packet.sharedSecret packet.verifyToken expected = .ok secret)
    (paired : Codec.Paired (c.codec.enableEncryption secret) client.inlet.codec)
    (empty : client.inlet.buffer = []) (out : client.isLoggedIn = false)
    (off : c.codec.compression = none) :
    ∃ d after octets, Conversation.answer z registries (Packet.encode packet) c = .ok true d ∧
      d.written = c.written ++ octets ∧
      client.receive z octets =
        (welcomePackets config (identify id? c.session.entropy).1 username, none, after) ∧
      Admitted config (identify id? c.session.entropy).1 username true d after := by
  obtain ⟨state, outgoing, actions, configured, exchange⟩ := rests
  subst claimed
  have finished := finishLogin_eq
    ({ c.session.count Metrics.received with verifyToken := none }.enableEncryption secret) named
  have handled := @encryptionResponse_eq α packet (c.session.count Metrics.received) key expected
    secret exchange token opened
  rw [finished] at handled
  have known : Registry.entry? ((registries (α := α)).active c.state) (Packet.id EncryptionResponse) =
      some ⟨EncryptionResponse, inferInstance, some encryptionResponse⟩ := by
    rw [state]
    rfl
  have dispatched := Conversation.dispatch_encode (c := c.count Metrics.received) known back handled
  refine answer_welcome [.enableEncryption secret] lawful bounded name threshold dispatched ?_
    (.enableEncryption outgoing (.nil outgoing)) state outgoing paired empty out off named rfl
  change (c.session.actions ++ [.enableEncryption secret]) ++ welcome c.session.server.config _ _ = _
  rw [actions, configured]
  rfl

end GameTransport.Handlers
