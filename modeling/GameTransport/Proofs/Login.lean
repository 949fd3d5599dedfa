import GameTransport.Proofs.Deliveries
import GameTransport.Proofs.Keys
import GameTransport.Proofs.Welcome
import Mathlib.NumberTheory.LucasLehmer

/-! # Logins end with both ends under the same layers

A server with a checked configuration and a player with a name (`Player.Proper`), who can answer its
key if there is one (`Player.Knows`), have only one way to go.  Offline the two packets of the player
come to the welcome; online they come to the request, and the answer to it comes to the welcome.
Either is what `Deliveries` asks of a beginning (`Login.follows_begin`), so the two ends get there
however the octets arrive (`Login.run_reaches_play`).
-/

namespace GameTransport

/-! ## A connection that has just been accepted -/

namespace Connection

variable {α : Type} {registries : StateRegistries (Session α)} {z : Zlib.Library} {c : Connection α}
  {d : Conversation α} {octets : Bytes}

theorem start_eq (registries : StateRegistries (Session α)) {session : Session α}
    (patient : session.server.config.readTimeout.nanos ≠ 0) :
    start registries session =
      { conversation := ({ session : Conversation α }).enter registries
        readTimeout := session.server.config.readTimeout } := by
  have early : ¬ session.server.config.readTimeout.nanos ≤ 0 + 0 := by omega
  change (if session.server.config.readTimeout.nanos ≤ 0 + 0 then _ else _) = _
  rw [if_neg early]
  rfl

/-- What the octets make of the conversation, they make of the connection. -/
theorem expects_of_takes (opening : c.phase = .opening) (empty : c.buffer = [])
    (fresh : c.conversation.codec.decrypted = 0) (nonempty : octets ≠ [])
    (framed : octets.head? ≠ some LegacyPing.opening)
    (takes : Conversation.Takes z registries octets c.conversation d) :
    Expects registries z c octets (c.served d) := by
  obtain ⟨x, xs, rfl⟩ := List.exists_cons_of_ne_nil nonempty
  have framed' : x ≠ LegacyPing.opening := fun same => framed (congrArg some same)
  refine ⟨?_, ?_, ?_⟩
  · unfold Sound
    rw [opening]
    exact ⟨empty, fresh⟩
  · rw [redecryptedBy_of_opening opening empty framed', redecryptedBy_of_serving rfl nonempty]
    dsimp only
    rw [empty, List.nil_append]
    exact takes.clean
  · rw [receive_of_opening opening empty framed', receive_of_serving rfl nonempty]
    dsimp only
    rw [empty, List.nil_append, takes.drained]
    rfl

end Connection

/-- A configuration is not refused if none of the four problems is there. -/
theorem ServerConfig.problem?_eq_none_iff {config : ServerConfig} :
    config.problem? = none ↔ config.maxConnections ≠ 0 ∧ config.readTimeout.nanos ≠ 0 ∧
      config.compressionLevel.toNat ≤ Compression.maxLevel ∧
      ∀ t ∈ config.compressionThreshold, t.toNat ≤ Frame.maxPayload := by
  unfold problem?
  by_cases connections : config.maxConnections = 0
  · simp [connections]
  by_cases timeout : config.readTimeout.nanos = 0
  · simp [connections, timeout]
  by_cases level : Compression.maxLevel < config.compressionLevel.toNat
  · simp [connections, timeout, level, Nat.not_le.mpr level]
  cases threshold : config.compressionThreshold <;>
    simp [connections, timeout, level, Nat.not_lt.mp level]

/-- What is known of a configuration that is not refused. -/
theorem ServerConfig.of_problem?_eq_none {config : ServerConfig} (valid : config.problem? = none) :
    config.readTimeout.nanos ≠ 0 ∧ ∀ t ∈ config.compressionThreshold, t.toNat ≤ Frame.maxPayload := by
  obtain ⟨-, patient, -, low⟩ := problem?_eq_none_iff.mp valid
  exact ⟨patient, low⟩

theorem Codec.exists_encode_plain {z : Zlib.Library} (bounded : z.Bounded) {payload : Bytes}
    (small : payload.length ≤ Packet.small) :
    ∃ octets, Codec.encode z payload {} = .ok octets {} := by
  obtain ⟨octets, after, encoded⟩ := Handlers.exists_encode_of_small bounded small {}
  obtain rfl := Codec.encode_of_plain rfl encoded
  exact ⟨octets, encoded⟩

theorem Entropy.length_draw (entropy : Entropy) (count : Nat) :
    (entropy.draw count).1.length = count := by
  unfold draw
  rw [List.length_map, List.length_range]

/-! ## What the client and the server make of each other -/

/-- What the player sends is well-formed, and asks for LOGIN. -/
structure Player.Proper (z : Zlib.Library) (player : Player) : Prop where
  asks : player.handshake.nextState = .login
  address : player.handshake.serverAddress.length ≤ Handshake.maxAddress
  /-- The first frame does not look like the ping of an old client. -/
  framed : ∀ octets client, Client.send z (Packet.encode player.handshake) {} = .ok octets client →
    octets.head? ≠ some LegacyPing.opening
  named : player.start.username ≠ ""
  name : player.start.username.length ≤ maxUsername

/-- The public key fits its packet, and so do the player's messages under it, which the server can
open. -/
structure Player.Knows (player : Player) (key : ServerKey) : Prop where
  shown : key.publicDer.length ≤ EncryptionRequest.maxPublicKey
  fits : ∀ token : Bytes, token.length = ServerKey.tokenLength →
    (player.respond token).sharedSecret.length ≤ maxEncrypted ∧
      (player.respond token).verifyToken.length ≤ maxEncrypted
  opened : ∀ token : Bytes, token.length = ServerKey.tokenLength →
    key.decrypt? (player.respond token).sharedSecret = some player.secret.bytes ∧
      key.decrypt? (player.respond token).verifyToken = some token

/-- The answer that encrypts under a public key. -/
def EncryptionResponse.under (key : Rsa.PublicKey) (filler : Bytes) (secret : SharedSecret)
    (token : Bytes) : EncryptionResponse where
  sharedSecret := (key.encrypt? filler secret.bytes).getD []
  verifyToken := (key.encrypt? filler token).getD []

namespace Player

variable {z : Zlib.Library} {player : Player} {key : ServerKey}

/-- A player that encrypts under the public key of a pair knows the key. -/
theorem knows_ofKeyPair {pair : Rsa.KeyPair} {p q : Nat} {filler : Bytes}
    (ofPrimes : pair.OfPrimes p q)
    (shown : (Der.encode pair.publicKey).length ≤ EncryptionRequest.maxPublicKey)
    (room : SharedSecret.length + Rsa.minPadding + 3 ≤ pair.publicKey.size)
    (fits : pair.publicKey.size ≤ maxEncrypted) (usable : filler.filter (· != 0) ≠ [])
    (answers : player.respond = .under pair.publicKey filler player.secret) :
    player.Knows (.ofKeyPair pair) := by
  have room' : player.secret.bytes.length + Rsa.minPadding + 3 ≤ pair.publicKey.size := by
    rw [player.secret.length_eq]
    exact room
  obtain ⟨sealed, seals, size⟩ := Rsa.PublicKey.exists_encrypt? room' usable
  have token' (token : Bytes) (length : token.length = ServerKey.tokenLength) :
      ∃ cipher, pair.publicKey.encrypt? filler token = some cipher ∧
        cipher.length = pair.publicKey.size := by
    refine Rsa.PublicKey.exists_encrypt? ?_ usable
    rw [length]
    exact Nat.le_trans (by decide) room
  refine ⟨shown, fun token length => ?_, fun token length => ?_⟩
  · obtain ⟨cipher, encrypted, size'⟩ := token' token length
    rw [answers]
    unfold EncryptionResponse.under
    rw [seals, encrypted]
    exact ⟨size.trans_le fits, size'.trans_le fits⟩
  · obtain ⟨cipher, encrypted, -⟩ := token' token length
    rw [answers]
    unfold EncryptionResponse.under
    rw [seals, encrypted]
    exact ⟨ofPrimes.decrypt?_encrypt? seals, ofPrimes.decrypt?_encrypt? encrypted⟩

theorem Knows.openResponse (knows : player.Knows key) {token : Bytes}
    (size : token.length = ServerKey.tokenLength) :
    key.openResponse (player.respond token).sharedSecret (player.respond token).verifyToken token =
      .ok player.secret := by
  have whole : SharedSecret.ofBytes? player.secret.bytes = some player.secret :=
    dif_pos player.secret.length_eq
  obtain ⟨secret, token_eq⟩ := knows.opened token size
  unfold ServerKey.openResponse
  rw [token_eq]
  dsimp only
  rw [if_neg (not_not_intro rfl), secret]
  dsimp only
  rw [whole]

theorem send_eq {payload octets : Bytes} (encoded : Codec.encode z payload {} = .ok octets {}) :
    Client.send z payload {} = .ok octets {} := by
  unfold Client.send
  dsimp only
  rw [encoded]
  rfl

theorem greet_eq {first second : Bytes}
    (encoded : Codec.encode z (Packet.encode player.handshake) {} = .ok first {})
    (encoded' : Codec.encode z (Packet.encode player.start) {} = .ok second {}) :
    player.greet z {} = .ok (first ++ second) {} := by
  change EStateM.bind (Client.send z _) _ {} = _
  unfold EStateM.bind
  rw [send_eq encoded]
  change EStateM.bind (Client.send z _) _ {} = _
  unfold EStateM.bind
  rw [send_eq encoded']
  rfl

/-- What a client begins with does not look like an old client. -/
theorem Proper.framed_append (proper : player.Proper z) (lawful : z.RoundTrips) {octets : Bytes}
    (encoded : Codec.encode z (Packet.encode player.handshake) {} = .ok octets {}) (late : Bytes) :
    octets ++ late ≠ [] ∧ (octets ++ late).head? ≠ some LegacyPing.opening := by
  have mirrored : Codec.Mirrored {} {} := ⟨rfl, rfl, rfl⟩
  have decoded := (mirrored.decode_encode lawful (Packet.encode_ne_nil player.handshake) encoded).1
  have framed := proper.framed octets {} (send_eq encoded)
  cases octets with
  | nil =>
    rw [Codec.decode_of_empty rfl] at decoded
    cases decoded
  | cons x xs => exact ⟨List.cons_ne_nil _ _, framed⟩

end Player

namespace Handlers

open Conversation (Takes)

variable {α : Type} {z : Zlib.Library} {config : ServerConfig} {key : ServerKey} {player : Player}
  {c : Conversation α} {first second : Bytes}

theorem rests_greeted {key? : Option ServerKey} {state : ConnectionState} (packet : Handshake)
    (rests : Rests config key? state c) : Rests config key? .login (greeted packet c) :=
  ⟨rfl, rests.outgoing, rfl, rests.config, rests.key⟩

/-- Two ends without any layers. -/
theorem paired_plain : Codec.Paired {} {} := ⟨⟨rfl, rfl, rfl⟩, ⟨rfl, rfl, rfl⟩⟩

/-- The two packets that a client begins with are answered one after the other. -/
theorem takes_greeting {key? : Option ServerKey} {d e : Conversation α} {late : Bytes}
    (lawful : z.RoundTrips) (proper : player.Proper z) (rests : Rests config key? .handshaking c)
    (plain : c.codec = {})
    (encoded : Codec.encode z (Packet.encode player.handshake) {} = .ok first {})
    (encoded' : Codec.encode z (Packet.encode player.start) {} = .ok second {})
    (answered : Conversation.answer z registries (Packet.encode player.start)
      (greeted player.handshake c) = .ok true d)
    (later : Takes z registries late d e) : Takes z registries (first ++ (second ++ late)) c e := by
  have requestable : player.handshake.nextState.isRequestable := by
    rw [proper.asks]
    rfl
  have greets := answer_handshake (z := z) (Handshake.readsBack proper.address requestable)
    proper.asks rests.state rests.outgoing rests.actions
  have mirrored : Codec.Mirrored {} c.codec := by
    rw [plain]
    exact paired_plain.back
  have off : c.codec.cipher = none := by rw [plain]
  refine .cons lawful (Packet.encode_ne_nil _) mirrored off encoded greets ?_
  exact .cons lawful (Packet.encode_ne_nil _) mirrored off encoded' answered later

/-- A server without a key lets the client in after its name. -/
theorem takes_offline (lawful : z.RoundTrips) (bounded : z.Bounded) (proper : player.Proper z)
    (threshold : ∀ t ∈ config.compressionThreshold, t.toNat ≤ Frame.maxPayload)
    (rests : Rests config none .handshaking c) (fresh : c.session.username = none)
    (plain : c.codec = {})
    (encoded : Codec.encode z (Packet.encode player.handshake) {} = .ok first {})
    (encoded' : Codec.encode z (Packet.encode player.start) {} = .ok second {}) :
    let id := (identify player.start.uuid c.session.entropy).1
    ∃ d after octets, Takes z registries (first ++ second) c d ∧ d.written = c.written ++ octets ∧
      Client.receive z {} octets = (welcomePackets config id player.start.username, none, after) ∧
      Admitted config id player.start.username false d after := by
  have paired : Codec.Paired c.codec {} := by
    rw [plain]
    exact paired_plain
  obtain ⟨d, after, octets, answered, written, heard, admitted⟩ :=
    answer_loginStart {} lawful bounded proper.name (String.isEmpty_eq_false_iff.mpr proper.named)
      threshold (rests_greeted player.handshake rests) fresh paired rfl rfl
      (congrArg Codec.compression plain)
  have taken := takes_greeting lawful proper rests plain encoded encoded' answered .nil
  rw [List.append_nil] at taken
  have off : c.codec.isEncrypted = false := by
    rw [plain]
    rfl
  exact ⟨d, after, octets, taken, written, heard, off ▸ admitted⟩

/-! ## With an exchange of keys -/

theorem size_request (knows : player.Knows key) (entropy : Entropy) :
    Packet.ReadsBack (request key entropy) ∧
      (Packet.encode (request key entropy)).length ≤ Packet.small := by
  have size : (request key entropy).verifyToken.length ≤ maxEncrypted := by
    change (entropy.draw ServerKey.tokenLength).1.length ≤ maxEncrypted
    rw [Entropy.length_draw]
    decide
  exact ⟨EncryptionRequest.readsBack (Nat.zero_le _) knows.shown size,
    EncryptionRequest.small (Nat.zero_le _) knows.shown size⟩

/-- The client that has read the request of a server. -/
def askedClient (key : ServerKey) (entropy : Entropy) : Client where
  token := some (request key entropy).verifyToken

theorem receive_request (lawful : z.RoundTrips) (knows : player.Knows key) (entropy : Entropy)
    {octets : Bytes}
    (encoded : Codec.encode z (Packet.encode (request key entropy)) {} = .ok octets {}) :
    Client.receive z {} octets =
      ([Packet.encode (request key entropy)], none, askedClient key entropy) := by
  have heard := @Client.receive_encode z {} _ octets {} {} lawful (Packet.encode_ne_nil _)
    paired_plain.there rfl encoded
  rw [Client.follow_encryptionRequest (size_request knows entropy).1 rfl] at heard
  exact heard

/-- Such a client answers, and encrypts. -/
theorem answer_askedClient {entropy : Entropy} {response : Bytes}
    (encoded : Codec.encode z (Packet.encode (player.respond (request key entropy).verifyToken)) {} =
      .ok response {}) :
    player.answer z (request key entropy).verifyToken (askedClient key entropy) =
      .ok response ((askedClient key entropy).encrypt player.secret) := by
  have sends : Codec.encode z (Packet.encode (player.respond (request key entropy).verifyToken))
      (askedClient key entropy).inlet.codec = .ok response {} := encoded
  rw [Player.answer_eq, sends]
  rfl

theorem rests_asked {codec : Codec} {octets : Bytes} (packet : LoginStart)
    (rests : Rests config (some key) .login c) :
    Rests config (some key) .login (asked packet codec octets c) :=
  ⟨rests.state, rests.outgoing, rfl, rests.config, rests.key⟩

/-- A server with a key lets the client in after its response. -/
theorem takes_response (lawful : z.RoundTrips) (bounded : z.Bounded) (proper : player.Proper z)
    (knows : player.Knows key)
    (threshold : ∀ t ∈ config.compressionThreshold, t.toNat ≤ Frame.maxPayload)
    (rests : Rests config (some key) .login c) {entropy : Entropy}
    (supply : c.session.entropy = entropy) (asks : Bytes) {response : Bytes}
    (encoded : Codec.encode z (Packet.encode (player.respond (request key entropy).verifyToken)) {} =
      .ok response {}) :
    let answering := (askedClient key entropy).encrypt player.secret
    let id := (identify player.start.uuid (entropy.draw ServerKey.tokenLength).2).1
    ∃ d after octets, Takes z registries response (asked player.start {} asks c) d ∧
      d.written = c.written ++ asks ++ octets ∧
      answering.receive z octets = (welcomePackets config id player.start.username, none, after) ∧
      Admitted config id player.start.username true d after := by
  subst supply
  intro answering id
  have size : (request key c.session.entropy).verifyToken.length = ServerKey.tokenLength :=
    Entropy.length_draw _ _
  obtain ⟨fits, fits'⟩ := knows.fits _ size
  obtain ⟨d, after, octets, answered, written, heard, admitted⟩ :=
    answer_encryptionResponse answering lawful bounded proper.name threshold
      (EncryptionResponse.readsBack fits fits') (rests_asked player.start rests) rfl rfl rfl
      (knows.openResponse size) (paired_plain.enableEncryption player.secret) rfl rfl rfl
  have taken : Takes z registries (response ++ []) (asked player.start {} asks c) d :=
    .cons lawful (Packet.encode_ne_nil _) paired_plain.back rfl encoded answered .nil
  rw [List.append_nil] at taken
  exact ⟨d, after, octets, taken, written, heard, admitted⟩

/-- A server with a key asks for the exchange, and lets the client in after its response. -/
theorem takes_online (lawful : z.RoundTrips) (bounded : z.Bounded) (proper : player.Proper z)
    (knows : player.Knows key)
    (threshold : ∀ t ∈ config.compressionThreshold, t.toNat ≤ Frame.maxPayload)
    (rests : Rests config (some key) .handshaking c) (fresh : c.session.username = none)
    (plain : c.codec = {}) {entropy : Entropy} (supply : c.session.entropy = entropy)
    (encoded : Codec.encode z (Packet.encode player.handshake) {} = .ok first {})
    (encoded' : Codec.encode z (Packet.encode player.start) {} = .ok second {}) :
    let answering := (askedClient key entropy).encrypt player.secret
    let id := (identify player.start.uuid (entropy.draw ServerKey.tokenLength).2).1
    ∃ between asks response d after octets,
      (Takes z registries (first ++ second) c between ∧ between.written = c.written ++ asks ∧
        Client.receive z {} asks =
          ([Packet.encode (request key entropy)], none, askedClient key entropy)) ∧
      player.answer z (request key entropy).verifyToken (askedClient key entropy) =
        .ok response answering ∧
      (Takes z registries (first ++ (second ++ response)) c d ∧
        d.written = between.written ++ octets ∧
        answering.receive z octets = (welcomePackets config id player.start.username, none, after) ∧
        Admitted config id player.start.username true d after) := by
  intro answering id
  have greets := rests_greeted player.handshake rests
  obtain ⟨asks, asked'⟩ := Codec.exists_encode_plain bounded (size_request knows entropy).2
  obtain ⟨fits, fits'⟩ := knows.fits (request key entropy).verifyToken (Entropy.length_draw _ _)
  obtain ⟨response, responded⟩ :=
    Codec.exists_encode_plain bounded (EncryptionResponse.small fits fits')
  -- Neither the handshake nor the name has changed the layers, so the request is in plain octets.
  have asked'' : Codec.encode z (Packet.encode (request key c.session.entropy))
      (greeted player.handshake c).codec = .ok asks {} := by
    change Codec.encode z _ c.codec = _
    rw [plain, supply]
    exact asked'
  have answered := answer_loginStart_of_key (LoginStart.readsBack proper.name)
    (String.isEmpty_eq_false_iff.mpr proper.named) greets fresh asked''
  obtain ⟨d, after, octets, takes, written, heard, admitted⟩ :=
    takes_response lawful bounded proper knows threshold greets supply asks responded
  have unanswered := takes_greeting lawful proper rests plain encoded encoded' answered .nil
  rw [List.append_nil] at unanswered
  exact ⟨_, asks, response, d, after, octets,
    ⟨unanswered, rfl, receive_request lawful knows entropy asked'⟩, answer_askedClient responded,
    takes_greeting lawful proper rests plain encoded encoded' answered takes, written, heard,
    admitted⟩

end Handlers

namespace Login

open Handlers (registries request identify welcomePackets askedClient)

variable {α : Type} {z : Zlib.Library} {config : ServerConfig} {key : ServerKey} {player : Player}

/-- The identifier that a player gets: its own, or one that is drawn after the token. -/
def playerId (config : ServerConfig) (player : Player) (entropy : Entropy) : Uuid :=
  (identify player.start.uuid
    (if config.onlineMode then (entropy.draw ServerKey.tokenLength).2 else entropy)).1

/-- What a client is to decode. -/
def expected (config : ServerConfig) (key : ServerKey) (player : Player) (entropy : Entropy) :
    List Bytes :=
  (if config.onlineMode then [Packet.encode (request key entropy)] else []) ++
    welcomePackets config (playerId config player entropy) player.start.username

theorem expected_of_offline (offline : config.onlineMode = false) (entropy : Entropy) :
    playerId config player entropy = (identify player.start.uuid entropy).1 ∧
      expected config key player entropy =
        welcomePackets config (playerId config player entropy) player.start.username := by
  unfold expected playerId
  rw [offline]
  exact ⟨rfl, rfl⟩

theorem expected_of_online (online : config.onlineMode = true) (entropy : Entropy) :
    playerId config player entropy =
        (identify player.start.uuid (entropy.draw ServerKey.tokenLength).2).1 ∧
      expected config key player entropy = Packet.encode (request key entropy) ::
        welcomePackets config (playerId config player entropy) player.start.username := by
  unfold expected playerId
  rw [online]
  exact ⟨rfl, rfl⟩

/-- Both ends of a login that is over. -/
structure InPlay (config : ServerConfig) (player : Player) (id : Uuid) (c : Connection α)
    (client : Client) : Prop where
  stays : c.isClosed = false
  state : c.conversation.state = .play
  username : c.session.username = some player.start.username
  uuid : c.session.uuid = some id
  compression : c.conversation.codec.compression = config.compression?
  compression' : client.inlet.codec.threshold? = config.compressionThreshold.map (·.toNat)
  encrypted : c.conversation.codec.isEncrypted = config.onlineMode
  encrypted' : client.inlet.codec.isEncrypted = config.onlineMode
  paired : Codec.Paired c.conversation.codec client.inlet.codec
  /-- The threshold that is announced is the one that is enforced. -/
  announced : ∀ t ∈ config.compressionThreshold, t.toUInt32.toNat = t.toNat
  read : c.buffer = []
  read' : client.inlet.buffer = []

theorem inPlay_of_admitted {c : Connection α} {d : Conversation α} {id : Uuid} {after : Client}
    (threshold : ∀ t ∈ config.compressionThreshold, t.toNat ≤ Frame.maxPayload)
    (admitted : Handlers.Admitted config id player.start.username config.onlineMode d after) :
    InPlay config player id (c.served d) after := by
  have announced : ∀ t ∈ config.compressionThreshold, t.toUInt32.toNat = t.toNat :=
    fun t member => Handlers.toNat_toUInt32_of_le (threshold t member)
  have followed : after.inlet.codec.threshold? = config.compressionThreshold.map (·.toNat) := by
    rw [admitted.paired.there.threshold]
    unfold Codec.threshold?
    rw [admitted.compression]
    unfold ServerConfig.compression?
    rw [Option.map_map]
    rfl
  exact ⟨rfl, admitted.state, admitted.username, admitted.uuid, admitted.compression, followed,
    admitted.encrypted, admitted.paired.isEncrypted_eq.trans admitted.encrypted, admitted.paired,
    announced, rfl, admitted.empty⟩

theorem heads_begin {c d : Connection α} {sent : Bytes} {packets : List Bytes} {after : Client}
    (expects : Connection.Expects registries z c sent d)
    (heard : Client.receive z {} d.conversation.written = (packets, none, after)) :
    Heads z packets d after { connection := c, sent } := by
  have idle : Client.receive z {} [] = ([], none, {}) := by
    rw [Client.receive_nil, @Client.drain_of_none z {} _ (Codec.decode_of_empty rfl)]
  exact ⟨expects, Nat.zero_le _, Nat.zero_le _, idle, ⟨packets, heard, rfl⟩, .inl rfl, rfl⟩

theorem not_isRequest_welcomePackets (id : Uuid) (username : String) :
    ∀ payload ∈ welcomePackets config id username, ¬ Client.isRequest payload := by
  have other {β : Type} [Packet β] (packet : β) (kind : Packet.id β ≠ Packet.id EncryptionRequest) :
      ¬ Client.isRequest (Packet.encode packet) := by
    unfold Client.isRequest
    rw [Packet.ofPayload?_of_ne packet kind]
    exact Bool.false_ne_true
  intro payload member
  unfold welcomePackets at member
  rcases List.mem_append.mp member with announced | success
  · cases threshold : config.compressionThreshold with
    | none =>
      rw [threshold] at announced
      cases announced
    | some t =>
      rw [threshold] at announced
      rw [List.mem_singleton.mp announced]
      exact other _ (by decide)
  · rw [List.mem_singleton.mp success]
    exact other _ (by decide)

/-- A connection that has read nothing, of a server with this configuration and this key. -/
structure Accepted (config : ServerConfig) (key? : Option ServerKey) (entropy : Entropy)
    (c : Connection α) : Prop where
  opening : c.phase = .opening
  empty : c.buffer = []
  plain : c.conversation.codec = {}
  written : c.conversation.written = []
  rests : Handlers.Rests config key? .handshaking c.conversation
  fresh : c.conversation.session.username = none
  supply : c.conversation.session.entropy = entropy

theorem accepted_start (patient : config.readTimeout.nanos ≠ 0) (metrics : Metrics)
    (id : ConnectionId) (peer : Option SocketAddress) (entropy : Entropy) (app : α) :
    let server := { ServerContext.start config key with metrics }
    Accepted config (if config.onlineMode then some key else none) entropy
      (Connection.start registries { id, peer, server, entropy, app }) := by
  intro server
  rw [@Connection.start_eq α registries { id, peer, server, entropy, app } patient]
  exact ⟨rfl, rfl, rfl, rfl, ⟨rfl, rfl, rfl, rfl, rfl⟩, rfl, rfl⟩

variable {c : Connection α} {entropy : Entropy} {first second : Bytes}

/-- What the octets of a client make of the conversation, they make of the connection. -/
theorem Accepted.expects {key? : Option ServerKey} {d : Conversation α} {late : Bytes}
    (accepted : Accepted config key? entropy c) (lawful : z.RoundTrips) (proper : player.Proper z)
    (encoded : Codec.encode z (Packet.encode player.handshake) {} = .ok first {})
    (takes : Conversation.Takes z registries (first ++ late) c.conversation d) :
    Connection.Expects registries z c (first ++ late) (c.served d) := by
  obtain ⟨nonempty, framed⟩ := proper.framed_append lawful encoded late
  have fresh : c.conversation.codec.decrypted = 0 := by rw [accepted.plain]
  exact Connection.expects_of_takes accepted.opening accepted.empty fresh nonempty framed takes

theorem follows_offline (lawful : z.RoundTrips) (bounded : z.Bounded) (proper : player.Proper z)
    (threshold : ∀ t ∈ config.compressionThreshold, t.toNat ≤ Frame.maxPayload)
    (offline : config.onlineMode = false) (accepted : Accepted config none entropy c)
    (encoded : Codec.encode z (Packet.encode player.handshake) {} = .ok first {})
    (encoded' : Codec.encode z (Packet.encode player.start) {} = .ok second {}) :
    ∃ d after, Follows z player (expected config key player entropy) d after
        { connection := c, sent := first ++ second } ∧
      InPlay config player (playerId config player entropy) d after := by
  obtain ⟨drawn, packets⟩ := @expected_of_offline config key player offline entropy
  obtain ⟨d, after, octets, takes, written, heard, admitted⟩ :=
    Handlers.takes_offline lawful bounded proper threshold accepted.rests accepted.fresh
      accepted.plain encoded encoded'
  rw [accepted.supply, ← drawn] at heard admitted
  rw [accepted.written, List.nil_append] at written
  rw [← written] at heard
  rw [← offline] at admitted
  rw [packets]
  have expects := accepted.expects lawful proper encoded takes
  exact ⟨c.served d, after, .heads (heads_begin expects heard)
    (.inr (not_isRequest_welcomePackets _ _)), inPlay_of_admitted threshold admitted⟩

theorem follows_online (lawful : z.RoundTrips) (bounded : z.Bounded) (proper : player.Proper z)
    (knows : player.Knows key)
    (threshold : ∀ t ∈ config.compressionThreshold, t.toNat ≤ Frame.maxPayload)
    (online : config.onlineMode = true) (accepted : Accepted config (some key) entropy c)
    (encoded : Codec.encode z (Packet.encode player.handshake) {} = .ok first {})
    (encoded' : Codec.encode z (Packet.encode player.start) {} = .ok second {}) :
    ∃ d after, Follows z player (expected config key player entropy) d after
        { connection := c, sent := first ++ second } ∧
      InPlay config player (playerId config player entropy) d after := by
  obtain ⟨drawn, packets⟩ := @expected_of_online config key player online entropy
  obtain ⟨between, asks, response, d, after, octets, ⟨asked, request_written, read⟩, responds,
    answered, written, heard, admitted⟩ :=
    Handlers.takes_online lawful bounded proper knows threshold accepted.rests accepted.fresh
      accepted.plain accepted.supply encoded encoded'
  rw [accepted.written, List.nil_append] at request_written
  rw [← request_written] at read
  rw [← drawn] at heard admitted
  rw [← online] at admitted
  have exchange : Exchange z player (c.served between) (askedClient key entropy)
      ((askedClient key entropy).encrypt player.secret) (request key entropy).verifyToken response
      (welcomePackets config (playerId config player entropy) player.start.username) (c.served d)
      after := ⟨rfl, rfl, responds, rfl, octets, written, heard⟩
  have unanswered := accepted.expects lawful proper encoded asked
  have answering := accepted.expects lawful proper encoded answered
  rw [← List.append_assoc] at answering
  rw [packets]
  exact ⟨c.served d, after, .waits exchange rfl ⟨heads_begin unanswered read, answering, rfl⟩,
    inPlay_of_admitted threshold admitted⟩

/-- **A login is heading for PLAY from its beginning.** -/
theorem follows_begin (valid : config.problem? = none) (lawful : z.RoundTrips) (bounded : z.Bounded)
    (proper : player.Proper z) (knows : config.onlineMode → player.Knows key) (metrics : Metrics)
    (id : ConnectionId) (peer : Option SocketAddress) (entropy : Entropy) (app : α) :
    let server := { ServerContext.start config key with metrics }
    ∃ d after, Follows z player (expected config key player entropy) d after
        (begin z player { id, peer, server, entropy, app }) ∧
      InPlay config player (playerId config player entropy) d after := by
  intro server
  obtain ⟨patient, threshold⟩ := ServerConfig.of_problem?_eq_none valid
  obtain ⟨first, encoded⟩ := Codec.exists_encode_plain bounded (Handshake.small proper.address)
  obtain ⟨second, encoded'⟩ := Codec.exists_encode_plain bounded (LoginStart.small proper.name)
  have begun : begin z player { id, peer, server, entropy, app } =
      { connection := .start registries { id, peer, server, entropy, app }
        sent := first ++ second } := by
    unfold begin
    rw [Player.greet_eq encoded encoded']
  rw [begun]
  have accepted := @accepted_start α config key patient metrics id peer entropy app
  cases mode : config.onlineMode with
  | false =>
    rw [mode] at accepted
    exact follows_offline lawful bounded proper threshold mode accepted encoded encoded'
  | true =>
    rw [mode] at accepted
    exact follows_online lawful bounded proper (knows mode) threshold mode accepted encoded encoded'

/-- A packet that a server sends during a login. -/
inductive Greeting where
  | request (packet : EncryptionRequest)
  | compression (packet : SetCompression)
  | success (packet : LoginSuccess)
  deriving DecidableEq, Repr

/-- The packet in a payload, if it is one of those. -/
def Greeting.ofPayload? (payload : Bytes) : Option Greeting :=
  (Packet.ofPayload? payload).map request <|>
    ((Packet.ofPayload? payload).map compression <|> (Packet.ofPayload? payload).map success)

namespace Greeting

theorem ofPayload?_request {packet : EncryptionRequest} (back : Packet.ReadsBack packet) :
    ofPayload? (Packet.encode packet) = some (.request packet) := by
  unfold ofPayload?
  rw [Packet.ofPayload?_encode back]
  rfl

theorem ofPayload?_compression (packet : SetCompression) :
    ofPayload? (Packet.encode packet) = some (.compression packet) := by
  unfold ofPayload?
  rw [@Packet.ofPayload?_of_ne _ EncryptionRequest _ _ packet (by decide),
    Packet.ofPayload?_encode (SetCompression.readsBack packet)]
  rfl

theorem ofPayload?_success {packet : LoginSuccess} (name : packet.username.length ≤ maxUsername) :
    ofPayload? (Packet.encode packet) = some (.success packet) := by
  unfold ofPayload?
  rw [@Packet.ofPayload?_of_ne _ EncryptionRequest _ _ packet (by decide),
    @Packet.ofPayload?_of_ne _ SetCompression _ _ packet (by decide),
    Packet.ofPayload?_encode (LoginSuccess.readsBack name)]
  rfl

end Greeting

/-- The packets of a login: the request if there are keys to exchange, the threshold if there is
one, and the welcome. -/
def greetings (config : ServerConfig) (key : ServerKey) (player : Player) (entropy : Entropy) :
    List Greeting :=
  (if config.onlineMode then [.request (request key entropy)] else []) ++
    (config.compressionThreshold.toList.map (fun t => .compression ⟨t.toUInt32⟩) ++
      [.success ⟨playerId config player entropy, player.start.username⟩])

theorem ofPayload?_expected (proper : player.Proper z)
    (knows : config.onlineMode → player.Knows key) (entropy : Entropy) :
    (expected config key player entropy).map Greeting.ofPayload? =
      (greetings config key player entropy).map some := by
  have asked : (if config.onlineMode then [Packet.encode (request key entropy)] else []).map
      Greeting.ofPayload? =
        (if config.onlineMode then [Greeting.request (request key entropy)] else []).map some := by
    cases mode : config.onlineMode with
    | false => rfl
    | true =>
      have back := (Handlers.size_request (knows mode) entropy).1
      exact congrArg (fun packet => [packet]) (Greeting.ofPayload?_request back)
  have success := @Greeting.ofPayload?_success
    ⟨playerId config player entropy, player.start.username⟩ proper.name
  unfold expected greetings welcomePackets
  rw [List.map_append, List.map_append, asked, List.map_append, List.map_append]
  cases config.compressionThreshold with
  | none => exact congrArg (fun packet => _ ++ ([] ++ [packet])) success
  | some t =>
    have announced := Greeting.ofPayload?_compression ⟨t.toUInt32⟩
    change _ ++ [Greeting.ofPayload? (Packet.encode (SetCompression.mk t.toUInt32)),
      Greeting.ofPayload? (Packet.encode (LoginSuccess.mk _ _))] = _
    rw [announced, success]
    rfl

/-- **A login leaves both ends under the same layers, however its octets arrive.**  At every moment
nothing has gone wrong and there is a way to the end.  There, the client has decoded the packets of
the login and both ends are in PLAY. -/
theorem run_reaches_play (valid : config.problem? = none) (lawful : z.RoundTrips)
    (bounded : z.Bounded) (proper : player.Proper z) (knows : config.onlineMode → player.Knows key)
    (metrics : Metrics) (id : ConnectionId) (peer : Option SocketAddress) (entropy : Entropy)
    (app : α) (deliveries : List Delivery) :
    let server := { ServerContext.start config key with metrics }
    let login := (begin z player { id, peer, server, entropy, app }).run z player deliveries
    login.payloads <+: expected config key player entropy ∧ login.fault? = none ∧
      login.connection.isClosed = false ∧ (∃ more, (login.run z player more).IsQuiet) ∧
      (login.IsQuiet →
        login.payloads.map Greeting.ofPayload? = (greetings config key player entropy).map some ∧
          InPlay config player (playerId config player entropy) login.connection login.client) := by
  intro server login
  obtain ⟨d, after, follows, inPlay⟩ :=
    follows_begin valid lawful bounded proper knows metrics id peer entropy app
  have reached := follows.run inPlay.stays deliveries
  obtain ⟨payloads, sound, stays⟩ := reached.sound inPlay.stays
  refine ⟨payloads, sound, stays, reached.exists_quiet inPlay.stays, fun quiet => ?_⟩
  obtain ⟨there, there', all⟩ := reached.quiet quiet
  rw [there, there', all]
  exact ⟨ofPayload?_expected proper knows entropy, inPlay⟩

/-- A pair of two Mersenne primes, with a modulus of 234 bits. -/
def firstPair : Rsa.KeyPair := .ofPrimes (mersenne 107) (mersenne 127)

theorem firstPair_ofPrimes : firstPair.OfPrimes (mersenne 107) (mersenne 127) :=
  Rsa.KeyPair.ofPrimes_of_coprime (lucas_lehmer_sufficiency 107 (by decide) (by norm_num))
    (lucas_lehmer_sufficiency 127 (by decide) (by norm_num)) (by decide +kernel) (by decide +kernel)

/-- A player with an address and a name, who encrypts under the key of that pair. -/
def firstPlayer : Player where
  handshake := ⟨767, "localhost", 25565, .login⟩
  start := ⟨"Steve", none⟩
  secret := Connection.firstSecret
  respond := .under firstPair.publicKey [1] Connection.firstSecret

/-- The first octet of what is sent. -/
def firstOctet? {σ : Type} : EStateM.Result Fault σ Bytes → Option UInt8
  | .ok octets _ => octets.head?
  | .error _ _ => none

theorem proper_firstPlayer : firstPlayer.Proper .stored := by
  refine ⟨rfl, by decide, ?_, by decide, by decide⟩
  intro octets client sent
  have first : firstOctet? (Client.send .stored (Packet.encode firstPlayer.handshake) {}) = some 16 := by
    decide +kernel
  rw [sent] at first
  change octets.head? = _ at first
  rw [first]
  decide

theorem knows_firstPlayer : firstPlayer.Knows (.ofKeyPair firstPair) :=
  Player.knows_ofKeyPair firstPair_ofPrimes (by decide +kernel) (by decide +kernel)
    (by decide +kernel) (by decide) rfl

/-- The login of a player at a server that is configured as usual: there is a way into PLAY. -/
theorem run_reaches_play_standard :
    let server := { ServerContext.start .standard (.ofKeyPair firstPair) with metrics := {} }
    let start : Login Unit :=
      begin .stored firstPlayer
        { id := ⟨1⟩, peer := none, server, entropy := ⟨fun _ => 0, 0⟩, app := () }
    ServerConfig.standard.problem? = none ∧ firstPlayer.Proper .stored ∧
      firstPlayer.Knows (.ofKeyPair firstPair) ∧
      ∃ deliveries, (start.run .stored firstPlayer deliveries).IsQuiet ∧
        (start.run .stored firstPlayer deliveries).connection.conversation.state = .play := by
  intro server start
  have valid : ServerConfig.standard.problem? = none := by decide
  have reaches := run_reaches_play valid Zlib.Library.stored_roundTrips Zlib.Library.stored_bounded
    proper_firstPlayer (fun _ => knows_firstPlayer) {} ⟨1⟩ none ⟨fun _ => 0, 0⟩ ()
  obtain ⟨-, -, -, ⟨more, quiet⟩, -⟩ := reaches []
  exact ⟨valid, proper_firstPlayer, knows_firstPlayer, more, quiet,
    ((reaches more).2.2.2.2 quiet).2.state⟩

end Login

end GameTransport
