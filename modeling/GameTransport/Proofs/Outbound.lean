import GameTransport.Proofs.Among
import GameTransport.Proofs.Login
import GameTransport.Proofs.Sizes

/-! # What the default handlers send

The default handlers send packets of five kinds.  Whatever a client sends and however many players are
online, all of them are read back by their readers, and any codec encodes them, with one exception: the
document of the server list is as long as the configuration makes it, and nothing that checks a
configuration looks at its texts.  A document beyond the limit of its reader is queued all the same, and
one that no frame holds is not encoded (`Handlers.queued_accepted`).
-/

namespace GameTransport

/-! ## The limits of a kind are the limits of its reader -/

namespace Packet.Kind

theorem read_write_iff (kind : Kind) (value : kind.Value) :
    read (write value) = .ok value [] ↔ kind.Within value :=
  ⟨within_of_read kind _ _ value, fun inside => (readsBack kind value inside).whole⟩

end Packet.Kind

namespace Codec

/-- Without compression, what fits a frame is encoded. -/
theorem exists_encode_iff {z : Zlib.Library} {payload : Bytes} {codec : Codec}
    (off : codec.compression = none) :
    (∃ octets after, encode z payload codec = .ok octets after) ↔
      payload.length ≤ Frame.maxPayload := by
  rw [exists_encode_iff_frame, frame_of_none off, Frame.exists_encode_iff]

end Codec

/-- The actions that are left of a batch and those of the next. -/
def Task.queued {α : Type} (t : Task α) : List Action :=
  t.moment.batch ++ t.conversation.session.actions

namespace Handlers

variable {α : Type} {server : ServerContext} {session after : Session α} {packet : Bytes}

/-! ## What may be queued -/

/-- The kinds that the default handlers send. -/
def kindsSent : List Packet.Kind :=
  [.statusResponse, .pongResponse, .encryptionRequest, .setCompression, .loginSuccess]

/-- What the default handlers of a server may send, with the values that go into it. -/
inductive Outbound (server : ServerContext) : Bytes → Prop where
  | status (metrics : Metrics) :
    Outbound server (Packet.encode (StatusResponse.mk { server with metrics }.status.toJson))
  | pong (payload : Int64) : Outbound server (Packet.encode (PongResponse.mk payload))
  | request {key : ServerKey} (known : server.key = some key) (entropy : Entropy) :
    Outbound server (Packet.encode (Handlers.request key entropy))
  | announcement {threshold : UInt64} (set : server.config.compressionThreshold = some threshold) :
    Outbound server (Packet.encode (SetCompression.mk threshold.toUInt32))
  | success (id : Uuid) {username : String} (short : username.length ≤ maxUsername) :
    Outbound server (Packet.encode (LoginSuccess.mk id username))

/-- The counters have no part in what may be sent. -/
theorem Outbound.congr {other : ServerContext} (config : other.config = server.config)
    (key : other.key = server.key) (outbound : Outbound other packet) : Outbound server packet := by
  obtain ⟨_, _, own⟩ := server
  obtain ⟨_, _, counters⟩ := other
  cases config
  cases key
  cases outbound with
  | status metrics => exact .status metrics
  | pong payload => exact .pong payload
  | @request key known entropy => exact @Outbound.request ⟨_, _, own⟩ key known entropy
  | announcement set => exact .announcement set
  | success id short => exact .success id short

/-- What a handler does to a session: it keeps the server, sets a name that is not too long if any,
and queues what may be sent. -/
structure Adds (session after : Session α) : Prop where
  server : after.server = session.server
  named : ∀ username ∈ after.username,
    username ∈ session.username ∨ username.length ≤ maxUsername
  queued : ∀ packet, .send packet ∈ after.actions →
    .send packet ∈ session.actions ∨ Outbound session.server packet

namespace Adds

theorem refl (session : Session α) : Adds session session := ⟨rfl, fun _ => .inl, fun _ => .inl⟩

theorem trans {later : Session α} (first : Adds session after) (second : Adds after later) :
    Adds session later where
  server := second.server.trans first.server
  named username told := by
    rcases second.named username told with told | short
    · exact first.named username told
    · exact .inr short
  queued packet queued := by
    rcases second.queued packet queued with queued | outbound
    · exact first.queued packet queued
    · exact .inr (first.server ▸ outbound)

/-- More actions are queued, and nothing else is changed that matters here. -/
theorem of_actions {more : List Action} (server : after.server = session.server)
    (username : after.username = session.username)
    (actions : after.actions = session.actions ++ more)
    (outbound : ∀ packet, .send packet ∈ more → Outbound session.server packet) :
    Adds session after where
  server := server
  named _ told := .inl (username ▸ told)
  queued packet queued := by
    rw [actions, List.mem_append] at queued
    exact queued.imp_right (outbound packet)

/-! ### The handlers -/

theorem outbound_of_welcome {id : Uuid} {username : String} (short : username.length ≤ maxUsername)
    (sent : .send packet ∈ welcome server.config id username) : Outbound server packet := by
  unfold welcome at sent
  cases set : server.config.compressionThreshold with
  | none =>
    rw [set] at sent
    simp only [List.nil_append, List.mem_cons, Action.send.injEq, reduceCtorEq, List.not_mem_nil,
      or_false] at sent
    exact sent ▸ .success id short
  | some threshold =>
    rw [set] at sent
    simp only [List.cons_append, List.nil_append, List.mem_cons, Action.send.injEq, reduceCtorEq,
      List.not_mem_nil, or_false, false_or] at sent
    rcases sent with rfl | rfl
    · exact .announcement set
    · exact .success id short

theorem finishLogin {username : String} (told : session.username = some username)
    (short : username.length ≤ maxUsername) : Adds session (Handlers.finishLogin session) := by
  rw [finishLogin_eq session told]
  exact of_actions rfl rfl rfl fun packet sent => outbound_of_welcome short sent

/-- A session without a name is one with an empty name, as far as the welcome goes. -/
theorem finishLogin_of_none (none : session.username = none) :
    Handlers.finishLogin session = Handlers.finishLogin { session with username := some "" } := by
  obtain ⟨id, peer, state, ⟨config, key, metrics⟩, version, _, uuid, token, actions, entropy, app⟩ :=
    session
  cases none
  simp only [Handlers.finishLogin, announceCompression, playerUuid]
  cases config.compressionThreshold <;> cases uuid <;> rfl

theorem finishLogin_of_named (named : ∀ username ∈ session.username, username.length ≤ maxUsername) :
    Adds session (Handlers.finishLogin session) := by
  cases told : session.username with
  | some username => exact finishLogin told (named username told)
  | none =>
    rw [finishLogin_of_none told]
    have empty : "".length ≤ maxUsername := by decide
    have sets : Adds session { session with username := some "" } :=
      ⟨rfl, fun _ told => .inr (by cases told; exact empty), fun _ => .inl⟩
    exact sets.trans (finishLogin rfl empty)

theorem loginStart {packet : LoginStart} (short : packet.username.length ≤ maxUsername)
    (session : Session α) : Adds session (stateOf (Handlers.loginStart packet session)) := by
  rcases loginStart_cases packet session with ⟨fault, -, refused⟩ | ⟨fresh, named, started⟩
  · rw [refused]
    exact refl session
  · rw [started]
    have sets : Adds session (session.setProfile packet.username packet.uuid) :=
      ⟨rfl, fun _ told => .inr (by cases told; exact short), fun _ => .inl⟩
    cases known : session.server.key with
    | none => exact sets.trans (finishLogin rfl short)
    | some key =>
      refine sets.trans (of_actions rfl rfl rfl fun sent among => ?_)
      cases List.mem_singleton.mp among
      exact .request known session.entropy

theorem encryptionResponse (packet : EncryptionResponse)
    (named : ∀ username ∈ session.username, username.length ≤ maxUsername) :
    Adds session (stateOf (Handlers.encryptionResponse packet session)) := by
  rcases encryptionResponse_cases packet session with
    ⟨fault, -, refused⟩ | ⟨expected, key, secret, -, -, -, responded⟩
  · rw [refused]
    exact ⟨rfl, fun _ => .inl, fun _ => .inl⟩
  · rw [responded]
    have takes : Adds session ({ session with verifyToken := none }.enableEncryption secret) :=
      of_actions rfl rfl rfl fun sent among => by cases List.mem_singleton.mp among
    exact takes.trans (finishLogin_of_named named)

theorem handshake (packet : Handshake) (session : Session α) :
    Adds session (stateOf (Handlers.handshake packet session)) :=
  of_actions rfl rfl rfl fun sent among => by cases List.mem_singleton.mp among

theorem statusRequest (packet : StatusRequest) (session : Session α) :
    Adds session (stateOf (Handlers.statusRequest packet session)) :=
  of_actions rfl rfl rfl fun sent among => by
    cases List.mem_singleton.mp among
    exact .status session.server.metrics

theorem pingRequest (packet : PingRequest) (session : Session α) :
    Adds session (stateOf (Handlers.pingRequest packet session)) := by
  have actions : (stateOf (Handlers.pingRequest packet session)).actions = session.actions ++
      [.send (Packet.encode (PongResponse.mk packet.payload)), .disconnect] :=
    List.append_assoc _ _ _
  refine of_actions rfl rfl actions fun sent among => ?_
  simp only [List.mem_cons, Action.send.injEq, reduceCtorEq, List.not_mem_nil, or_false] at among
  exact among ▸ .pong packet.payload

/-- A packet that was read is handed to a handler of its kind. -/
theorem handler {state : ConnectionState} {id : UInt32} {body : Bytes} {entry : Entry (Session α)}
    {handler : Handler (Session α) entry.Value} {packet : entry.Value}
    (known : Registry.entry? (registries.active state) id = some entry)
    (takes : entry.handler = some handler) (read : entry.packet.read body = .ok packet [])
    (named : ∀ username ∈ session.username, username.length ≤ maxUsername) :
    Adds session (stateOf (handler packet session)) := by
  cases state with
  | handshaking =>
    cases eq_of_entry?_handshaking known
    cases takes
    exact handshake packet session
  | status =>
    rcases eq_of_entry?_status known with rfl | rfl <;> cases takes
    · exact statusRequest packet session
    · exact pingRequest packet session
  | login =>
    rcases eq_of_entry?_login known with rfl | rfl <;> cases takes
    · exact loginStart (Packet.Kind.within_of_read .loginStart body [] packet read) session
    · exact encryptionResponse packet named
  | play =>
    cases eq_of_entry?_play known
    cases takes
    exact refl session

theorem dispatch (state : ConnectionState) (payload : Bytes)
    (named : ∀ username ∈ session.username, username.length ≤ maxUsername) :
    Adds session (stateOf ((registries.active state).dispatch payload session)) := by
  have served := Registry.served_dispatch (registries.active state) payload session
  generalize (registries.active state).dispatch payload session = result at served ⊢
  cases served with
  | refused reason => exact refl session
  | dropped known idle => exact refl session
  | handled number known takes read done =>
    have adds := handler known takes read named
    rw [done] at adds
    exact adds
  | failed number known takes read done =>
    have adds := handler known takes read named
    rw [done] at adds
    exact adds

end Adds

/-! ## What every move keeps -/

/-- The server is this one, no name is too long, and only what may be sent is queued. -/
structure Sound (server : ServerContext) (t : Task α) : Prop where
  config : t.conversation.session.server.config = server.config
  key : t.conversation.session.server.key = server.key
  named : ∀ username ∈ t.conversation.session.username, username.length ≤ maxUsername
  queued : ∀ packet, .send packet ∈ t.queued → Outbound server packet

namespace Sound

variable {t t' : Task α}

/-- Nothing is queued, and the session is what it was but for its counters. -/
theorem of_count (sound : Sound server t)
    (same : ∃ change, t'.conversation.session = t.conversation.session.count change)
    (queued : t'.moment.batch <:+ t.moment.batch) : Sound server t' := by
  obtain ⟨change, same⟩ := same
  refine ⟨?_, ?_, ?_, fun packet among => sound.queued packet ?_⟩
  · rw [same]
    exact sound.config
  · rw [same]
    exact sound.key
  · rw [same]
    exact sound.named
  · rw [Task.queued, same] at among
    rw [Task.queued]
    exact (List.mem_append.mp among).elim (fun left => List.mem_append_left _ (queued.mem left))
      (List.mem_append_right _)

/-- Nothing is queued, and the session is what it was. -/
theorem of_session (sound : Sound server t)
    (same : t'.conversation.session = t.conversation.session)
    (queued : t'.moment.batch <:+ t.moment.batch) : Sound server t' :=
  sound.of_count ⟨id, same⟩ queued

theorem lend (sound : Sound server t) (metrics : Metrics) : Sound server (t.lend metrics) :=
  sound.of_count ⟨fun _ => metrics, rfl⟩ (List.suffix_refl _)

/-- A payload is handed over. -/
theorem heard {c : Connection α} {payload : Bytes} {moment : Moment} (next : moment.batch = [])
    (sound : Sound server ⟨c, .hearing payload⟩) :
    Sound server ⟨{ c with conversation := { c.conversation with
      session := stateOf ((c.conversation.active registries).dispatch payload
        c.conversation.session) } }, moment⟩ := by
  have adds := Adds.dispatch c.conversation.state payload sound.named
  have same := adds.server
  refine ⟨(congrArg ServerContext.config same).trans sound.config,
    (congrArg ServerContext.key same).trans sound.key, fun username told => ?_,
    fun packet among => ?_⟩
  · exact (adds.named username told).elim (sound.named username) id
  · rw [Task.queued, next, List.nil_append] at among
    rcases adds.queued packet among with before | outbound
    · exact sound.queued packet before
    · exact outbound.congr sound.config sound.key

theorem attach_eq (state : ConnectionState) (session : Session α) :
    ∃ change, (registries.active state).attach session = session.count change := by
  cases state
  case play => exact ⟨Metrics.joined, rfl⟩
  all_goals exact ⟨id, rfl⟩

theorem detach_eq (state : ConnectionState) (session : Session α) :
    ∃ change, (registries.active state).detach session = session.count change := by
  cases state
  case play => exact ⟨Metrics.left, rfl⟩
  all_goals exact ⟨id, rfl⟩

theorem caught_eq (state : ConnectionState) (fault : Fault) (session : Session α) :
    (registries.active state).caught fault session = session := by
  cases state <;> rfl

theorem moved {c : Connection α} {target : ConnectionState} {left : List Action}
    (sound : Sound server ⟨c, .acting (.transition target :: left)⟩) :
    Sound server
      ⟨{ c with conversation := c.conversation.moved registries target }, .acting left⟩ := by
  obtain ⟨joined, attach⟩ := attach_eq target c.conversation.session
  obtain ⟨left', detach⟩ := detach_eq c.conversation.state (c.conversation.session.count joined)
  have session : (c.conversation.moved registries target).session =
      { (c.conversation.session.count joined).count left' with state := target } := by
    rw [Conversation.moved, attach, detach]
  refine ⟨?_, ?_, ?_, fun packet among => sound.queued packet (List.mem_cons_of_mem _ ?_)⟩
  · exact (congrArg (·.server.config) session).trans sound.config
  · exact (congrArg (·.server.key) session).trans sound.key
  · intro username told
    exact sound.named username ((congrArg Session.username session).symm.trans told)
  · have actions : (c.conversation.moved registries target).session.actions = _ :=
      congrArg Session.actions session
    change _ ∈ left ++ (c.conversation.moved registries target).session.actions at among
    rw [actions] at among
    exact among

theorem step {z : Zlib.Library} {deed? : Option Deed} (sound : Sound server t)
    (step : Task.Step registries z t deed? t') : Sound server t' := by
  cases step with
  | idle => exact sound
  | accepted running room => exact sound.of_session rfl (List.suffix_refl _)
  | elapsed running => exact sound.of_session rfl (List.suffix_refl _)
  | opened => exact sound.of_count ⟨_, rfl⟩ (List.suffix_refl _)
  | @entered c session attached =>
    obtain ⟨change, hook⟩ := attach_eq c.conversation.state c.conversation.session
    exact sound.of_count ⟨change, attached.symm.trans hook⟩ (List.suffix_refl _)
  | replied opening => exact sound.of_session rfl (List.suffix_refl _)
  | read running => exact sound.of_session rfl (List.suffix_refl _)
  | finished => exact sound.of_session rfl (List.suffix_refl _)
  | lost => exact sound.of_session rfl (List.suffix_refl _)
  | spoiled => exact sound.of_count ⟨_, rfl⟩ (List.suffix_refl _)
  | looked => exact sound.of_session rfl (List.suffix_refl _)
  | decoded => exact sound.of_count ⟨_, rfl⟩ (List.suffix_refl _)
  | @heard c session payload outcome served =>
    have heard := @Sound.heard _ _ _ payload (.acting []) rfl sound
    rw [served] at heard
    exact heard
  | @refused c session payload fault served =>
    have heard := @Sound.heard _ _ _ payload (.ending (.error fault)) rfl sound
    rw [served] at heard
    exact heard
  | @batch c =>
    refine ⟨sound.config, sound.key, sound.named, fun packet among => sound.queued packet ?_⟩
    change _ ∈ c.conversation.session.actions ++ [] at among
    rwa [List.append_nil] at among
  | flushed => exact sound.of_session rfl (List.suffix_refl _)
  | sent fed =>
    have session := (Conversation.kept_of_feed_ok fed).2
    exact sound.of_count ⟨_, congrArg (Session.count · Metrics.sent) session⟩ (List.suffix_cons _ _)
  | moved allowed => exact sound.moved
  | switched => exact sound.of_session rfl (List.suffix_cons _ _)
  | disconnected => exact sound.of_session rfl (List.nil_suffix)
  | denied => exact sound.of_session rfl (List.nil_suffix)
  | unsent fed => exact sound.of_session (Conversation.kept_of_feed_error fed).2 (List.nil_suffix)
  | taken first => exact sound.of_session rfl (List.suffix_refl _)
  | called_off first => exact sound.of_session rfl (List.suffix_refl _)
  | pushed fed => exact sound.of_session (Conversation.kept_of_feed_ok fed).2 (List.suffix_refl _)
  | unpushed fed =>
    exact sound.of_session (Conversation.kept_of_feed_error fed).2 (List.suffix_refl _)
  | confirmed => exact sound.of_count ⟨_, rfl⟩ (List.suffix_refl _)
  | closed => exact sound.of_session rfl (List.suffix_refl _)
  | broken writes => exact sound.of_session rfl (List.nil_suffix)
  | settled => exact sound.of_session rfl (List.suffix_refl _)
  | @caught c session fault notes told =>
    obtain rfl : c.conversation.session = session :=
      (caught_eq c.conversation.state fault _).symm.trans told
    refine sound.of_count ?_ (List.suffix_refl _)
    by_cases transport : fault.isTransport = true
    · exact ⟨id, if_pos transport⟩
    · exact ⟨Metrics.failed, if_neg transport⟩
  | @detached c session result detached =>
    obtain ⟨change, hook⟩ := detach_eq c.conversation.state c.conversation.session
    exact sound.of_count ⟨change, detached.symm.trans hook⟩ (List.suffix_refl _)
  | ended => exact sound.of_count ⟨_, rfl⟩ (List.suffix_refl _)

/-- What every move keeps, every run keeps. -/
theorem run {z : Zlib.Library} (sound : Sound server t) (turns : List (Metrics × Move)) :
    Sound server (t.runAmid registries z turns) := by
  induction turns generalizing t with
  | nil => exact sound
  | cons turn rest ih =>
    have next : Sound server (t.stepAmid registries z turn) :=
      (sound.lend turn.1).step (Task.step_turn (t.lend turn.1) turn.2)
    exact ih next

end Sound

/-! ## What becomes of it -/

/-- A packet that a handler queued, and what its reader and a codec make of it. -/
structure Accepted (z : Zlib.Library) (server : ServerContext) (packet : Bytes) (kind : Packet.Kind)
    (value : kind.Value) : Prop where
  is : packet = Packet.encode value
  among : kind ∈ kindsSent
  /-- The reader gives the value back and leaves nothing, just if its limits are kept. -/
  reads : Packet.read (Packet.write value) = .ok value [] ↔ kind.Within value
  encodes : kind.Within value → ∀ codec, ∃ octets after,
    Codec.encode z packet codec = .ok octets after
  within : kind ≠ .statusResponse → kind.Within value
  /-- The one limit that may be passed is that of the document. -/
  document : kind = .statusResponse → ∃ metrics : Metrics,
    let status := { server with metrics }.status
    packet = Packet.encode (StatusResponse.mk status.toJson) ∧
      (kind.Within value ↔ status.toJson.length ≤ StatusResponse.maxJson)
  /-- Short texts keep it, however many players there are. -/
  short : 6 * (server.config.versionName.length + server.config.motd.length) + 150 ≤
    StatusResponse.maxJson → kind.Within value
  /-- While a client is in STATUS nothing is compressed. -/
  fits : kind = .statusResponse → ∀ codec : Codec, codec.compression = none →
    ((∃ octets after, Codec.encode z packet codec = .ok octets after) ↔
      packet.length ≤ Frame.maxPayload)
  /-- The threshold that is announced is the one that is configured. -/
  announces : kind = .setCompression → ∃ threshold announced,
    server.config.compressionThreshold = some threshold ∧
      packet = Packet.encode (SetCompression.mk announced) ∧ announced.toNat = threshold.toNat

/-- What keeps every limit is accepted. -/
theorem Accepted.of_within {z : Zlib.Library} (bounded : z.Bounded) (kind : Packet.Kind)
    (value : kind.Value) (among : kind ∈ kindsSent) (other : kind ≠ .statusResponse)
    (within : kind.Within value) (small : (Packet.encode value).length ≤ Packet.small)
    (announces : kind = .setCompression → ∃ threshold announced,
      server.config.compressionThreshold = some threshold ∧
        Packet.encode value = Packet.encode (SetCompression.mk announced) ∧
        announced.toNat = threshold.toNat) :
    Accepted z server (Packet.encode value) kind value where
  is := rfl
  among := among
  reads := kind.read_write_iff value
  encodes _ := exists_encode_of_small bounded small
  within _ := within
  document same := absurd same other
  short _ := within
  fits same := absurd same other
  announces := announces

theorem Accepted.status {z : Zlib.Library} (bounded : z.Bounded) (server : ServerContext)
    (metrics : Metrics) :
    Accepted z server (Packet.encode (StatusResponse.mk { server with metrics }.status.toJson))
      .statusResponse (StatusResponse.mk { server with metrics }.status.toJson) where
  is := rfl
  among := by decide
  reads := Packet.Kind.read_write_iff .statusResponse _
  encodes within codec := by
    have size := StatusResponse.length_encode_le within
    unfold StatusResponse.maxJson at size
    exact Codec.exists_encode bounded (by unfold Frame.maxPayload; omega) codec
  within other := absurd rfl other
  document _ := ⟨metrics, rfl, Iff.rfl⟩
  short texts := Nat.le_trans (ServerStatus.length_toJson _ rfl).2 texts
  fits _ codec off := Codec.exists_encode_iff off
  announces same := nomatch same

theorem Accepted.pong {z : Zlib.Library} (bounded : z.Bounded) (server : ServerContext)
    (packet : PongResponse) : Accepted z server (Packet.encode packet) .pongResponse packet :=
  Accepted.of_within bounded .pongResponse packet (by decide) nofun trivial
    (PongResponse.small packet) nofun

theorem Accepted.request {z : Zlib.Library} (bounded : z.Bounded) (server : ServerContext)
    {key : ServerKey} (short : key.publicDer.length ≤ EncryptionRequest.maxPublicKey)
    (entropy : Entropy) :
    Accepted z server (Packet.encode (Handlers.request key entropy)) .encryptionRequest
      (Handlers.request key entropy) := by
  have name : "".length ≤ EncryptionRequest.maxServerId := by decide
  have token : (entropy.draw ServerKey.tokenLength).1.length ≤ maxEncrypted := by
    rw [Entropy.length_draw]
    decide
  exact Accepted.of_within bounded .encryptionRequest (Handlers.request key entropy) (by decide) nofun
    ⟨name, short, token⟩ (EncryptionRequest.small name short token) nofun

theorem Accepted.announcement {z : Zlib.Library} (bounded : z.Bounded) {threshold : UInt64}
    (set : server.config.compressionThreshold = some threshold)
    (fits : threshold.toNat ≤ Frame.maxPayload) :
    Accepted z server (Packet.encode (SetCompression.mk threshold.toUInt32)) .setCompression
      (SetCompression.mk threshold.toUInt32) :=
  Accepted.of_within bounded .setCompression (SetCompression.mk threshold.toUInt32) (by decide) nofun
    trivial (SetCompression.small _) fun _ => ⟨threshold, _, set, rfl, toNat_toUInt32_of_le fits⟩

theorem Accepted.success {z : Zlib.Library} (bounded : z.Bounded) (server : ServerContext)
    {packet : LoginSuccess} (short : packet.username.length ≤ maxUsername) :
    Accepted z server (Packet.encode packet) .loginSuccess packet :=
  Accepted.of_within bounded .loginSuccess packet (by decide) nofun short
    (LoginSuccess.small short) nofun

theorem Outbound.accepted {z : Zlib.Library} (bounded : z.Bounded)
    (thresholds : ∀ t ∈ server.config.compressionThreshold, t.toNat ≤ Frame.maxPayload)
    (keys : ∀ key ∈ server.key, key.publicDer.length ≤ EncryptionRequest.maxPublicKey)
    (outbound : Outbound server packet) : ∃ kind value, Accepted z server packet kind value := by
  cases outbound with
  | status metrics => exact ⟨_, _, Accepted.status bounded server metrics⟩
  | pong payload => exact ⟨_, _, Accepted.pong bounded server ⟨payload⟩⟩
  | request known entropy => exact ⟨_, _, Accepted.request bounded server (keys _ known) entropy⟩
  | announcement set => exact ⟨_, _, Accepted.announcement bounded set (thresholds _ set)⟩
  | success id short => exact ⟨_, _, Accepted.success bounded server short⟩

theorem Sound.start (server : ServerContext) (id : ConnectionId) (peer : Option SocketAddress)
    (entropy : Entropy) (app : α) :
    Sound server (Task.start { id, peer, server, entropy, app }) :=
  ⟨rfl, rfl, nofun, nofun⟩

/-- **Whatever the default handlers queue is read back by its reader and encoded by every codec, but
for documents of the server list that are too long.**  The key pair has 1024 bits, which is 128
octets. -/
theorem queued_accepted {z : Zlib.Library} (bounded : z.Bounded) {config : ServerConfig}
    (valid : config.problem? = none) {p q : Nat} (bits : p * q < 2 ^ (8 * 128)) (id : ConnectionId)
    (peer : Option SocketAddress) (entropy : Entropy) (app : α) (turns : List (Metrics × Move)) :
    let server := ServerContext.start config (.ofKeyPair (.ofPrimes p q))
    let t := (Task.start { id, peer, server, entropy, app }).runAmid registries z turns
    ∀ packet, .send packet ∈ t.queued → ∃ kind value, Accepted z server packet kind value := by
  intro server t packet among
  have sound : Sound server t := (Sound.start server id peer entropy app).run turns
  have thresholds := (ServerConfig.of_problem?_eq_none valid).2
  have keys : ∀ key ∈ server.key, key.publicDer.length ≤ EncryptionRequest.maxPublicKey := by
    intro key known
    have exponent : (65537 : Nat) < 2 ^ (8 * 4) := by decide
    have shown := @Der.length_encode_le ⟨p * q, 65537⟩ bits exponent
    change key ∈ (if config.onlineMode then some _ else none : Option ServerKey) at known
    by_cases online : config.onlineMode = true
    · rw [if_pos online] at known
      cases known
      exact Nat.le_trans shown (by decide)
    · rw [if_neg online] at known
      cases known
  exact (sound.queued packet among).accepted bounded thresholds keys

/-! ## Documents that are too long -/

/-- A document beyond its limit is not read back, and what no frame holds is not encoded. -/
theorem overlong_refused {z : Zlib.Library} (server : ServerContext)
    (long : Frame.maxPayload < server.config.versionName.length + server.config.motd.length) :
    let packet := StatusResponse.mk server.status.toJson
    Packet.read (Packet.write packet) ≠ .ok packet [] ∧
      ∀ codec : Codec, codec.compression = none →
        ¬ ∃ octets after, Codec.encode z (Packet.encode packet) codec = .ok octets after := by
  intro packet
  have texts := (ServerStatus.length_toJson server.status rfl).1
  have beyond : Frame.maxPayload < packet.json.length := Nat.lt_of_lt_of_le long texts
  refine ⟨fun back => ?_, fun codec off encoded => ?_⟩
  · have inside := (Packet.Kind.read_write_iff .statusResponse packet).mp back
    have limit : StatusResponse.maxJson ≤ Frame.maxPayload := by decide
    exact absurd (Nat.le_trans inside limit) (Nat.not_le.mpr beyond)
  · have fits := (Codec.exists_encode_iff off).mp encoded
    exact absurd (Nat.le_trans packet.le_length_encode fits) (Nat.not_le.mpr beyond)

/-- Each time that the server is asked for its status, the document is queued. -/
theorem queued_of_asked {z : Zlib.Library} {t : Task α} {turn : Metrics × Move}
    (config : t.conversation.session.server.config = server.config) {status : ServerStatus}
    (asked : t.asked? server turn = some status) :
    .send (Packet.encode (StatusResponse.mk status.toJson)) ∈
      (t.stepAmid registries z turn).queued := by
  obtain ⟨own, rfl, state, payload, hearing, request, is⟩ := Task.of_asked? asked
  obtain ⟨metrics, move⟩ := turn
  obtain ⟨c, moment⟩ := t
  obtain rfl : move = .proceed := own
  obtain rfl : moment = .hearing payload := hearing
  let lent := (Task.lend metrics ⟨c, .hearing payload⟩).conversation
  have known : Registry.entry? (lent.active registries) (Packet.id StatusRequest) =
      some ⟨StatusRequest, inferInstance, some statusRequest⟩ := by
    rw [Conversation.active, show lent.state = .status from state]
    rfl
  have status : lent.session.server.status = { server with metrics }.status := by
    rw [ServerContext.status, ServerContext.status, ← config]
    rfl
  have heard := Task.hear_of_handler known is rfl
  have queued : (Task.stepAmid registries z ⟨c, .hearing payload⟩ (metrics, .proceed)).queued =
      lent.session.actions ++
        [.send (Packet.encode (StatusResponse.mk lent.session.server.status.toJson))] :=
    congrArg Task.queued heard
  rw [queued, status]
  exact List.mem_append_right _ List.mem_cons_self

/-- A client that asks for the status, up to where its request is handed over. -/
def asking : List (Metrics × Move) :=
  let own (count : Nat) : List (Metrics × Move) := List.replicate count ({}, .proceed)
  own 2 ++ ({}, .receive [16, 0, 0xff, 5, 9, 108, 111, 99, 97, 108, 104, 111, 115, 116, 0x63, 0xdd, 1,
    1, 0]) :: own 6

/-- A server with that configuration, and its first client. -/
def host (config : ServerConfig) : ServerContext := .start config (.ofKeyPair (.ofPrimes 61 53))

def visitor (config : ServerConfig) : Task Unit :=
  Task.start { id := ⟨1⟩, peer := none, server := host config, entropy := ⟨fun _ => 0, 0⟩, app := () }

/-- Where the request is handed over, the document is queued. -/
theorem queued_of_visitor {config : ServerConfig} (asked : (((visitor config).runAmid registries
    .stored asking).asked? (host config) ({ playersOnline := 0 }, .proceed)).isSome = true) :
    .send (Packet.encode (StatusResponse.mk (host config).status.toJson)) ∈
      ((visitor config).runAmid registries .stored
        (asking ++ [({ playersOnline := 0 }, .proceed)])).queued := by
  obtain ⟨status, asked⟩ := Option.isSome_iff_exists.mp asked
  have sound : Sound (host config) ((visitor config).runAmid registries .stored asking) :=
    (Sound.start _ _ _ _ _).run asking
  have queued := queued_of_asked (z := .stored) sound.config asked
  rw [(Task.of_asked? asked).2.1] at queued
  rw [Task.runAmid_append]
  exact queued

/-- The document of an ordinary server is accepted. -/
theorem queued_accepted_ordinary :
    ServerConfig.standard.problem? = none ∧ 61 * 53 < 2 ^ (8 * 128) ∧
      ∃ packet, .send packet ∈ ((visitor .standard).runAmid registries .stored
          (asking ++ [({ playersOnline := 0 }, .proceed)])).queued ∧
        ∃ kind value, Accepted .stored (host .standard) packet kind value ∧ kind.Within value := by
  have asked : (((visitor .standard).runAmid registries .stored asking).asked? (host .standard)
      ({ playersOnline := 0 }, .proceed)).isSome = true := by decide +kernel
  have valid : ServerConfig.standard.problem? = none := by decide
  have bits : 61 * 53 < 2 ^ (8 * 128) := by decide +kernel
  have queued := queued_of_visitor asked
  obtain ⟨kind, value, accepted⟩ := queued_accepted Zlib.Library.stored_bounded valid bits ⟨1⟩ none
    ⟨fun _ => 0, 0⟩ () (asking ++ [({ playersOnline := 0 }, .proceed)]) _ queued
  exact ⟨valid, bits, _, queued, kind, value, accepted, accepted.short (by decide)⟩

/-- A configuration that passes every check, and whose text no frame holds. -/
def wordy : ServerConfig := { motd := String.ofList (List.replicate (2 ^ 21) 'a') }

/-- Its document is sent, though it is not read back and no frame holds it. -/
theorem overlong_status_queued :
    wordy.problem? = none ∧
      ∃ packet : StatusResponse, .send (Packet.encode packet) ∈ ((visitor wordy).runAmid registries
          .stored (asking ++ [({ playersOnline := 0 }, .proceed)])).queued ∧
        Packet.read (Packet.write packet) ≠ .ok packet [] ∧
        ∀ codec : Codec, codec.compression = none →
          ¬ ∃ octets after, Codec.encode .stored (Packet.encode packet) codec = .ok octets after := by
  have asked : (((visitor wordy).runAmid registries .stored asking).asked? (host wordy)
      ({ playersOnline := 0 }, .proceed)).isSome = true := by decide +kernel
  have motd : (host wordy).config.motd.length = 2 ^ 21 := by
    change String.length (String.ofList _) = _
    rw [String.length_ofList, List.length_replicate]
  have long : Frame.maxPayload <
      (host wordy).config.versionName.length + (host wordy).config.motd.length := by
    rw [motd]
    exact Nat.lt_of_lt_of_le (by decide : Frame.maxPayload < 2 ^ 21) (Nat.le_add_left _ _)
  obtain ⟨unread, refused⟩ := overlong_refused (host wordy) long (z := .stored)
  exact ⟨by decide +kernel, _, queued_of_visitor asked, unread, refused⟩

end Handlers

end GameTransport
