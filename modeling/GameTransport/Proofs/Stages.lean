import GameTransport.Proofs.Sealed
import GameTransport.Proofs.Tables

/-! # How far a login has come

A login at a server with a key has stages (`Stage`): nobody has given a name; a name is taken and a
token issued; a response is accepted and encryption is to be turned on; the welcome goes out; the
connection is in PLAY.  Only an accepted name leads to the second stage and only an accepted response
to the third, so a connection in PLAY has exactly one of each behind it (`Exchange.Precedes`), and so
has every packet of the welcome that is sent.

What a history tells of a login is how many names and responses were accepted (`Tally`).  A payload
that is heard and an action that is carried out move a login on by one stage or leave it where it is
(`Stage.heard`, `Stage.carried`).
-/

namespace GameTransport

variable {α : Type}

/-- A packet with the number of SetCompression or of LoginSuccess. -/
def Welcoming (packet : Bytes) : Prop :=
  ∃ raw, RawPacket.decode packet = .ok raw ∧
    (raw.id = Packet.id SetCompression ∨ raw.id = Packet.id LoginSuccess)

theorem welcoming_encode_iff {β : Type} [kind : Packet β] (packet : β) :
    Welcoming (Packet.encode packet) ↔
      kind.id = Packet.id SetCompression ∨ kind.id = Packet.id LoginSuccess := by
  rw [Welcoming, Packet.decode_encode]
  constructor
  · rintro ⟨raw, same, number⟩
    cases same
    exact number
  · intro number
    exact ⟨_, rfl, number⟩

/-! ## What a history tells of a login -/

namespace Admission

open Conversation (dispatch perform)
open Handlers (registries)

/-- A packet that is handled in LOGIN, and the session that it finds. -/
def handled? (β : Type) [Packet β] : Happening α → Option (β × Session α)
  | .heard payload c =>
    if c.state = .login then (Packet.ofPayload? payload).map fun packet => (packet, c.session)
    else none
  | .carried _ _ => none

/-- A packet that is accepted in LOGIN, and the session that it finds. -/
def accepted? (β : Type) [Packet β] (happening : Happening α) : Option (β × Session α) :=
  match happening with
  | .heard payload c =>
    match dispatch registries payload c with
    | .ok _ _ => handled? β happening
    | .error _ _ => none
  | .carried _ _ => none

/-- A secret that encryption is turned on with. -/
def secret? : Happening α → Option SharedSecret
  | .carried (.enableEncryption secret) _ => some secret
  | .carried _ _ | .heard _ _ => none

/-- What a history tells of a login. -/
structure Tally (h : List (Happening α)) (names : List (LoginStart × Session α))
    (answers : List (EncryptionResponse × Session α)) (agreed : List SharedSecret) : Prop where
  starts : h.filterMap (accepted? LoginStart) = names
  responses : h.filterMap (accepted? EncryptionResponse) = answers
  /-- Every response that was handled was accepted. -/
  handled : h.filterMap (handled? EncryptionResponse) = answers
  secrets : h.filterMap secret? = agreed

/-- A name and an exchange of keys. -/
structure Exchange (α : Type) where
  start : LoginStart
  /-- The session that the name found. -/
  asking : Session α
  response : EncryptionResponse
  /-- The session that the response found. -/
  answering : Session α
  secret : SharedSecret

/-- The token that was issued when the name was taken. -/
def Exchange.token (exchange : Exchange α) : Bytes := exchange.asking.issueVerifyToken.1

/-- The exchange gave the key's owner the token back and agreed on the secret. -/
structure Exchange.Opened (key : ServerKey) (exchange : Exchange α) : Prop where
  named : exchange.start.username ≠ ""
  issued : exchange.answering.verifyToken = some exchange.token
  token : key.decrypt? exchange.response.verifyToken = some exchange.token
  secret : key.decrypt? exchange.response.sharedSecret = some exchange.secret.bytes

/-- **Exactly this exchange has led to a conversation.** -/
structure Exchange.Precedes (key : ServerKey) (exchange : Exchange α) (h : List (Happening α))
    (c : Conversation α) : Prop where
  opened : exchange.Opened key
  tally : Tally h [(exchange.start, exchange.asking)] [(exchange.response, exchange.answering)]
    [exchange.secret]
  under : c.codec.Under exchange.secret
  username : c.session.username = some exchange.start.username

/-- An action of a server that has nobody's word yet: no move to PLAY, no welcome and no layers. -/
inductive Harmless : Action → Prop where
  | send {packet : Bytes} (other : ¬ Welcoming packet) : Harmless (.send packet)
  | transition {target : ConnectionState} (other : target ≠ .play) : Harmless (.transition target)
  | disconnect : Harmless .disconnect

/-- An action of the welcome before the move to PLAY. -/
inductive Welcomes (username : String) : Action → Prop where
  | announce (threshold : UInt32) :
    Welcomes username (.send (Packet.encode (SetCompression.mk threshold)))
  | compress (threshold level : Nat) : Welcomes username (.enableCompression threshold level)
  | succeed (id : Uuid) : Welcomes username (.send (Packet.encode (LoginSuccess.mk id username)))

/-- How far a login has come, with these actions to be carried out. -/
inductive Stage (key : ServerKey) (h : List (Happening α)) (pending : List Action)
    (c : Conversation α) : Prop where
  /-- Nobody has given a name. -/
  | unasked (tally : Tally h [] [] []) (username : c.session.username = none)
    (token : c.session.verifyToken = none) (state : c.state ≠ .play)
    (harmless : ∀ action ∈ pending, Harmless action)
  /-- A name is taken and a token issued. -/
  | asked (start : LoginStart) (asking : Session α) (tally : Tally h [(start, asking)] [] [])
    (named : start.username ≠ "") (username : c.session.username = some start.username)
    (token : c.session.verifyToken = some asking.issueVerifyToken.1) (state : c.state = .login)
    (harmless : ∀ action ∈ pending, Harmless action)
  /-- A response is accepted and encryption to be turned on. -/
  | accepted (exchange : Exchange α) (rest : List Action) (opened : exchange.Opened key)
    (tally : Tally h [(exchange.start, exchange.asking)] [(exchange.response, exchange.answering)] [])
    (username : c.session.username = some exchange.start.username) (state : c.state = .login)
    (welcomes : ∀ action ∈ rest, Welcomes exchange.start.username action)
    (due : pending = .enableEncryption exchange.secret :: rest ++ [.transition .play])
  /-- The welcome goes out. -/
  | welcoming (exchange : Exchange α) (rest : List Action) (precedes : exchange.Precedes key h c)
    (state : c.state = .login) (welcomes : ∀ action ∈ rest, Welcomes exchange.start.username action)
    (due : pending = rest ++ [.transition .play])
  | playing (exchange : Exchange α) (precedes : exchange.Precedes key h c) (state : c.state = .play)
    (due : pending = [])

/-- Whatever happens in PLAY, and every packet of the welcome that is sent, has an exchange before
it. -/
def Guarded (key : ServerKey) (h : List (Happening α)) : Prop :=
  ∀ before happening, before ++ [happening] <+: h →
    (happening.conversation.state = .play →
      ∃ exchange : Exchange α, exchange.Precedes key before happening.conversation) ∧
    ∀ packet c, happening = .carried (.send packet) c → Welcoming packet →
      ∃ exchange : Exchange α, exchange.Precedes key before c ∧
        ((∃ threshold, packet = Packet.encode (SetCompression.mk threshold)) ∨
          ∃ id, packet = Packet.encode (LoginSuccess.mk id exchange.start.username))

/-- What holds of a login at a server with a key. -/
def staged (key : ServerKey) : Invariant α where
  between h c := Guarded key h ∧ c.session.server.key = some key ∧ Stage key h [] c ∧
    c.session.actions = []
  amid h batch c := Guarded key h ∧ c.session.server.key = some key ∧
    Stage key h (batch ++ c.session.actions) c
  past h c := Guarded key h ∧ (h.filterMap (handled? EncryptionResponse)).length ≤ 1 ∧
    (c.state = .play → ∃ exchange : Exchange α, exchange.Precedes key h c)

variable {key : ServerKey} {h : List (Happening α)} {c d : Conversation α} {z : Zlib.Library}
  {names : List (LoginStart × Session α)} {answers : List (EncryptionResponse × Session α)}
  {agreed : List SharedSecret}

/-! ### Tallies -/

theorem filterMap_concat {β γ : Type} (f : β → Option γ) (l : List β) (x : β) :
    (l ++ [x]).filterMap f = l.filterMap f ++ (f x).toList := by
  rw [List.filterMap_append, List.filterMap_cons]
  cases f x <;> rfl

namespace Tally

theorem carried (tally : Tally h names answers agreed) (action : Action)
    (c : Conversation α) :
    Tally (h ++ [.carried action c]) names answers
      (agreed ++ (secret? (.carried action c)).toList) where
  starts := by rw [filterMap_concat, tally.starts]; exact List.append_nil _
  responses := by rw [filterMap_concat, tally.responses]; exact List.append_nil _
  handled := by rw [filterMap_concat, tally.handled]; exact List.append_nil _
  secrets := by rw [filterMap_concat, tally.secrets]

theorem heard_of_ne_login (tally : Tally h names answers agreed) (payload : Bytes)
    (elsewhere : c.state ≠ .login) :
    Tally (h ++ [.heard payload c]) names answers agreed := by
  have unhandled (β : Type) [Packet β] : handled? β (.heard payload c) = none := if_neg elsewhere
  have unaccepted (β : Type) [Packet β] : accepted? β (.heard payload c) = none := by
    rw [accepted?]
    split
    · exact unhandled β
    · rfl
  constructor
  · rw [filterMap_concat, unaccepted, tally.starts]; exact List.append_nil _
  · rw [filterMap_concat, unaccepted, tally.responses]; exact List.append_nil _
  · rw [filterMap_concat, unhandled, tally.handled]; exact List.append_nil _
  · rw [filterMap_concat, tally.secrets]; exact List.append_nil _

/-- A name is accepted. -/
theorem started {payload : Bytes} {packet : LoginStart} {outcome : Dispatched}
    (tally : Tally h [] [] []) (state : c.state = .login)
    (is : Packet.ofPayload? payload = some packet)
    (dispatched : dispatch registries payload c = .ok outcome d) :
    Tally (h ++ [.heard payload c]) [(packet, c.session)] [] [] := by
  have other : (Packet.ofPayload? payload : Option EncryptionResponse) = none :=
    Packet.ofPayload?_eq_none is (by decide)
  constructor
  · rw [filterMap_concat, tally.starts, accepted?, dispatched]
    simp only [handled?, if_pos state, is]
    rfl
  · rw [filterMap_concat, tally.responses, accepted?, dispatched]
    simp only [handled?, if_pos state, other]
    rfl
  · rw [filterMap_concat, tally.handled]
    simp only [handled?, if_pos state, other]
    rfl
  · rw [filterMap_concat, tally.secrets]
    rfl

/-- A response is accepted. -/
theorem responded {payload : Bytes} {packet : EncryptionResponse} {outcome : Dispatched}
    (tally : Tally h names [] []) (state : c.state = .login)
    (is : Packet.ofPayload? payload = some packet)
    (dispatched : dispatch registries payload c = .ok outcome d) :
    Tally (h ++ [.heard payload c]) names [(packet, c.session)] [] := by
  have other : (Packet.ofPayload? payload : Option LoginStart) = none :=
    Packet.ofPayload?_eq_none is (by decide)
  constructor
  · rw [filterMap_concat, tally.starts, accepted?, dispatched]
    simp only [handled?, if_pos state, other]
    exact List.append_nil _
  · rw [filterMap_concat, tally.responses, accepted?, dispatched]
    simp only [handled?, if_pos state, is]
    rfl
  · rw [filterMap_concat, tally.handled]
    simp only [handled?, if_pos state, is]
    rfl
  · rw [filterMap_concat, tally.secrets]
    rfl

end Tally

/-! ### Stages -/

theorem Guarded.concat (guarded : Guarded key h) {happening : Happening α}
    (play : happening.conversation.state = .play →
      ∃ exchange : Exchange α, exchange.Precedes key h happening.conversation)
    (sent : ∀ packet c, happening = .carried (.send packet) c → Welcoming packet →
      ∃ exchange : Exchange α, exchange.Precedes key h c ∧
        ((∃ threshold, packet = Packet.encode (SetCompression.mk threshold)) ∨
          ∃ id, packet = Packet.encode (LoginSuccess.mk id exchange.start.username))) :
    Guarded key (h ++ [happening]) := by
  intro before other within
  rcases List.prefix_concat_iff.mp within with whole | earlier
  · obtain ⟨rfl, same⟩ := List.append_inj' whole rfl
    cases same
    exact ⟨play, sent⟩
  · exact guarded before other earlier

theorem Exchange.Precedes.congr {exchange : Exchange α} {h' : List (Happening α)}
    (precedes : exchange.Precedes key h c)
    (tally : ∀ names answers agreed, Tally h names answers agreed → Tally h' names answers agreed)
    (under : c.codec.Under exchange.secret → d.codec.Under exchange.secret)
    (username : d.session.username = c.session.username) : exchange.Precedes key h' d :=
  ⟨precedes.opened, tally _ _ _ precedes.tally, under precedes.under,
    username.trans precedes.username⟩

namespace Stage

variable {pending : List Action} {action : Action} {h' : List (Happening α)}

/-- A stage lasts as long as nothing that it tells changes. -/
theorem congr (stage : Stage key h pending c) (state : d.state = c.state)
    (username : d.session.username = c.session.username)
    (token : d.session.verifyToken = c.session.verifyToken)
    (under : ∀ secret, c.codec.Under secret → d.codec.Under secret)
    (tally : ∀ names answers agreed, Tally h names answers agreed → Tally h' names answers agreed) :
    Stage key h' pending d := by
  cases stage with
  | unasked told none_ none_' early harmless =>
    exact .unasked (tally _ _ _ told) (username.trans none_) (token.trans none_') (state ▸ early)
      harmless
  | asked start asking told named name issued login harmless =>
    exact .asked start asking (tally _ _ _ told) named (username.trans name) (token.trans issued)
      (state.trans login) harmless
  | accepted exchange rest opened told name login welcomes due =>
    exact .accepted exchange rest opened (tally _ _ _ told) (username.trans name)
      (state.trans login) welcomes due
  | welcoming exchange rest before login welcomes due =>
    exact .welcoming exchange rest (before.congr tally (under _) username) (state.trans login) welcomes
      due
  | playing exchange before play due =>
    exact .playing exchange (before.congr tally (under _) username) (state.trans play) due

/-- While there is something to be carried out, the connection is not in PLAY, and what is sent of
the welcome has an exchange before it. -/
theorem guards (stage : Stage key h (action :: pending) c) :
    c.state ≠ .play ∧ ∀ packet, action = .send packet → Welcoming packet →
      ∃ exchange : Exchange α, exchange.Precedes key h c ∧
        ((∃ threshold, packet = Packet.encode (SetCompression.mk threshold)) ∨
          ∃ id, packet = Packet.encode (LoginSuccess.mk id exchange.start.username)) := by
  cases stage with
  | unasked told name token early harmless =>
    refine ⟨early, ?_⟩
    rintro packet rfl welcoming
    cases harmless _ List.mem_cons_self
    contradiction
  | asked start asking told named name issued login harmless =>
    refine ⟨by rw [login]; decide, ?_⟩
    rintro packet rfl welcoming
    cases harmless _ List.mem_cons_self
    contradiction
  | accepted exchange rest opened told name login welcomes due =>
    refine ⟨by rw [login]; decide, ?_⟩
    rintro packet rfl welcoming
    cases due
  | welcoming exchange rest precedes login welcomes due =>
    refine ⟨by rw [login]; decide, ?_⟩
    rintro packet rfl welcoming
    cases rest with
    | nil => cases due
    | cons first rest =>
      injection due with same
      subst same
      cases welcomes _ List.mem_cons_self with
      | announce threshold => exact ⟨exchange, precedes, .inl ⟨threshold, rfl⟩⟩
      | succeed id => exact ⟨exchange, precedes, .inr ⟨id, rfl⟩⟩
  | playing exchange precedes play due => cases due

/-- Moves between the default registries leave the session alone, its state and its counters apart. -/
theorem moved_keeps (target : ConnectionState) (c : Conversation α) :
    (c.moved registries target).session.username = c.session.username ∧
      (c.moved registries target).session.verifyToken = c.session.verifyToken ∧
      (c.moved registries target).session.server.key = c.session.server.key ∧
      (c.moved registries target).session.actions = c.session.actions := by
  obtain ⟨session, state, codec, outgoing, written⟩ := c
  cases state <;> cases target <;> exact ⟨rfl, rfl, rfl, rfl⟩

/-- An action of the default registries leaves the name, the token, the key and the queue alone. -/
theorem perform_keeps {goesOn : Bool} (performed : perform z registries action c = .ok goesOn d) :
    d.session.username = c.session.username ∧ d.session.verifyToken = c.session.verifyToken ∧
      d.session.server.key = c.session.server.key ∧ d.session.actions = c.session.actions := by
  rcases Conversation.moved_or_kept_of_perform performed with
    ⟨target, -, -, rfl⟩ | ⟨-, -, change, session⟩
  · exact moved_keeps target c
  · rw [session]
    exact ⟨rfl, rfl, rfl, rfl⟩

theorem carried (stage : Stage key h (action :: pending) c)
    (performed : perform z registries action c = .ok true d) :
    Stage key (h ++ [.carried action c]) pending d := by
  obtain ⟨name, token, -, -⟩ := perform_keeps performed
  have moved := Conversation.moved_or_kept_of_perform performed
  cases stage with
  | unasked told none_ none_' early harmless =>
    have later : ∀ other ∈ pending, Harmless other := fun other member =>
      harmless other (List.mem_cons_of_mem _ member)
    have quiet : (secret? (.carried action c)).toList = [] := by
      cases harmless action List.mem_cons_self <;> rfl
    have told := told.carried action c
    rw [quiet] at told
    refine .unasked told (name.trans none_) (token.trans none_') ?_ later
    rcases moved with ⟨target, rfl, -, rfl⟩ | ⟨-, same, -⟩
    · cases harmless _ List.mem_cons_self
      assumption
    · rw [same]
      exact early
  | asked start asking told named held issued login harmless =>
    have later : ∀ other ∈ pending, Harmless other := fun other member =>
      harmless other (List.mem_cons_of_mem _ member)
    have quiet : (secret? (.carried action c)).toList = [] := by
      cases harmless action List.mem_cons_self <;> rfl
    have told := told.carried action c
    rw [quiet] at told
    refine .asked start asking told named (name.trans held) (token.trans issued) ?_ later
    rcases moved with ⟨target, rfl, allowed, rfl⟩ | ⟨-, same, -⟩
    · -- From LOGIN there is only the move to PLAY, which nobody has asked for.
      rw [login] at allowed
      cases harmless _ List.mem_cons_self
      cases target <;> contradiction
    · exact same.trans login
  | accepted exchange rest opened told held login welcomes due =>
    injection due with first rest_
    subst first
    cases performed
    exact .welcoming exchange rest ⟨opened, told.carried _ c, Codec.under_enableEncryption _ _, held⟩
      login welcomes rest_
  | welcoming exchange rest precedes login welcomes due =>
    cases rest with
    | nil =>
      injection due with first rest_
      subst first
      rcases moved with ⟨target, same, allowed, rfl⟩ | ⟨other, -, -⟩
      · cases same
        exact .playing exchange ⟨precedes.opened, precedes.tally.carried _ c, precedes.under,
          name.trans precedes.username⟩ rfl rest_
      · exact absurd rfl (other .play)
    | cons first rest =>
      injection due with same rest_
      subst same
      have welcome := welcomes action List.mem_cons_self
      have told := precedes.tally.carried action c
      have quiet : (secret? (.carried action c)).toList = [] := by cases welcome <;> rfl
      rw [quiet] at told
      have under := Conversation.under_perform precedes.under (by cases welcome <;> exact nofun)
        performed
      refine .welcoming exchange rest ⟨precedes.opened, told, under, name.trans precedes.username⟩ ?_
        (fun other member => welcomes other (List.mem_cons_of_mem _ member)) rest_
      rcases moved with ⟨target, rfl, -, -⟩ | ⟨-, same, -⟩
      · cases welcome
      · exact same.trans login
  | playing exchange precedes play due => cases due

/-- What a conversation comes to by a payload that is dispatched. -/
theorem of_dispatch {registries : StateRegistries (Session α)} {payload : Bytes}
    {outcome : Dispatched} (dispatched : dispatch registries payload c = .ok outcome d) :
    ∃ session, (c.active registries).dispatch payload c.session = .ok outcome session ∧
      d = { c with session } := by
  rw [dispatch] at dispatched
  rcases out : (c.active registries).dispatch payload c.session with
    ⟨given, session⟩ | ⟨fault, session⟩ <;> rw [out] at dispatched <;> cases dispatched
  exact ⟨session, rfl, rfl⟩

theorem of_dispatch_error {registries : StateRegistries (Session α)} {payload : Bytes}
    {fault : Fault} (dispatched : dispatch registries payload c = .error fault d) :
    ∃ session, (c.active registries).dispatch payload c.session = .error fault session ∧
      d = { c with session } := by
  rw [dispatch] at dispatched
  rcases out : (c.active registries).dispatch payload c.session with
    ⟨given, session⟩ | ⟨fault, session⟩ <;> rw [out] at dispatched <;> cases dispatched
  exact ⟨session, rfl, rfl⟩

theorem harmless_send {β : Type} [kind : Packet β] (packet : β)
    (apart : kind.id ≠ Packet.id SetCompression) (apart' : kind.id ≠ Packet.id LoginSuccess) :
    Harmless (.send (Packet.encode packet)) :=
  .send fun welcoming => ((welcoming_encode_iff packet).mp welcoming).elim apart apart'

/-- What a handler does outside of LOGIN: it may queue something harmless. -/
structure Harmlessly (session after : Session α) : Prop where
  username : after.username = session.username
  token : after.verifyToken = session.verifyToken
  key : after.server.key = session.server.key
  queued : ∃ more, after.actions = session.actions ++ more ∧ ∀ action ∈ more, Harmless action

variable {payload : Bytes} {outcome : Dispatched} {session after : Session α}

theorem heard_handshaking
    (done : (registries.active .handshaking).dispatch payload session = .ok outcome after) :
    Harmlessly session after := by
  obtain ⟨packet, requestable, rfl⟩ := Handlers.handshaking_of_dispatch done
  refine ⟨rfl, rfl, rfl, _, rfl, ?_⟩
  intro action member
  rw [List.mem_singleton] at member
  subst member
  refine .transition ?_
  intro play
  rw [play] at requestable
  cases requestable

theorem heard_status
    (done : (registries.active .status).dispatch payload session = .ok outcome after) :
    Harmlessly session after := by
  rcases Handlers.status_of_dispatch done with rfl | ⟨n, rfl⟩
  · refine ⟨rfl, rfl, rfl, _, rfl, ?_⟩
    simpa using harmless_send (StatusResponse.mk session.server.status.toJson) (by decide) (by decide)
  · refine ⟨rfl, rfl, rfl, [_, .disconnect], List.append_assoc _ [_] [_], ?_⟩
    simpa using ⟨harmless_send (PongResponse.mk n) (by decide) (by decide), Harmless.disconnect⟩

/-- A payload in PLAY leaves the session alone, whether it is taken or not. -/
theorem heard_play (payload : Bytes) (session : Session α) :
    stateOf ((registries.active .play).dispatch payload session) = session := by
  refine Registry.stateOf_dispatch (P := (· = session)) rfl ?_ payload
  intro id entry handler known takes packet
  cases Handlers.eq_of_entry?_play known
  cases takes
  rfl

/-- Before LOGIN nobody gives a name. -/
theorem heard_early (stage : Stage key h [] c) (early : c.state = .handshaking ∨ c.state = .status)
    (idle : c.session.actions = []) (harmlessly : Harmlessly c.session after) :
    Stage key (h ++ [.heard payload c]) after.actions { c with session := after } := by
  have elsewhere : c.state ≠ .login := by rcases early with state | state <;> rw [state] <;> decide
  have outside : c.state ≠ .play := by rcases early with state | state <;> rw [state] <;> decide
  obtain ⟨username, token, -, more, queued, quiet⟩ := harmlessly
  cases stage with
  | unasked told none_ none_' _ harmless =>
    refine .unasked (told.heard_of_ne_login payload elsewhere) (username.trans none_)
      (token.trans none_') outside ?_
    rw [queued, idle, List.nil_append]
    exact quiet
  | asked start asking told named held issued login harmless => exact absurd login elsewhere
  | accepted exchange rest opened told held login welcomes due => cases due
  | welcoming exchange rest precedes login welcomes due => exact absurd login elsewhere
  | playing exchange precedes play due => exact absurd play outside

/-- The welcome is made of its actions and the move to PLAY. -/
theorem exists_welcome (config : ServerConfig) (id : Uuid) (username : String) :
    ∃ rest, Handlers.welcome config id username = rest ++ [.transition .play] ∧
      ∀ action ∈ rest, Welcomes username action := by
  rw [Handlers.welcome]
  cases config.compressionThreshold with
  | none =>
    refine ⟨[.send (Packet.encode (LoginSuccess.mk id username))], rfl, ?_⟩
    simpa using Welcomes.succeed id
  | some threshold =>
    refine ⟨[.send (Packet.encode (SetCompression.mk threshold.toUInt32)),
      .enableCompression threshold.toNat config.compressionLevel.toNat,
      .send (Packet.encode (LoginSuccess.mk id username))], rfl, ?_⟩
    simpa using ⟨Welcomes.announce _, Welcomes.compress _ _, Welcomes.succeed id⟩

/-- A name is taken if there was none. -/
theorem heard_started {packet : LoginStart} (stage : Stage key h [] c) (state : c.state = .login)
    (idle : c.session.actions = []) (is : Packet.ofPayload? payload = some packet)
    (fresh : c.session.username = none) (named : packet.username.isEmpty = false)
    (asks : after = ((c.session.setProfile packet.username packet.uuid).issueVerifyToken.2.send
      { serverId := "", publicKey := key.publicDer
        verifyToken := c.session.issueVerifyToken.1 : EncryptionRequest }))
    (dispatched : dispatch registries payload c = .ok outcome { c with session := after }) :
    Stage key (h ++ [.heard payload c]) after.actions { c with session := after } := by
  subst asks
  cases stage with
  | unasked told none_ none_' early harmless =>
    have name : packet.username ≠ "" := String.isEmpty_eq_false_iff.mp named
    refine .asked packet c.session (told.started state is dispatched) name rfl rfl state ?_
    intro action member
    change action ∈ c.session.actions ++ [_] at member
    rw [idle, List.nil_append, List.mem_singleton] at member
    subst member
    exact harmless_send _ (by decide) (by decide)
  | asked start asking told named held issued login harmless => rw [fresh] at held; cases held
  | accepted exchange rest opened told held login welcomes due => cases due
  | welcoming exchange rest precedes login welcomes due => simp at due
  | playing exchange precedes play due => rw [state] at play; cases play

/-- A response is accepted if a token was issued. -/
theorem heard_responded {packet : EncryptionResponse} {expected : Bytes} {secret : SharedSecret}
    (stage : Stage key h [] c) (state : c.state = .login) (idle : c.session.actions = [])
    (is : Packet.ofPayload? payload = some packet) (issued : c.session.verifyToken = some expected)
    (opens : key.openResponse packet.sharedSecret packet.verifyToken expected = .ok secret)
    (finishes : after =
      Handlers.finishLogin ({ c.session with verifyToken := none }.enableEncryption secret))
    (dispatched : dispatch registries payload c = .ok outcome { c with session := after }) :
    after.server.key = c.session.server.key ∧
      Stage key (h ++ [.heard payload c]) after.actions { c with session := after } := by
  cases stage with
  | unasked told none_ none_' early harmless => rw [issued] at none_'; cases none_'
  | asked start asking told named held token login harmless =>
    have queued := Handlers.finishLogin_eq
      ({ c.session with verifyToken := none }.enableEncryption secret) held
    rw [← finishes] at queued
    subst queued
    refine ⟨rfl, ?_⟩
    obtain ⟨given, secret_⟩ := ServerKey.of_openResponse opens
    obtain rfl : expected = asking.issueVerifyToken.1 :=
      Option.some.inj (issued.symm.trans token)
    obtain ⟨rest, welcome, welcomes⟩ := exists_welcome c.session.server.config
      (Handlers.identify c.session.uuid c.session.entropy).1 start.username
    refine .accepted ⟨start, asking, packet, c.session, secret⟩ rest
      ⟨named, token, given, secret_⟩ (told.responded state is dispatched) held state welcomes ?_
    change (c.session.actions ++ [_]) ++ Handlers.welcome c.session.server.config
      (Handlers.identify c.session.uuid c.session.entropy).1 start.username = _
    rw [idle, welcome]
    rfl
  | accepted exchange rest opened told held login welcomes due => cases due
  | welcoming exchange rest precedes login welcomes due => simp at due
  | playing exchange precedes play due => rw [state] at play; cases play

theorem heard (stage : Stage key h [] c)
    (exchange : c.session.server.key = some key) (idle : c.session.actions = [])
    (dispatched : dispatch registries payload c = .ok outcome d) :
    d.session.server.key = some key ∧ Stage key (h ++ [.heard payload c]) d.session.actions d := by
  obtain ⟨after, done, rfl⟩ := of_dispatch dispatched
  rw [Conversation.active] at done
  have among : c.state = .handshaking ∨ c.state = .status ∨ c.state = .login ∨ c.state = .play := by
    cases c.state <;> decide
  rcases among with state | state | state | state <;> rw [state] at done
  · have harmlessly := heard_handshaking done
    exact ⟨harmlessly.key.trans exchange, stage.heard_early (.inl state) idle harmlessly⟩
  · have harmlessly := heard_status done
    exact ⟨harmlessly.key.trans exchange, stage.heard_early (.inr state) idle harmlessly⟩
  · obtain ⟨after', same, welcomed⟩ : ∃ after', after = after' ∧
        Handlers.Welcomed payload c.session after' :=
      ⟨after, rfl, Handlers.welcomed_of_dispatch done⟩
    cases welcomed with
    | started is fresh named =>
      rw [exchange] at same
      refine ⟨?_, stage.heard_started state idle is fresh named same dispatched⟩
      rw [same]
      exact exchange
    | responded is issued exchange' opens =>
      cases exchange.symm.trans exchange'
      obtain ⟨kept, later⟩ := stage.heard_responded state idle is issued opens same dispatched
      exact ⟨kept.trans exchange, later⟩
  · have same := heard_play payload c.session
    rw [done] at same
    change after = c.session at same
    subst same
    refine ⟨exchange, ?_⟩
    rw [idle]
    have elsewhere : c.state ≠ .login := by rw [state]; decide
    exact stage.congr rfl rfl rfl (fun _ under => under) fun _ _ _ told =>
      told.heard_of_ne_login payload elsewhere

end Stage

end Admission

end GameTransport
