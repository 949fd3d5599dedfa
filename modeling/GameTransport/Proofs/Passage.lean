import GameTransport.Proofs.Blame
import GameTransport.Proofs.Stages
import GameTransport.Proofs.Untyped

/-! # No client brings the default handlers to a mistake of their own

A connection over the default registries is on its way to PLAY, in one of four ways (`Passage`): it
waits with no move to be made, a handshake has asked for a move, a login is finished and its welcome goes
out, or it is in PLAY.  A move is asked for only where the arrows allow it, and is carried out before the
next payload is looked at.  A token is issued only by a server with a key and only to a client with a
name, and every name that is taken has a letter.

So no step of a connection fails with an internal fault, whatever arrives, and at most one LoginSuccess
is ever queued, with a name in it (`Connection.no_internal_fault`).
-/

namespace GameTransport

variable {α : Type}

open Conversation (dispatch perform)

/-! ## What is queued -/

/-- A packet with the number of LoginSuccess that is to be sent. -/
def Action.success? : Action → Option Bytes
  | send packet =>
    match RawPacket.decode packet with
    | .ok raw => if raw.id = Packet.id LoginSuccess then some packet else none
    | .error _ => none
  | enableCompression _ _ | enableEncryption _ | transition _ | disconnect => none

theorem Action.success?_send {β : Type} [kind : Packet β] (packet : β) :
    success? (.send (Packet.encode packet)) =
      if kind.id = Packet.id LoginSuccess then some (Packet.encode packet) else none := by
  rw [success?, Packet.decode_encode]

/-- What a handler queues that is given a payload, whether it fails or not. -/
def Happening.queued (registries : StateRegistries (Session α)) : Happening α → List Action
  | heard payload c =>
    (stateOf (dispatch registries payload c)).session.actions.drop c.session.actions.length
  | carried _ _ => []

namespace Passage

/-- The packets with the number of LoginSuccess that the handlers have queued. -/
def successes (registries : StateRegistries (Session α)) (h : List (Happening α)) : List Bytes :=
  (h.flatMap (Happening.queued registries)).filterMap Action.success?

/-- At most one packet, and it is a LoginSuccess with a name. -/
structure Once (sent : List Bytes) : Prop where
  named : ∀ packet ∈ sent, ∃ id username, packet = Packet.encode (LoginSuccess.mk id username) ∧
    username ≠ ""
  once : sent.length ≤ 1

/-- An action that is no move. -/
def Stays (action : Action) : Prop := ∀ target, action ≠ .transition target

/-- What a session knows of its client. -/
structure Knows (session : Session α) : Prop where
  named : ∀ username ∈ session.username, username ≠ ""
  /-- A token was issued by a server with a key to a client with a name. -/
  asked : session.verifyToken ≠ none → session.username ≠ none ∧ session.server.key ≠ none

end Passage

open Passage

/-- How far a connection is, with these actions to be carried out, if the handlers have queued these
packets with the number of LoginSuccess. -/
inductive Passage (sent : List Bytes) (pending : List Action) (state : ConnectionState) : Prop where
  | waiting (unsent : sent = []) (early : state ≠ .play) (stays : ∀ action ∈ pending, Stays action)
  | bound (unsent : sent = []) (start : state = .handshaking) {target : ConnectionState}
    (requestable : target.isRequestable) (due : pending = [.transition target])
  | welcoming {rest : List Action} (one : sent ≠ []) (once : Once sent) (login : state = .login)
    (stays : ∀ action ∈ rest, Stays action) (due : pending = rest ++ [.transition .play])
  | playing (one : sent ≠ []) (once : Once sent) (play : state = .play) (due : pending = [])

namespace Passage

variable {registries : StateRegistries (Session α)} {h : List (Happening α)}
  {happening : Happening α} {sent : List Bytes} {pending : List Action} {state : ConnectionState}
  {c d : Conversation α} {session after : Session α}

theorem successes_concat :
    successes registries (h ++ [happening]) =
      successes registries h ++ (happening.queued registries).filterMap Action.success? := by
  rw [successes, successes, List.flatMap_append, List.filterMap_append, List.flatMap_singleton]

theorem once_nil : Once [] := ⟨nofun, Nat.zero_le 1⟩

theorem once (passage : Passage sent pending state) : Once sent := by
  cases passage with
  | waiting unsent early stays => rw [unsent]; exact once_nil
  | bound unsent start requestable due => rw [unsent]; exact once_nil
  | welcoming one once login stays due => exact once
  | playing one once play due => exact once

/-- What the welcome holds of LoginSuccess. -/
theorem welcome_success (config : ServerConfig) (id : Uuid) (username : String) :
    (Handlers.welcome config id username).filterMap Action.success? =
      [Packet.encode (LoginSuccess.mk id username)] := by
  have succeeds : Action.success? (.send (Packet.encode (LoginSuccess.mk id username))) = some _ :=
    (Action.success?_send _).trans (if_pos rfl)
  have only : [.send (Packet.encode (LoginSuccess.mk id username)), .transition .play].filterMap
      Action.success? = [Packet.encode (LoginSuccess.mk id username)] := by
    rw [List.filterMap_cons_some succeeds, List.filterMap_cons_none rfl, List.filterMap_nil]
  rw [Handlers.welcome]
  cases config.compressionThreshold with
  | none => exact only
  | some threshold =>
    have announces := Action.success?_send (SetCompression.mk threshold.toUInt32)
    rw [if_neg (by decide)] at announces
    rw [List.cons_append, List.cons_append, List.nil_append, List.filterMap_cons_none announces,
      List.filterMap_cons_none rfl]
    exact only

/-! ### What a payload leads to -/

/-- What a handler makes of a session that had nothing queued. -/
structure Leads (state : ConnectionState) (sent : List Bytes) (after : Session α) : Prop where
  passage : Passage (sent ++ after.actions.filterMap Action.success?) after.actions state
  knows : Knows after

theorem handshaking_leads (knows : Knows session) (idle : session.actions = []) (unsent : sent = [])
    {packet : Handshake} (requestable : packet.nextState.isRequestable) :
    Leads .handshaking sent ((session.setProtocolVersion packet.protocolVersion).requestTransition
      packet.nextState) := by
  have queued : ((session.setProtocolVersion packet.protocolVersion).requestTransition
      packet.nextState).actions = [.transition packet.nextState] :=
    congrArg (· ++ [Action.transition packet.nextState]) idle
  refine ⟨?_, knows.named, knows.asked⟩
  rw [queued, unsent]
  exact .bound rfl rfl requestable rfl

/-- A handler that sends another packet first and asks for no move lets the client wait. -/
theorem leads_of_send {β : Type} [kind : Packet β] {packet : β} {rest : List Action}
    (other : kind.id ≠ Packet.id LoginSuccess) (early : state ≠ .play) (unsent : sent = [])
    (knows : Knows after) (queued : after.actions = .send (Packet.encode packet) :: rest)
    (quiet : rest.filterMap Action.success? = []) (stays : ∀ action ∈ rest, Stays action) :
    Leads state sent after := by
  have unnumbered : Action.success? (.send (Packet.encode packet)) = none :=
    (Action.success?_send packet).trans (if_neg other)
  refine ⟨?_, knows⟩
  rw [queued, unsent, List.filterMap_cons_none unnumbered, quiet]
  refine .waiting rfl early (List.forall_mem_cons.mpr ⟨?_, stays⟩)
  exact nofun

theorem status_leads (knows : Knows session) (idle : session.actions = []) (unsent : sent = [])
    (after_eq : after = session.send (StatusResponse.mk session.server.status.toJson) ∨
      ∃ n, after = (session.send (PongResponse.mk n)).disconnect) : Leads .status sent after := by
  rcases after_eq with rfl | ⟨n, rfl⟩
  · exact leads_of_send (by decide) (by decide) unsent ⟨knows.named, knows.asked⟩
      (congrArg (· ++ [_]) idle) rfl (List.forall_mem_nil _)
  · have queued : ((session.send (PongResponse.mk n)).disconnect).actions =
        [.send (Packet.encode (PongResponse.mk n)), .disconnect] :=
      congrArg (fun actions => actions ++ [_] ++ [Action.disconnect]) idle
    refine leads_of_send (by decide) (by decide) unsent ⟨knows.named, knows.asked⟩ queued rfl ?_
    exact List.forall_mem_singleton.mpr nofun

/-- A login that is finished is on its way out of LOGIN. -/
theorem finishLogin_leads {username : String} (named : session.username = some username)
    (letter : username ≠ "") (knows : Knows session) (unsent : sent = [])
    (queued : session.actions.filterMap Action.success? = [])
    (stays : ∀ action ∈ session.actions, Stays action) :
    Leads .login sent (Handlers.finishLogin session) := by
  rw [Handlers.finishLogin_eq session named]
  obtain ⟨rest, welcome, welcomes⟩ := Admission.Stage.exists_welcome session.server.config
    (Handlers.identify session.uuid session.entropy).1 username
  refine ⟨?_, knows.named, knows.asked⟩
  dsimp only
  rw [unsent, List.filterMap_append, queued, welcome_success, welcome]
  refine .welcoming (List.cons_ne_nil _ _) ⟨?_, Nat.le_refl 1⟩ rfl ?_
    (List.append_assoc _ _ _).symm
  · intro packet member
    rw [List.nil_append, List.nil_append, List.mem_singleton] at member
    exact ⟨_, _, member, letter⟩
  · intro action member
    rcases List.mem_append.mp member with before | within
    · exact stays action before
    · cases welcomes action within <;> exact nofun

theorem login_leads {payload : Bytes} (knows : Knows session) (idle : session.actions = [])
    (unsent : sent = []) (welcomed : Handlers.Welcomed payload session after) :
    Leads .login sent after := by
  cases welcomed with
  | started is fresh named =>
    rename_i packet
    have letter : packet.username ≠ "" := String.isEmpty_eq_false_iff.mp named
    cases held : session.server.key with
    | none =>
      -- Without a key no token can be out, so there is nothing to be known of it.
      have keyless : session.verifyToken = none :=
        Decidable.of_not_not fun issued => (knows.asked issued).2 held
      refine finishLogin_leads rfl letter ⟨?_, ?_⟩ unsent ?_ ?_
      · rintro _ ⟨⟩
        exact letter
      · exact fun issued => absurd keyless issued
      · change session.actions.filterMap _ = []
        rw [idle, List.filterMap_nil]
      · change ∀ action ∈ session.actions, _
        rw [idle]
        exact nofun
    | some key =>
      refine leads_of_send (by decide) (by decide) unsent ⟨?_, fun _ => ⟨nofun, ?_⟩⟩
        (congrArg (· ++ [_]) idle) rfl (List.forall_mem_nil _)
      · rintro _ ⟨⟩
        exact letter
      · change session.server.key ≠ none
        rw [held]
        exact nofun
  | responded is issued exchange opened =>
    -- The token went to a client with a name, and it is that name which the welcome holds.
    rename_i packet expected key secret
    obtain ⟨named, keyed⟩ := knows.asked (by rw [issued]; exact nofun)
    obtain ⟨username, named⟩ := Option.ne_none_iff_exists'.mp named
    have queued : ({ session with verifyToken := none }.enableEncryption secret).actions =
        [.enableEncryption secret] := congrArg (· ++ [Action.enableEncryption secret]) idle
    refine finishLogin_leads named (knows.named username named) ⟨knows.named, nofun⟩ unsent ?_ ?_
    · rw [queued]
      rfl
    · rw [queued]
      simp [Stays]

/-- **A payload that is not refused leads on.** -/
theorem heard_leads {payload : Bytes} {outcome : Dispatched} (passage : Passage sent [] state)
    (knows : Knows session) (idle : session.actions = [])
    (done : (Handlers.registries.active state).dispatch payload session = .ok outcome after) :
    Leads state sent after := by
  cases passage with
  | waiting unsent early stays =>
    cases state with
    | handshaking =>
      obtain ⟨packet, requestable, rfl⟩ := Handlers.handshaking_of_dispatch done
      exact handshaking_leads knows idle unsent requestable
    | status => exact status_leads knows idle unsent (Handlers.status_of_dispatch done)
    | login => exact login_leads knows idle unsent (Handlers.welcomed_of_dispatch done)
    | play => exact absurd rfl early
  | bound unsent start requestable due => cases due
  | welcoming one once login stays due => simp at due
  | playing one once play due =>
    subst play
    have same := Admission.Stage.heard_play payload session
    rw [done] at same
    change after = session at same
    subst same
    refine ⟨?_, knows⟩
    rw [idle, List.filterMap_nil, List.append_nil]
    exact .playing one once rfl rfl

/-! ### What is refused -/

/-- A handler that fails has queued nothing. -/
theorem actions_of_dispatch_error {payload : Bytes} {fault : Fault}
    (failed : (Handlers.registries.active state).dispatch payload session = .error fault after) :
    after.actions = session.actions := by
  have served := Registry.served_dispatch (Handlers.registries.active state) payload session
  rw [failed] at served
  cases served with
  | refused reason => rfl
  | failed number known takes read done => exact (Handlers.refused_of_entry known takes done).actions

/-- **A payload is refused for what is in it**: the only handler that could blame the server finds a
key wherever it finds a token. -/
theorem isInternal_of_dispatch {payload : Bytes} {fault : Fault} (knows : Knows session)
    (failed : (Handlers.registries.active state).dispatch payload session = .error fault after) :
    fault.isInternal = false := by
  refine Bool.eq_false_iff.mpr fun internal => ?_
  obtain ⟨id, entry, handler, packet, cause, known, takes, done, internal⟩ :=
    Registry.handled_of_isInternal (fun _ _ known => Handlers.blamesPeer_of_entry known) failed internal
  obtain ⟨issued, keyless⟩ := (Handlers.refused_of_entry known takes done).keyless internal
  exact (knows.asked issued).2 keyless

/-! ### Every step -/

variable {z : Zlib.Library} {action : Action}

/-- An action that is carried out is one less to be carried out. -/
theorem carried (passage : Passage sent (action :: pending) c.state)
    (performed : perform z Handlers.registries action c = .ok true d) :
    Passage sent pending d.state := by
  have moved := Conversation.moved_or_kept_of_perform performed
  cases passage with
  | waiting unsent early stays =>
    rcases moved with ⟨target, same, -, -⟩ | ⟨-, state, -⟩
    · exact absurd same (stays action List.mem_cons_self target)
    · rw [state]
      exact .waiting unsent early fun other member => stays other (List.mem_cons_of_mem _ member)
  | @bound unsent start asked requestable due =>
    injection due with first done
    rcases moved with ⟨target, same, -, rfl⟩ | ⟨stays, -, -⟩
    · obtain rfl := Action.transition.inj (first.symm.trans same)
      refine .waiting unsent ?_ (done ▸ List.forall_mem_nil _)
      change asked ≠ .play
      rintro rfl
      cases requestable
    · exact absurd first (stays _)
  | @welcoming rest one once login stays due =>
    -- The move into PLAY stands behind the rest of the welcome, and nothing stands behind it.
    cases rest with
    | nil =>
      injection due with first done
      rcases moved with ⟨target, same, -, rfl⟩ | ⟨stays, -, -⟩
      · obtain rfl := Action.transition.inj (first.symm.trans same)
        exact .playing one once rfl done
      · exact absurd first (stays _)
    | cons first rest =>
      injection due with same due
      subst same
      rcases moved with ⟨target, same, -, -⟩ | ⟨-, state, -⟩
      · exact absurd same (stays action List.mem_cons_self target)
      · exact .welcoming one once (state.trans login)
          (fun other member => stays other (List.mem_cons_of_mem _ member)) due
  | playing one once play due => cases due

/-- **A move that is asked for may be made**, so an action fails only if a packet is too long. -/
theorem isInternal_of_perform {fault : Fault} (passage : Passage sent (action :: pending) c.state)
    (failed : perform z Handlers.registries action c = .error fault d) : fault.isInternal = false := by
  cases action with
  | send packet =>
    rw [perform] at failed
    rcases fed : Conversation.feed z packet c with ⟨_, e⟩ | ⟨fault', e⟩ <;> rw [fed] at failed <;>
      cases failed
    exact Fault.isInternal_of_isFormat (Conversation.isFormat_of_feed fed)
  | transition target =>
    have allowed : c.state.canMoveTo target := by
      cases passage with
      | waiting unsent early stays => exact absurd rfl (stays _ List.mem_cons_self target)
      | @bound unsent start asked requestable due =>
        cases due
        rw [start]
        cases target with
        | status => rfl
        | login => rfl
        | handshaking => cases requestable
        | play => cases requestable
      | @welcoming rest one once login stays due =>
        cases rest with
        | nil =>
          cases due
          rw [login]
          rfl
        | cons first rest =>
          injection due with same
          exact absurd same.symm (stays first List.mem_cons_self target)
      | playing one once play due => cases due
    rw [Conversation.perform_transition_of_canMoveTo allowed] at failed
    cases failed
  | enableCompression threshold level => cases failed
  | enableEncryption secret => cases failed
  | disconnect => cases failed

theorem Knows.congr (knows : Knows session) (username : after.username = session.username)
    (token : after.verifyToken = session.verifyToken)
    (key : after.server.key = session.server.key) : Knows after where
  named := by rw [username]; exact knows.named
  asked := by rw [username, token, key]; exact knows.asked

/-- What holds of a connection on its way, `tables` telling what is queued. -/
def underWay (tables : StateRegistries (Session α)) : Invariant α where
  between h c := Passage (successes tables h) [] c.state ∧ Knows c.session ∧ c.session.actions = []
  amid h batch c :=
    Passage (successes tables h) (batch ++ c.session.actions) c.state ∧ Knows c.session
  past h _ := Once (successes tables h)

theorem successes_carried {tables : StateRegistries (Session α)} :
    successes tables (h ++ [.carried action c]) = successes tables h :=
  successes_concat.trans (List.append_nil _)

theorem successes_of_alike {tables others : StateRegistries (Session α)}
    (alike : tables.Alike others) : successes tables = successes others := by
  have same : Happening.queued tables = Happening.queued others := by
    funext happening
    cases happening with
    | heard payload c =>
      rw [Happening.queued, Happening.queued, Conversation.dispatch_of_alike alike]
    | carried action c => rfl
  funext h
  rw [successes, successes, same]

/-- Every step of a connection keeps it on its way. -/
theorem underWay_kept (z : Zlib.Library) :
    (underWay Handlers.registries : Invariant α).Kept z Handlers.registries where
  quiet := by
    rintro h c d ⟨passage, knows, idle⟩ quiet
    obtain ⟨change, session⟩ := quiet.session
    exact ⟨quiet.state ▸ passage, knows.congr (by rw [session]; rfl) (by rw [session]; rfl)
      (by rw [session]; rfl), by rw [session]; exact idle⟩
  quiet_past := by
    rintro h c d once -
    exact once
  past := by
    rintro h c ⟨passage, -, -⟩
    exact passage.once
  heard := by
    rintro h c d payload outcome ⟨passage, knows, idle⟩ dispatched
    have queued : (Happening.heard payload c).queued Handlers.registries = d.session.actions := by
      rw [Happening.queued, dispatched, idle]
      rfl
    obtain ⟨after, done, rfl⟩ := Admission.Stage.of_dispatch dispatched
    obtain ⟨passage, knows⟩ := heard_leads passage knows idle done
    refine ⟨?_, knows⟩
    rw [successes_concat, queued]
    exact passage
  refused := by
    rintro h c d payload fault ⟨passage, knows, idle⟩ dispatched
    obtain ⟨after, failed, rfl⟩ := Admission.Stage.of_dispatch_error dispatched
    have queued : (Happening.heard payload c).queued Handlers.registries = [] := by
      rw [Happening.queued, dispatched]
      change after.actions.drop c.session.actions.length = []
      rw [actions_of_dispatch_error failed, List.drop_length]
    change Once (successes _ _)
    rw [successes_concat, queued, List.filterMap_nil, List.append_nil]
    exact passage.once
  taken := by
    rintro h c ⟨passage, knows⟩
    refine ⟨?_, knows.congr rfl rfl rfl⟩
    change Passage _ (c.session.actions ++ []) c.state
    rw [List.append_nil]
    exact passage
  carried := by
    rintro h action rest c d ⟨passage, knows⟩ performed
    obtain ⟨username, token, key, queue⟩ := Admission.Stage.perform_keeps performed
    refine ⟨?_, knows.congr username token key⟩
    rw [successes_carried, queue]
    exact passage.carried performed
  ended := by
    rintro h action rest c d ⟨passage, knows⟩ performed
    change Once (successes _ _)
    rw [successes_carried]
    exact passage.once
  failed := by
    rintro h action rest c d fault ⟨passage, knows⟩ failed
    exact passage.once
  settled := by
    rintro h c ⟨passage, knows⟩ idle
    rw [idle] at passage
    exact ⟨passage, knows, idle⟩

/-- No step of a connection fails with an internal fault. -/
theorem underWay_spares (z : Zlib.Library) :
    (underWay Handlers.registries : Invariant α).Spares z Handlers.registries
      (·.isInternal = false) where
  refused := by
    rintro h c d payload fault ⟨passage, knows, idle⟩ dispatched
    obtain ⟨after, failed, -⟩ := Admission.Stage.of_dispatch_error dispatched
    exact isInternal_of_dispatch knows failed
  failed := by
    rintro h action rest c d fault ⟨passage, knows⟩ failed
    exact isInternal_of_perform passage failed
  undecoded failed := Fault.isInternal_of_isFormat (Codec.isFormat_of_decode failed)
  unencoded failed := Fault.isInternal_of_isFormat (Conversation.isFormat_of_feed failed)
  silent _ := rfl
  cut := rfl

end Passage

/-! ## Every course of events -/

namespace Connection

open Handlers (registries untyped)

/-- A course of events makes nothing of a connection that the server is to blame for. -/
structure Blameless (tables : StateRegistries (Session α)) (z : Zlib.Library) (begun : Connection α)
    (events : List Event) : Prop where
  /-- The connection does not end with an internal fault. -/
  result : ∀ fault, (begun.run tables z events).result? = some (.error fault) →
    fault.isInternal = false
  /-- The handlers queue no packet with the number of LoginSuccess but one, and it has a name. -/
  success : Passage.Once (Passage.successes tables (begun.history tables z events))

theorem blameless_of_alike {tables : StateRegistries (Session α)} (alike : tables.Alike registries)
    (z : Zlib.Library) {session : Session α} (knows : Passage.Knows session)
    (idle : session.actions = []) (events : List Event) :
    Blameless tables z (start tables session) events := by
  have kept := (Passage.underWay_kept (α := α) z).of_alike alike
  have spares := (Passage.underWay_spares (α := α) z).of_alike alike
  -- The hooks of the first registry run before anything is heard.
  have entered : (Passage.underWay registries).between []
      (({ session := session } : Conversation α).enter tables) := by
    rw [Conversation.enter_of_alike alike]
    exact ⟨.waiting rfl nofun (List.forall_mem_nil _), knows.congr rfl rfl rfl, idle⟩
  have obeys := kept.start entered
  refine ⟨spares.run kept obeys spares.start events, ?_⟩
  rw [Passage.successes_of_alike alike]
  rcases (kept.run obeys events).open_or_closed with ⟨-, passage, -, -⟩ | ⟨result, d, -, once, -⟩
  · exact passage.once
  · exact once

/-- **No client brings the default registries to a mistake of their own**, at a server with a key or
without one.  However the octets arrive and whatever else happens, a connection never ends with a move
that the arrows do not allow, a key exchange without a key or a packet of the wrong type; and the handlers
queue at most one LoginSuccess, with a name in it. -/
theorem no_internal_fault (config : ServerConfig) (key : ServerKey) (z : Zlib.Library)
    (metrics : Metrics) (id : ConnectionId) (peer : Option SocketAddress) (entropy : Entropy) (app : α)
    (events : List Event) :
    let server := { ServerContext.start config key with metrics }
    let session : Session α := { id, peer, server, entropy, app }
    Blameless registries z (start registries session) events ∧
      Blameless untyped z (start untyped session) events := by
  intro server session
  have knows : Passage.Knows session := ⟨nofun, fun issued => absurd rfl issued⟩
  exact ⟨blameless_of_alike (fun state => ⟨rfl, rfl, rfl, rfl⟩) z knows rfl events,
    blameless_of_alike Handlers.alike_untyped z knows rfl events⟩

end Connection

end GameTransport
