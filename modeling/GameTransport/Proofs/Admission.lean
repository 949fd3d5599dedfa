import GameTransport.Proofs.Hooks
import GameTransport.Proofs.Login
import GameTransport.Proofs.Stages

/-! # Nobody reaches PLAY without the exchange of keys

Every step of a connection keeps to the stages of a login (`Admission.staged_kept`).  So whatever a
client of a server with a key sends, an exchange comes before PLAY and before the welcome.

A response uses the token up before anything is checked, and a response that is refused ends the
connection.  So no second response is ever looked at.
-/

namespace GameTransport

variable {α : Type}

namespace Admission

open Conversation (dispatch perform)
open Handlers (registries)

variable {key : ServerKey} {h : List (Happening α)} {c d : Conversation α}

/-! ### Every step -/

/-- What a payload does to a history if it leads nowhere. -/
theorem Stage.refused {payload : Bytes} (stage : Stage key h [] c) (state : d.state = c.state)
    (codec : d.codec = c.codec)
    (left : c.state = .play → d.session.username = c.session.username) :
    ((h ++ [Happening.heard payload c]).filterMap (handled? EncryptionResponse)).length ≤ 1 ∧
      (d.state = .play → ∃ exchange : Exchange α,
        exchange.Precedes key (h ++ [.heard payload c]) d) := by
  rw [filterMap_concat, List.length_append]
  cases stage with
  | unasked told none_ none_' early harmless =>
    rw [told.handled]
    refine ⟨by simp, fun play => absurd (state.symm.trans play) early⟩
  | asked start asking told named held issued login harmless =>
    rw [told.handled]
    refine ⟨by simp, fun play => ?_⟩
    rw [state, login] at play
    cases play
  | accepted exchange rest opened told held login welcomes due => cases due
  | welcoming exchange rest precedes login welcomes due => simp at due
  | playing exchange precedes play due =>
    have elsewhere : c.state ≠ .login := by rw [play]; decide
    have unhandled : handled? EncryptionResponse (.heard payload c) = none := if_neg elsewhere
    rw [precedes.tally.handled, unhandled]
    refine ⟨Nat.le_refl 1, fun _ => ⟨exchange, ?_⟩⟩
    exact precedes.congr (fun _ _ _ told => told.heard_of_ne_login payload elsewhere)
      (fun under => codec ▸ under) (left play)

theorem Stage.handled_le {pending : List Action} (stage : Stage key h pending c) :
    (h.filterMap (handled? EncryptionResponse)).length ≤ 1 := by
  cases stage with
  | unasked told none_ none_' early harmless => rw [told.handled]; exact Nat.zero_le 1
  | asked start asking told named held issued login harmless =>
    rw [told.handled]
    exact Nat.zero_le 1
  | accepted exchange rest opened told held login welcomes due =>
    rw [told.handled]
    exact Nat.le_refl 1
  | welcoming exchange rest precedes login welcomes due =>
    rw [precedes.tally.handled]
    exact Nat.le_refl 1
  | playing exchange precedes play due =>
    rw [precedes.tally.handled]
    exact Nat.le_refl 1

/-- Between two payloads a connection in PLAY has its exchange behind it. -/
theorem Stage.precedes_of_play (stage : Stage key h [] c) (play : c.state = .play) :
    ∃ exchange : Exchange α, exchange.Precedes key h c := by
  cases stage with
  | unasked told none_ none_' early harmless => exact absurd play early
  | asked start asking told named held issued login harmless => rw [play] at login; cases login
  | accepted exchange rest opened told held login welcomes due => cases due
  | welcoming exchange rest precedes login welcomes due => simp at due
  | playing exchange precedes _ due => exact ⟨exchange, precedes⟩

/-- Every step of a connection keeps to the stages. -/
theorem staged_kept (key : ServerKey) (z : Zlib.Library) :
    (staged key : Invariant α).Kept z registries where
  quiet := by
    rintro h c d ⟨guarded, exchange, stage, idle⟩ quiet
    obtain ⟨change, session⟩ := quiet.session
    refine ⟨guarded, by rw [session]; exact exchange, ?_, by rw [session]; exact idle⟩
    exact stage.congr quiet.state (by rw [session]; rfl) (by rw [session]; rfl)
      (fun _ => quiet.under) fun _ _ _ told => told
  quiet_past := by
    rintro h c d ⟨guarded, handled, precedes⟩ quiet
    obtain ⟨change, session⟩ := quiet.session
    refine ⟨guarded, handled, fun play => ?_⟩
    obtain ⟨exchange, before⟩ := precedes (quiet.state.symm.trans play)
    exact ⟨exchange, before.congr (fun _ _ _ told => told) quiet.under (by rw [session]; rfl)⟩
  past := by
    rintro h c ⟨guarded, exchange, stage, idle⟩
    exact ⟨guarded, stage.handled_le, stage.precedes_of_play⟩
  heard := by
    rintro h c d payload outcome ⟨guarded, exchange, stage, idle⟩ dispatched
    obtain ⟨kept, later⟩ := stage.heard exchange idle dispatched
    exact ⟨guarded.concat stage.precedes_of_play (fun _ _ same => by cases same), kept, later⟩
  refused := by
    rintro h c d payload fault ⟨guarded, exchange, stage, idle⟩ dispatched
    have left : d.state = c.state ∧ d.codec = c.codec ∧
        (c.state = .play → d.session.username = c.session.username) := by
      rw [dispatch, Conversation.active] at dispatched
      rcases out : Registry.dispatch (registries.active c.state) payload c.session with
        ⟨given, session⟩ | ⟨fault', session⟩ <;> rw [out] at dispatched <;> cases dispatched
      refine ⟨rfl, rfl, fun play => ?_⟩
      have same := Stage.heard_play payload c.session
      rw [← play, out] at same
      exact congrArg Session.username same
    obtain ⟨handled, precedes⟩ := stage.refused left.1 left.2.1 left.2.2
    exact ⟨guarded.concat stage.precedes_of_play (fun _ _ same => by cases same), handled, precedes⟩
  taken := by
    rintro h c ⟨guarded, exchange, stage⟩
    refine ⟨guarded, exchange, ?_⟩
    have all : c.takeBatch.1 ++ c.takeBatch.2.session.actions = [] ++ c.session.actions :=
      List.append_nil _
    rw [all]
    exact stage.congr rfl rfl rfl (fun _ under => under) fun _ _ _ told => told
  carried := by
    rintro h action rest c d ⟨guarded, exchange, stage⟩ performed
    obtain ⟨elsewhere, sent⟩ := stage.guards
    obtain ⟨-, -, kept, queue⟩ := Stage.perform_keeps performed
    refine ⟨guarded.concat (fun play => absurd play elsewhere) ?_, kept.trans exchange, ?_⟩
    · rintro packet _ same
      cases same
      exact sent packet rfl
    · rw [queue]
      exact stage.carried performed
  ended := by
    rintro h action rest c d ⟨guarded, exchange, stage⟩ performed
    obtain ⟨elsewhere, sent⟩ := stage.guards
    obtain ⟨rfl, rfl⟩ := Conversation.eq_of_perform_false performed
    refine ⟨guarded.concat (fun play => absurd play elsewhere) (fun _ _ same => by cases same), ?_,
      fun play => absurd play elsewhere⟩
    rw [filterMap_concat]
    simpa [handled?] using stage.handled_le
  failed := by
    rintro h action rest c d fault ⟨guarded, exchange, stage⟩ failed
    obtain ⟨elsewhere, -⟩ := stage.guards
    refine ⟨guarded, stage.handled_le, fun play => ?_⟩
    rw [(Conversation.kept_of_perform_error failed).1] at play
    exact absurd play elsewhere
  settled := by
    rintro h c ⟨guarded, exchange, stage⟩ idle
    rw [idle] at stage
    exact ⟨guarded, exchange, stage, idle⟩

end Admission

namespace Connection

open Admission Handlers Conversation

/-- The end of a connection leaves its layers and the name alone. -/
theorem closed_keeps (result : Except Fault Unit) (c : Conversation α) :
    (c.closed registries result).codec = c.codec ∧
      (c.closed registries result).session.username = c.session.username := by
  obtain ⟨session, state, codec, outgoing, written⟩ := c
  rcases result with fault | ⟨⟨⟩⟩
  · simp only [Conversation.closed, Conversation.caught]
    split <;> cases state <;> exact ⟨rfl, rfl⟩
  · cases state <;> exact ⟨rfl, rfl⟩

/-- **Nobody reaches PLAY without the exchange of keys.**  Whatever a client of a server with a key
sends, an exchange comes before PLAY and before every packet of the welcome, which goes out encrypted
under its secret.  At most one response is ever looked at, and it uses the token up. -/
theorem exchange_precedes_play {config : ServerConfig} (online : config.onlineMode = true)
    (key : ServerKey) (z : Zlib.Library) (metrics : Metrics) (id : ConnectionId)
    (peer : Option SocketAddress) (entropy : Entropy) (app : α) (events : List Event) :
    let server := { ServerContext.start config key with metrics }
    let begun := start registries { id, peer, server, entropy, app }
    let c := begun.run registries z events
    let h := begun.history registries z events
    (c.conversation.state = .play →
      ∃ exchange : Exchange α, exchange.Precedes key h c.conversation) ∧
    (∀ before happening, before ++ [happening] <+: h →
      happening.conversation.state = .play →
        ∃ exchange : Exchange α, exchange.Precedes key before happening.conversation) ∧
    (∀ before packet d, before ++ [.carried (.send packet) d] <+: h → Welcoming packet →
      ∃ exchange : Exchange α, exchange.Precedes key before d ∧
        ((∃ threshold, packet = Packet.encode (SetCompression.mk threshold)) ∨
          ∃ id, packet = Packet.encode (LoginSuccess.mk id exchange.start.username)) ∧
        ∀ octets after, Codec.encode z packet d.codec = .ok octets after →
          ∃ earlier frame, d.codec.frame z packet = .ok frame ∧
            octets = (((Duplex.ofSecret exchange.secret).outbound.encrypt earlier).2.encrypt
              frame).1) ∧
    (h.filterMap (handled? EncryptionResponse)).length ≤ 1 ∧
    ∀ (payload : Bytes) (packet : EncryptionResponse) (d : Conversation α), d.state = .login →
      Packet.ofPayload? payload = some packet →
      (stateOf (dispatch registries payload d)).session.verifyToken = none := by
  intro server begun c h
  have shared : server.key = some key := if_pos online
  have kept := @staged_kept α key z
  have entered : (staged key).between []
      (({ session := { id, peer, server, entropy, app } : Conversation α }).enter registries) := by
    refine ⟨?_, shared, .unasked ⟨rfl, rfl, rfl, rfl⟩ rfl rfl nofun (List.forall_mem_nil _), rfl⟩
    intro before happening within
    exact absurd (List.prefix_nil.mp within) (by simp)
  have obeys : c.Obeys registries (staged key) h := kept.run (kept.start entered) events
  obtain ⟨guarded, handled, precedes⟩ : Guarded key h ∧
      (h.filterMap (handled? EncryptionResponse)).length ≤ 1 ∧
      (c.conversation.state = .play →
        ∃ exchange : Exchange α, exchange.Precedes key h c.conversation) := by
    rcases obeys.open_or_closed with ⟨-, between⟩ | ⟨result, d, -, ⟨guarded, handled, precedes⟩, closed⟩
    · exact kept.past between
    · obtain ⟨codec, username⟩ := closed_keeps result d
      refine ⟨guarded, handled, fun play => ?_⟩
      rw [closed, state_closed] at play
      obtain ⟨exchange, before⟩ := precedes play
      rw [closed]
      refine ⟨exchange, before.congr (fun _ _ _ told => told) ?_ username⟩
      rw [codec]
      exact fun under => under
  refine ⟨precedes, fun before happening within => (guarded before happening within).1, ?_, handled,
    ?_⟩
  · intro before packet d within welcoming
    obtain ⟨exchange, precedes, sort⟩ := (guarded _ _ within).2 packet d rfl welcoming
    exact ⟨exchange, precedes, sort, fun octets after => precedes.under.sealed⟩
  · intro payload packet d login is
    have used := verifyToken_of_response is d.session
    rw [Conversation.dispatch, Conversation.active, login]
    rcases out : Registry.dispatch (Handlers.registries.active .login) payload d.session with
      ⟨outcome, session⟩ | ⟨fault, session⟩ <;> rw [out] at used <;> exact used

/-- A player who knows the key gets into PLAY with the octets of a login, delivered at once. -/
theorem exists_receive_play {config : ServerConfig} {key : ServerKey} {player : Player}
    {z : Zlib.Library} (valid : config.problem? = none) (online : config.onlineMode = true)
    (lawful : z.RoundTrips) (bounded : z.Bounded) (proper : player.Proper z)
    (knows : player.Knows key) (metrics : Metrics) (id : ConnectionId)
    (peer : Option SocketAddress) (entropy : Entropy) (app : α) :
    let server := { ServerContext.start config key with metrics }
    ∃ octets, ((start registries { id, peer, server, entropy, app }).run registries z
      [.received octets]).conversation.state = .play := by
  intro server
  obtain ⟨patient, threshold⟩ := ServerConfig.of_problem?_eq_none valid
  obtain ⟨first, encoded⟩ := Codec.exists_encode_plain bounded (Handshake.small proper.address)
  obtain ⟨second, encoded'⟩ := Codec.exists_encode_plain bounded (LoginStart.small proper.name)
  have accepted := @Login.accepted_start α config key patient metrics id peer entropy app
  rw [if_pos online] at accepted
  obtain ⟨between, asks, response, d, after, octets, -, -, answered, -, -, admitted⟩ :=
    takes_online lawful bounded proper knows threshold accepted.rests accepted.fresh accepted.plain
      accepted.supply encoded encoded'
  have comes := (accepted.expects lawful proper encoded answered).comes
  refine ⟨first ++ (second ++ response), ?_⟩
  change (Connection.receive registries z _ _).conversation.state = _
  rw [comes]
  exact admitted.state

/-- A server that is configured as usual, with a key: there is a way into PLAY, and an exchange on
it. -/
theorem exchange_precedes_play_standard :
    let server := { ServerContext.start .standard (.ofKeyPair Login.firstPair) with metrics := {} }
    let begun : Connection Unit :=
      start registries { id := ⟨1⟩, peer := none, server, entropy := ⟨fun _ => 0, 0⟩, app := () }
    ServerConfig.standard.onlineMode = true ∧
      ∃ events, (begun.run registries .stored events).conversation.state = .play ∧
        ∃ exchange : Exchange Unit, exchange.Precedes (.ofKeyPair Login.firstPair)
          (begun.history registries .stored events) (begun.run registries .stored events).conversation := by
  intro server begun
  have online : ServerConfig.standard.onlineMode = true := by decide
  obtain ⟨octets, play⟩ := exists_receive_play (by decide) online
    Zlib.Library.stored_roundTrips Zlib.Library.stored_bounded Login.proper_firstPlayer
    Login.knows_firstPlayer {} ⟨1⟩ none ⟨fun _ => 0, 0⟩ ()
  refine ⟨online, [.received octets], play, ?_⟩
  exact (exchange_precedes_play online (.ofKeyPair Login.firstPair) .stored {} ⟨1⟩ none
    ⟨fun _ => 0, 0⟩ () [.received octets]).1 play

end Connection

end GameTransport
