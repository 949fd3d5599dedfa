import GameTransport.Connection
import GameTransport.Proofs.Conversations
import GameTransport.Proofs.Written

/-! # Calls of handlers and hooks, on record

A callback is any function on the session.  `StateRegistries.recorded` makes callbacks keep a record
of their calls: which registry's callback it is, what it is called for and which session it is given.
The record stands beside the value of the application, where no callback and nothing else sees it.

So a connection over recorded registries is the connection over the registries themselves, with the
record left out (`Connection.run_recorded`), and `Connection.calls` is the record of that connection.
-/

namespace GameTransport

variable {α : Type}

/-- What a callback is called for. -/
inductive Occasion where
  /-- A packet: the number of its kind and its body. -/
  | packet (packet : Bytes)
  | attach
  | detach
  | caught (fault : Fault)
  deriving DecidableEq

/-- A call of a callback: in the registry of which state, and with which session. -/
structure Call (α : Type) where
  state : ConnectionState
  occasion : Occasion
  session : Session α

/-- An application value and the calls made so far. -/
abbrev Recorded (α : Type) : Type := α × List (Call α)

namespace Session

/-- The session without the record. -/
def plain (session : Session (Recorded α)) : Session α :=
  { session with app := session.app.1 }

/-- The session with a record. -/
def withRecord (session : Session α) (calls : List (Call α)) : Session (Recorded α) :=
  { session with app := (session.app, calls) }

end Session

/-! ## Recorded registries -/

/-- A call of a hook is made and put on record. -/
def Call.made (state : ConnectionState) (occasion : Occasion) (hook : Session α → Session α)
    (session : Session (Recorded α)) : Session (Recorded α) :=
  (hook session.plain).withRecord (session.app.2 ++ [⟨state, occasion, session.plain⟩])

/-- A call of a handler is made and put on record. -/
def Handler.recorded {β : Type} [Packet β] (state : ConnectionState)
    (handler : Handler (Session α) β) : Handler (Session (Recorded α)) β := fun packet session =>
  let calls := session.app.2 ++ [⟨state, .packet (Packet.encode packet), session.plain⟩]
  match handler packet session.plain with
  | .ok () after => .ok () (after.withRecord calls)
  | .error fault after => .error fault (after.withRecord calls)

def Entry.recorded (state : ConnectionState) (entry : Entry (Session α)) :
    Entry (Session (Recorded α)) where
  Value := entry.Value
  packet := entry.packet
  handler := entry.handler.map (@Handler.recorded α entry.Value entry.packet state)

/-- Calls of the handlers and hooks are put on record. -/
def Registry.recorded (state : ConnectionState) (registry : Registry (Session α)) :
    Registry (Session (Recorded α)) where
  name := registry.name
  table := registry.table.map (Option.map (Entry.recorded state))
  size := registry.size
  attach := Call.made state .attach registry.attach
  detach := Call.made state .detach registry.detach
  caught := fun fault => Call.made state (.caught fault) (registry.caught fault)

def StateRegistries.recorded (registries : StateRegistries (Session α)) :
    StateRegistries (Session (Recorded α)) where
  handshaking := registries.handshaking.recorded .handshaking
  status := registries.status.recorded .status
  login := registries.login.recorded .login
  play := registries.play.recorded .play

/-- A result with another state. -/
def withState {ε σ τ β : Type} (f : σ → τ) : EStateM.Result ε σ β → EStateM.Result ε τ β
  | .ok value s => .ok value (f s)
  | .error fault s => .error fault (f s)

variable {state : ConnectionState} {registries : StateRegistries (Session α)}

theorem StateRegistries.active_recorded (state : ConnectionState) :
    registries.recorded.active state = (registries.active state).recorded state := by
  cases state <;> rfl

theorem Registry.entry?_recorded (registry : Registry (Session α)) (id : UInt32) :
    Registry.entry? (registry.recorded state) id =
      (Registry.entry? registry id).map (Entry.recorded state) := by
  unfold Registry.entry? Registry.recorded
  dsimp only
  rw [Array.getElem?_map]
  rcases registry.table[id.toNat]? with _ | _ | entry <;> rfl

theorem Handler.recorded_plain {β : Type} [Packet β] (handler : Handler (Session α) β) (packet : β)
    (session : Session (Recorded α)) :
    withState Session.plain (handler.recorded state packet session) =
      handler packet session.plain := by
  unfold Handler.recorded
  dsimp only
  rcases handler packet session.plain with ⟨_, after⟩ | ⟨fault, after⟩ <;> rfl

theorem Entry.run_recorded (entry : Entry (Session α)) (body : Bytes)
    (session : Session (Recorded α)) :
    withState Session.plain ((entry.recorded state).run body session) =
      entry.run body session.plain := by
  obtain ⟨Value, packet, handler⟩ := entry
  unfold Entry.run Entry.recorded
  dsimp only
  rcases packet.read body with ⟨value, _ | ⟨b, rest⟩⟩ | ⟨fault, rest⟩
  · rcases handler with _ | handler
    · rfl
    · have made := @Handler.recorded_plain α state Value packet handler value session
      dsimp only [Option.map, Entry.name]
      rw [← made]
      rcases @Handler.recorded α Value packet state handler value session with
        ⟨_, after⟩ | ⟨fault, after⟩ <;> rfl
  · rfl
  · rfl

theorem Registry.dispatch_recorded (registry : Registry (Session α)) (payload : Bytes)
    (session : Session (Recorded α)) :
    withState Session.plain ((registry.recorded state).dispatch payload session) =
      registry.dispatch payload session.plain := by
  unfold Registry.dispatch
  rcases Varint.readU32 payload with ⟨id, body⟩ | ⟨fault, rest⟩
  · dsimp only
    rw [Registry.entry?_recorded]
    rcases registry.entry? id with _ | entry
    · rfl
    · dsimp only [Option.map_some]
      rw [← @Entry.run_recorded α state]
      rcases (entry.recorded state).run body session with ⟨handled, after⟩ | ⟨fault, after⟩ <;> rfl
  · rfl

/-- A handler that is called is put on record. -/
theorem Entry.calls_run_recorded (entry : Entry (Session α)) (body : Bytes)
    (session : Session (Recorded α)) :
    (stateOf ((entry.recorded state).run body session)).app.2 = session.app.2 ∨
      ∃ packet, (stateOf ((entry.recorded state).run body session)).app.2 =
        session.app.2 ++ [⟨state, .packet packet, session.plain⟩] := by
  obtain ⟨Value, packet, handler⟩ := entry
  unfold Entry.run Entry.recorded
  dsimp only
  rcases packet.read body with ⟨value, _ | ⟨b, rest⟩⟩ | ⟨fault, rest⟩
  · rcases handler with _ | handler
    · exact .inl rfl
    · refine .inr ⟨@Packet.encode Value packet value, ?_⟩
      unfold Handler.recorded
      dsimp only [Option.map]
      rcases handler value session.plain with ⟨_, after⟩ | ⟨fault, after⟩ <;> rfl
  · exact .inl rfl
  · exact .inl rfl

theorem Registry.calls_dispatch_recorded (registry : Registry (Session α)) (payload : Bytes)
    (session : Session (Recorded α)) :
    (stateOf ((registry.recorded state).dispatch payload session)).app.2 = session.app.2 ∨
      ∃ packet, (stateOf ((registry.recorded state).dispatch payload session)).app.2 =
        session.app.2 ++ [⟨state, .packet packet, session.plain⟩] := by
  unfold Registry.dispatch
  rcases Varint.readU32 payload with ⟨id, body⟩ | ⟨fault, rest⟩
  · dsimp only
    rw [Registry.entry?_recorded]
    rcases registry.entry? id with _ | entry
    · exact .inl rfl
    · have called := @Entry.calls_run_recorded α state entry body session
      dsimp only [Option.map_some]
      rcases outcome : (entry.recorded state).run body session with ⟨handled, after⟩ | ⟨fault, after⟩ <;>
        rw [outcome] at called <;> exact called
  · exact .inl rfl

/-! ## Conversations without the record -/

namespace Conversation

/-- The conversation without the record. -/
def plain (c : Conversation (Recorded α)) : Conversation α :=
  { c with session := c.session.plain }

variable (z : Zlib.Library) (c : Conversation (Recorded α))

theorem feed_plain (packet : Bytes) :
    withState plain (feed z packet c) = feed z packet c.plain := by
  have flushed : c.flush.codec = c.codec := rfl
  have flushed' : c.plain.flush.codec = c.codec := rfl
  have same : c.plain.codec = c.codec := rfl
  unfold feed
  by_cases full : highWater ≤ c.outgoing.length
  · have full' : highWater ≤ c.plain.outgoing.length := full
    simp only [if_pos full, if_pos full', flushed, flushed']
    rcases Codec.encode z packet c.codec with ⟨octets, codec⟩ | ⟨fault, codec⟩ <;> rfl
  · have full' : ¬ highWater ≤ c.plain.outgoing.length := full
    simp only [if_neg full, if_neg full', same]
    rcases Codec.encode z packet c.codec with ⟨octets, codec⟩ | ⟨fault, codec⟩ <;> rfl

theorem move_recorded (target : ConnectionState) :
    withState plain (move registries.recorded target c) = move registries target c.plain := by
  unfold move StateRegistries.transition
  rw [StateRegistries.active_recorded, StateRegistries.active_recorded]
  by_cases allowed : c.state.canMoveTo target
  · have allowed' : c.plain.state.canMoveTo target := allowed
    rw [if_pos allowed, if_pos allowed']
    rfl
  · have allowed' : ¬ c.plain.state.canMoveTo target := allowed
    rw [if_neg allowed, if_neg allowed']
    rfl

theorem perform_recorded (action : Action) :
    withState plain (perform z registries.recorded action c) =
      perform z registries action c.plain := by
  cases action with
  | send packet =>
    unfold perform
    dsimp only
    rw [← feed_plain]
    rcases feed z packet c with ⟨_, d⟩ | ⟨fault, d⟩ <;> rfl
  | transition target =>
    unfold perform
    dsimp only
    rw [← move_recorded]
    rcases move registries.recorded target c with ⟨_, d⟩ | ⟨fault, d⟩ <;> rfl
  | enableCompression threshold level => rfl
  | enableEncryption secret => rfl
  | disconnect => rfl

theorem performAll_recorded (batch : List Action) :
    withState plain (performAll z registries.recorded batch c) =
      performAll z registries batch c.plain := by
  induction batch generalizing c with
  | nil => rfl
  | cons action rest ih =>
    rw [performAll, performAll, ← perform_recorded]
    rcases perform z registries.recorded action c with ⟨_ | _, d⟩ | ⟨fault, d⟩
    · rfl
    · exact ih d
    · rfl

theorem carryOut_recorded :
    withState plain (carryOut z registries.recorded c) = carryOut z registries c.plain := by
  fun_induction carryOut z registries.recorded c with
  | case1 c pending d performed ih =>
    have batch := @performAll_recorded α registries z c.takeBatch.2 c.takeBatch.1
    rw [performed] at batch
    rw [@carryOut_of_pending α z registries c.plain pending, show performAll z registries
      c.plain.takeBatch.1 c.plain.takeBatch.2 = .ok true d.plain from batch.symm]
    exact ih
  | case2 c pending d performed =>
    have batch := @performAll_recorded α registries z c.takeBatch.2 c.takeBatch.1
    rw [performed] at batch
    rw [@carryOut_of_pending α z registries c.plain pending, show performAll z registries
      c.plain.takeBatch.1 c.plain.takeBatch.2 = .ok false d.plain from batch.symm]
    rfl
  | case3 c pending fault d performed =>
    have batch := @performAll_recorded α registries z c.takeBatch.2 c.takeBatch.1
    rw [performed] at batch
    rw [@carryOut_of_pending α z registries c.plain pending, show performAll z registries
      c.plain.takeBatch.1 c.plain.takeBatch.2 = .error fault d.plain from batch.symm]
    rfl
  | case4 c idle =>
    rw [@carryOut_of_idle α z registries c.plain idle]
    rfl

theorem dispatch_recorded (payload : Bytes) :
    withState plain (dispatch registries.recorded payload c) =
      dispatch registries payload c.plain := by
  have dispatched := @Registry.dispatch_recorded α c.state (registries.active c.state) payload
    c.session
  unfold dispatch active
  rw [StateRegistries.active_recorded]
  rcases outcome : ((registries.active c.state).recorded c.state).dispatch payload c.session with
    ⟨given, session⟩ | ⟨fault, session⟩
  · rw [outcome] at dispatched
    rw [show (registries.active c.plain.state).dispatch payload c.plain.session =
      .ok given session.plain from dispatched.symm]
    rfl
  · rw [outcome] at dispatched
    rw [show (registries.active c.plain.state).dispatch payload c.plain.session =
      .error fault session.plain from dispatched.symm]
    rfl

theorem answer_recorded (payload : Bytes) :
    withState plain (answer z registries.recorded payload c) =
      answer z registries payload c.plain := by
  have dispatched := @dispatch_recorded α registries (c.count Metrics.received) payload
  unfold answer
  rcases outcome : dispatch registries.recorded payload (c.count Metrics.received) with
    ⟨given, d⟩ | ⟨fault, d⟩
  · rw [outcome] at dispatched
    rw [show dispatch registries payload (c.plain.count Metrics.received) = .ok given d.plain from
      dispatched.symm]
    dsimp only
    rw [← carryOut_recorded]
    rcases carryOut z registries.recorded d with ⟨goesOn, e⟩ | ⟨fault, e⟩ <;> rfl
  · rw [outcome] at dispatched
    rw [show dispatch registries payload (c.plain.count Metrics.received) = .error fault d.plain from
      dispatched.symm]
    rfl

theorem drain_recorded (buffer : Bytes) :
    withState plain (drain z registries.recorded buffer c) =
      drain z registries buffer c.plain := by
  fun_induction drain z registries.recorded buffer c with
  | case1 buffer c fault inlet failed =>
    exact (@drain_of_error α z registries c.plain buffer inlet fault failed).symm
  | case2 buffer c inlet idle =>
    exact (@drain_of_none α z registries c.plain buffer inlet idle).symm
  | case3 buffer c payload inlet decoded d answered ih =>
    have given := @answer_recorded α registries z { c with codec := inlet.codec } payload
    rw [answered] at given
    rw [@drain_of_some α z registries c.plain buffer payload inlet decoded,
      show answer z registries payload { c.plain with codec := inlet.codec } = .ok true d.plain from
        given.symm]
    exact ih
  | case4 buffer c payload inlet decoded d answered =>
    have given := @answer_recorded α registries z { c with codec := inlet.codec } payload
    rw [answered] at given
    rw [@drain_of_some α z registries c.plain buffer payload inlet decoded,
      show answer z registries payload { c.plain with codec := inlet.codec } = .ok false d.plain from
        given.symm]
    rfl
  | case5 buffer c payload inlet decoded fault d answered =>
    have given := @answer_recorded α registries z { c with codec := inlet.codec } payload
    rw [answered] at given
    rw [@drain_of_some α z registries c.plain buffer payload inlet decoded,
      show answer z registries payload { c.plain with codec := inlet.codec } =
        .error fault d.plain from given.symm]
    rfl

theorem push_plain (packet : Bytes) : withState plain (push z packet c) = push z packet c.plain := by
  unfold push
  rw [← feed_plain]
  rcases feed z packet c with ⟨_, d⟩ | ⟨fault, d⟩ <;> rfl

theorem caught_recorded (fault : Fault) :
    (caught registries.recorded fault c).plain = caught registries fault c.plain := by
  unfold caught active
  rw [StateRegistries.active_recorded]
  dsimp only
  split <;> rfl

theorem leave_recorded : (leave registries.recorded c).plain = leave registries c.plain := by
  unfold leave active
  rw [StateRegistries.active_recorded]
  rfl

/-- A dispatch puts at most the call of one handler on record: of the active registry's, with the
session as it is. -/
theorem calls_dispatch_recorded (payload : Bytes) :
    (stateOf (dispatch registries.recorded payload c)).state = c.state ∧
    ((stateOf (dispatch registries.recorded payload c)).session.app.2 = c.session.app.2 ∨
      ∃ packet, (stateOf (dispatch registries.recorded payload c)).session.app.2 =
        c.session.app.2 ++ [⟨c.state, .packet packet, c.session.plain⟩]) := by
  have served := @Registry.calls_dispatch_recorded α c.state (registries.active c.state)
    payload c.session
  rw [dispatch, active, StateRegistries.active_recorded]
  rcases outcome : ((registries.active c.state).recorded c.state).dispatch payload c.session with
    ⟨given, session⟩ | ⟨fault, session⟩ <;> rw [outcome] at served <;> exact ⟨rfl, served⟩

end Conversation

/-! ## Connections without the record -/

namespace Connection

/-- The connection without the record. -/
def plain (c : Connection (Recorded α)) : Connection α :=
  { c with conversation := c.conversation.plain }

variable (z : Zlib.Library) (c : Connection (Recorded α))

theorem close_recorded (result : Except Fault Unit) (conversation : Conversation (Recorded α)) :
    (c.close registries.recorded result conversation).plain =
      c.plain.close registries result conversation.plain := by
  cases result with
  | ok done =>
    unfold close plain
    dsimp only
    rw [Conversation.leave_recorded]
  | error fault =>
    unfold close plain
    dsimp only
    rw [Conversation.leave_recorded, Conversation.caught_recorded]
    rfl

theorem drain_recorded : (c.drain registries.recorded z).plain = c.plain.drain registries z := by
  have drained := @Conversation.drain_recorded α registries z c.conversation c.buffer
  unfold drain
  rcases outcome : c.conversation.drain z registries.recorded c.buffer with
    ⟨_ | buffer, d⟩ | ⟨fault, d⟩
  · rw [outcome] at drained
    rw [show c.plain.conversation.drain z registries c.plain.buffer = .ok none d.plain from
      drained.symm]
    exact close_recorded c (.ok ()) d
  · rw [outcome] at drained
    rw [show c.plain.conversation.drain z registries c.plain.buffer = .ok (some buffer) d.plain from
      drained.symm]
    rfl
  · rw [outcome] at drained
    rw [show c.plain.conversation.drain z registries c.plain.buffer = .error fault d.plain from
      drained.symm]
    exact close_recorded c (.error fault) d

theorem receive_recorded (octets : Bytes) :
    (c.receive registries.recorded z octets).plain = c.plain.receive registries z octets := by
  obtain ⟨conversation, readTimeout, phase, buffer, mailbox, silence, notes⟩ := c
  cases octets with
  | nil => cases phase <;> rfl
  | cons first rest =>
    cases phase with
    | opening =>
      by_cases old : first = LegacyPing.opening
      · simp only [receive, if_pos old, plain]
        exact close_recorded _ _ _
      · simp only [receive, if_neg old, plain]
        exact drain_recorded _ _
    | serving => exact drain_recorded _ _
    | closed result => rfl

theorem finish_recorded : (c.finish registries.recorded).plain = c.plain.finish registries := by
  obtain ⟨conversation, readTimeout, phase, buffer, mailbox, silence, notes⟩ := c
  cases phase with
  | opening => exact close_recorded _ _ _
  | serving =>
    cases buffer with
    | nil =>
      exact close_recorded ⟨conversation, readTimeout, .serving, [], mailbox, silence, notes⟩ (.ok ())
        conversation
    | cons b rest =>
      exact close_recorded ⟨conversation, readTimeout, .serving, b :: rest, mailbox, silence, notes⟩
        (.error (.stream .cutFrame)) (conversation.count Metrics.received)
  | closed result => rfl

theorem elapse_recorded (time : Duration) :
    (c.elapse registries.recorded time).plain = c.plain.elapse registries time := by
  unfold elapse
  by_cases closed : c.isClosed
  · have closed' : c.plain.isClosed := closed
    rw [if_pos closed, if_pos closed']
  · have closed' : ¬ c.plain.isClosed := closed
    rw [if_neg closed, if_neg closed']
    by_cases late : c.readTimeout.nanos ≤ c.silence.nanos + time.nanos
    · have late' : c.plain.readTimeout.nanos ≤ c.plain.silence.nanos + time.nanos := late
      simp only [if_pos late, if_pos late']
      exact close_recorded { c with silence := ⟨c.silence.nanos + time.nanos⟩ } _ _
    · have late' : ¬ c.plain.readTimeout.nanos ≤ c.plain.silence.nanos + time.nanos := late
      simp only [if_neg late, if_neg late']
      rfl

theorem deliverMessage_recorded (message : Message) :
    (c.deliverMessage registries.recorded z message).plain =
      c.plain.deliverMessage registries z message := by
  cases message with
  | packet packet =>
    have pushed := Conversation.push_plain z c.conversation packet
    unfold deliverMessage
    dsimp only
    rcases outcome : c.conversation.push z packet with ⟨_, d⟩ | ⟨fault, d⟩
    · rw [outcome] at pushed
      rw [show c.plain.conversation.push z packet = .ok () d.plain from pushed.symm]
      rfl
    · rw [outcome] at pushed
      rw [show c.plain.conversation.push z packet = .error fault d.plain from pushed.symm]
      exact close_recorded c (.error fault) d
  | disconnect => exact close_recorded c (.ok ()) c.conversation.flush

theorem deliverAll_recorded (messages : List Message) :
    (deliverAll registries.recorded z messages c).plain =
      deliverAll registries z messages c.plain := by
  induction messages generalizing c with
  | nil => rfl
  | cons message rest ih =>
    have sent := @deliverMessage_recorded α registries z c message
    obtain ⟨conversation, readTimeout, phase, buffer, mailbox, silence, notes⟩ := c
    cases phase with
    | opening => rfl
    | closed result => rfl
    | serving =>
      simp only [deliverAll, plain] at sent ⊢
      rw [← sent]
      exact ih _

theorem deliver_recorded : (c.deliver registries.recorded z).plain = c.plain.deliver registries z := by
  obtain ⟨conversation, readTimeout, phase, buffer, mailbox, silence, notes⟩ := c
  cases phase with
  | opening => rfl
  | closed result => rfl
  | serving => exact deliverAll_recorded _ _ _

theorem post_plain (message : Message) :
    ((c.post message).toOption.getD c).plain = (c.plain.post message).toOption.getD c.plain := by
  unfold post
  by_cases refused : (c.isClosed || mailboxSize ≤ c.mailbox.length) = true
  · rw [if_pos refused, if_pos (by exact refused)]
    rfl
  · rw [if_neg refused, if_neg (by exact refused)]
    rfl

theorem step_recorded (event : Event) :
    (c.step registries.recorded z event).plain = c.plain.step registries z event := by
  cases event with
  | received octets => exact receive_recorded z c octets
  | finished => exact finish_recorded c
  | elapsed time => exact elapse_recorded c time
  | posted message => exact post_plain c message
  | delivered => exact deliver_recorded z c

/-- **Recording leaves a connection alone**: without the record, it is the connection over the
registries themselves. -/
theorem run_recorded (events : List Event) :
    (c.run registries.recorded z events).plain = c.plain.run registries z events := by
  unfold run
  induction events generalizing c with
  | nil => rfl
  | cons event rest ih =>
    rw [List.foldl_cons, List.foldl_cons, ih, step_recorded]

theorem start_recorded (session : Session α) :
    (start registries.recorded (session.withRecord [])).plain = start registries session := by
  unfold start
  exact elapse_recorded _ _

/-- The calls of handlers and hooks in a course of events, from the first on. -/
def calls (registries : StateRegistries (Session α)) (z : Zlib.Library) (session : Session α)
    (events : List Event) : List (Call α) :=
  ((start registries.recorded (session.withRecord [])).run registries.recorded z events).session.app.2

end Connection

end GameTransport
