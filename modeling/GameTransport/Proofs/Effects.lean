import GameTransport.Proofs.Callbacks
import GameTransport.Proofs.SeenStates
import GameTransport.Proofs.Tasks

/-! # What a move does to the gauges

Of the shared counters four are gauges: who plays, which connections are served, how many have begun,
and how many have ended by a fault that is not the transport's.  If callbacks count who plays and
nothing else (`StateRegistries.Metered`), a move either leaves the gauges alone or changes one as the
task's own standing changes; only the opening changes two (`Task.effect_step`).

Handlers and hooks of the default registries are such callbacks (`Handlers.metered_registries`).
-/

namespace GameTransport

/-! ## The innermost cause of a fault -/

namespace Fault

/-- The cause of a fault, below any number of handlers. -/
def innermost : Fault → Fault
  | handler _ cause => cause.innermost
  | fault => fault

/-- Whether the stream or a silence is to blame in the end. -/
def isChurn (fault : Fault) : Bool :=
  match fault.innermost with
  | stream _ | timeout _ => true
  | _ => false

theorem isTransport_eq (fault : Fault) : fault.isTransport = fault.isChurn := by
  induction fault with
  | handler packet cause ih => exact ih
  | _ => rfl

end Fault

/-! ## What the default callbacks do to the counters -/

namespace Handlers

variable {α : Type}

theorem server_finishLogin (session : Session α) : (finishLogin session).server = session.server := by
  obtain ⟨id, peer, state, ⟨config, key, metrics⟩, version, username, uuid, token, actions, entropy,
    app⟩ := session
  simp only [finishLogin, announceCompression, playerUuid]
  cases config.compressionThreshold <;> cases uuid <;> rfl

theorem server_loginStart (packet : LoginStart) (session : Session α) :
    (stateOf (loginStart packet session)).server = session.server := by
  rcases loginStart_cases packet session with ⟨fault, -, refused⟩ | ⟨-, -, done⟩
  · rw [refused]
    rfl
  · rw [done]
    cases session.server.key with
    | none => exact server_finishLogin _
    | some key => rfl

theorem server_encryptionResponse (packet : EncryptionResponse) (session : Session α) :
    (stateOf (encryptionResponse packet session)).server = session.server := by
  rcases encryptionResponse_cases packet session with
    ⟨fault, -, refused⟩ | ⟨_, _, secret, -, -, -, done⟩
  · rw [refused]
    rfl
  · rw [done]
    exact server_finishLogin _

/-- The default handlers count nothing. -/
theorem server_dispatch (state : ConnectionState) (payload : Bytes) (session : Session α) :
    (stateOf ((registries.active state).dispatch payload session)).server = session.server := by
  let P (after : Session α) : Prop := after.server = session.server
  have same : P session := rfl
  refine Registry.stateOf_dispatch same (fun id entry handler known takes packet => ?_) payload
  cases state with
  | handshaking =>
    cases eq_of_entry?_handshaking known
    cases takes
    rfl
  | status => rcases eq_of_entry?_status known with rfl | rfl <;> cases takes <;> rfl
  | login =>
    rcases eq_of_entry?_login known with rfl | rfl <;> cases takes
    · exact server_loginStart packet session
    · exact server_encryptionResponse packet session
  | play =>
    cases eq_of_entry?_play known
    cases takes
    rfl

end Handlers

/-- The callbacks count who plays, and nothing else. -/
structure StateRegistries.Metered {α : Type} (registries : StateRegistries (Session α)) : Prop where
  attach : ∀ state session, ((registries.active state).attach session).server.metrics =
    if state = .play then session.server.metrics.joined else session.server.metrics
  detach : ∀ state session, ((registries.active state).detach session).server.metrics =
    if state = .play then session.server.metrics.left else session.server.metrics
  caught : ∀ state fault session, ((registries.active state).caught fault session).server.metrics =
    session.server.metrics
  dispatch : ∀ state payload session,
    (stateOf ((registries.active state).dispatch payload session)).server.metrics =
      session.server.metrics

namespace Handlers

variable {α : Type}

theorem metered_registries : (registries : StateRegistries (Session α)).Metered where
  attach state session := by cases state <;> rfl
  detach state session := by cases state <;> rfl
  caught state fault session := by cases state <;> rfl
  dispatch state payload session :=
    congrArg ServerContext.metrics (server_dispatch state payload session)

end Handlers

theorem StateRegistries.Metered.heard {α : Type} {registries : StateRegistries (Session α)}
    (metered : registries.Metered) {state : ConnectionState} {payload : Bytes} {session : Session α}
    {result : EStateM.Result Fault (Session α) Dispatched}
    (served : (registries.active state).dispatch payload session = result) :
    (stateOf result).server.metrics = session.server.metrics := by
  rw [← served]
  exact metered.dispatch state payload session

/-- On record they count the same. -/
theorem StateRegistries.Metered.recorded {α : Type} {registries : StateRegistries (Session α)}
    (metered : registries.Metered) : registries.recorded.Metered where
  attach state session := by
    rw [active_recorded]
    exact metered.attach state session.plain
  detach state session := by
    rw [active_recorded]
    exact metered.detach state session.plain
  caught state fault session := by
    rw [active_recorded]
    exact metered.caught state fault session.plain
  dispatch state payload session := by
    have same := congrArg stateOf
      (@Registry.dispatch_recorded α state (registries.active state) payload session)
    rw [stateOf_withState] at same
    rw [active_recorded]
    exact (congrArg (·.server.metrics) same).trans (metered.dispatch state payload session.plain)

/-- No transition leaves PLAY. -/
theorem ConnectionState.ne_play_of_canMoveTo {source target : ConnectionState}
    (allowed : source.canMoveTo target) : source ≠ .play := by
  rintro rfl
  cases target <;> cases allowed

/-! ## The standing of a task -/

namespace Moment

/-- The work has begun. -/
def hasStarted : Moment → Bool
  | accepted => false
  | _ => true

/-- The work has begun and is not over. -/
def isRunning : Moment → Bool
  | accepted | ended _ => false
  | _ => true

/-- No registry has been attached. -/
def isEarly : Moment → Bool
  | accepted | entering => true
  | _ => false

/-- The last registry has been detached. -/
def isGone : Moment → Bool
  | left _ | ended _ => true
  | _ => false

/-- The work has ended by a fault that is not the transport's. -/
def hasErred : Moment → Bool
  | leaving (.error fault) | left (.error fault) | ended (.error fault) => !fault.isChurn
  | _ => false

end Moment

/-- Where a task stands, as far as the gauges are concerned. -/
structure Standing where
  started : Bool
  running : Bool
  playing : Bool
  erred : Bool

namespace Task

variable {α : Type} {registries : StateRegistries (Session α)} {z : Zlib.Library} {t t' : Task α}
  {deed? : Option Deed}

def standing (t : Task α) : Standing where
  started := t.moment.hasStarted
  running := t.moment.isRunning
  playing := t.conversation.state = .play && !t.moment.isGone
  erred := t.moment.hasErred

def metrics (t : Task α) : Metrics := t.conversation.metrics

/-- What a move does to the gauges and to the standing of the task that makes it. -/
inductive Effect : Metrics → Standing → Metrics → Standing → Prop where
  | none {m m' : Metrics} {standing standing' : Standing}
      (players : m'.playersOnline = m.playersOnline)
      (active : m'.connectionsActive = m.connectionsActive)
      (total : m'.connectionsTotal = m.connectionsTotal)
      (errors : m'.protocolErrors = m.protocolErrors) (stays : standing' = standing) :
      Effect m standing m' standing'
  | opened {m : Metrics} {playing erred : Bool} :
      Effect m ⟨false, false, playing, erred⟩ m.opened ⟨true, true, playing, erred⟩
  | joined {m : Metrics} {started running erred : Bool} :
      Effect m ⟨started, running, false, erred⟩ m.joined ⟨started, running, true, erred⟩
  | left {m : Metrics} {started running erred : Bool} :
      Effect m ⟨started, running, true, erred⟩ m.left ⟨started, running, false, erred⟩
  | failed {m : Metrics} {started running playing : Bool} :
      Effect m ⟨started, running, playing, false⟩ m.failed ⟨started, running, playing, true⟩
  | closed {m : Metrics} {started playing erred : Bool} :
      Effect m ⟨started, true, playing, erred⟩ m.closed ⟨started, false, playing, erred⟩

/-- Nothing changes. -/
theorem Effect.same {m m' : Metrics} {standing standing' : Standing} (metrics : m' = m)
    (stays : standing' = standing) : Effect m standing m' standing' := by
  subst metrics
  exact .none rfl rfl rfl rfl stays

/-- Only a packet is counted. -/
theorem Effect.sent {m m' : Metrics} {standing standing' : Standing} (metrics : m' = m)
    (stays : standing' = standing) : Effect m standing m'.sent standing' := by
  subst metrics
  exact .none rfl rfl rfl rfl stays

/-- The standing depends on the state and the moment. -/
theorem standing_congr {c d : Connection α} {moment moment' : Moment}
    (state : d.conversation.state = c.conversation.state)
    (started : moment'.hasStarted = moment.hasStarted)
    (running : moment'.isRunning = moment.isRunning) (gone : moment'.isGone = moment.isGone)
    (erred : moment'.hasErred = moment.hasErred) :
    standing ⟨d, moment'⟩ = standing ⟨c, moment⟩ := by
  rw [standing, standing, conversation_mk, conversation_mk, state, started, running, gone, erred]

/-- A transition counts the player if it leads to PLAY. -/
theorem metrics_moved (metered : registries.Metered) {c : Conversation α} {target : ConnectionState}
    (allowed : c.state.canMoveTo target) :
    (c.moved registries target).metrics = if target = .play then c.metrics.joined else c.metrics := by
  have away := metered.detach c.state ((registries.active target).attach c.session)
  rw [if_neg (ConnectionState.ne_play_of_canMoveTo allowed)] at away
  exact away.trans (metered.attach target c.session)

/-- A transition leads away from a state without players, and if it leads to PLAY one more plays. -/
theorem effect_moved (metered : registries.Metered) {c : Connection α} {target : ConnectionState}
    {rest : List Action} (allowed : c.conversation.state.canMoveTo target) :
    Effect c.conversation.metrics (standing ⟨c, .acting (.transition target :: rest)⟩)
      (c.conversation.moved registries target).metrics
      (standing ⟨{ c with conversation := c.conversation.moved registries target },
        .acting rest⟩) := by
  have counted := metrics_moved metered allowed
  have away : standing ⟨c, .acting (.transition target :: rest)⟩ = ⟨true, true, false, false⟩ := by
    have leaves := ConnectionState.ne_play_of_canMoveTo allowed
    rw [standing, conversation_mk, decide_eq_false leaves]
    rfl
  rw [away]
  by_cases joins : target = .play
  · subst joins
    rw [if_pos rfl] at counted
    rw [counted]
    exact .joined
  · rw [if_neg joins] at counted
    refine .same counted ?_
    simp [standing, Conversation.moved, joins, Moment.hasStarted, Moment.isRunning, Moment.hasErred]

/-- A fault is counted unless the transport is to blame. -/
theorem effect_caught (metered : registries.Metered) (c : Connection α) (fault : Fault)
    (notes : List Note) :
    let told := (c.conversation.active registries).caught fault c.conversation.session
    let session := if fault.isTransport then told else told.count Metrics.failed
    Effect c.conversation.metrics (standing ⟨c, .ending (.error fault)⟩) session.server.metrics
      (standing ⟨{ c with conversation := { c.conversation with session }, notes },
        .leaving (.error fault)⟩) := by
  intro told session
  have same : told.server.metrics = c.conversation.metrics :=
    metered.caught c.conversation.state fault c.conversation.session
  have erred : Moment.hasErred (.leaving (.error fault)) = !fault.isTransport := by
    rw [Fault.isTransport_eq]
    rfl
  by_cases transport : fault.isTransport
  · have kept : session = told := if_pos transport
    rw [transport] at erred
    exact .same (kept ▸ same) (standing_congr rfl rfl rfl rfl erred)
  · have failed : session.server.metrics = c.conversation.metrics.failed := by
      rw [show session = told.count Metrics.failed from if_neg transport, ← same]
      rfl
    rw [Bool.eq_false_of_not_eq_true transport] at erred
    rw [failed, standing, standing, erred]
    exact .failed

/-- When the last registry is detached, whoever played does so no more. -/
theorem effect_detached (metered : registries.Metered) (c : Connection α)
    (result : Except Fault Unit) :
    let session := (c.conversation.active registries).detach c.conversation.session
    Effect c.conversation.metrics (standing ⟨c, .leaving result⟩) session.server.metrics
      (standing ⟨{ c with conversation := { c.conversation with session } }, .left result⟩) := by
  intro session
  have counted : session.server.metrics = _ :=
    metered.detach c.conversation.state c.conversation.session
  have erred : Moment.hasErred (.left result) = Moment.hasErred (.leaving result) := by
    cases result <;> rfl
  by_cases plays : c.conversation.state = .play
  · rw [if_pos plays] at counted
    rw [counted, standing, standing, erred]
    simp only [conversation_mk, plays]
    exact .left
  · rw [if_neg plays] at counted
    refine .same counted ?_
    rw [standing, standing, erred]
    simp [plays, Moment.hasStarted, Moment.isRunning]

/-- **A move changes the gauges as it changes the standing of the task that makes it.** -/
theorem effect_step (metered : registries.Metered) (step : Step registries z t deed? t')
    (early : t.moment.isEarly → t.conversation.state = .handshaking) :
    Effect t.metrics t.standing t'.metrics t'.standing := by
  cases step
  case idle | accepted | elapsed | replied | read | finished | lost | looked | batch | flushed |
      switched | disconnected | denied | taken | called_off | closed | settled => exact .same rfl rfl
  case opened => exact .opened
  -- A packet is counted.
  case spoiled | decoded | confirmed => exact .none rfl rfl rfl rfl rfl
  case sent c d packet rest fed =>
    obtain ⟨state, session⟩ := Conversation.kept_of_feed_ok fed
    exact .sent (congrArg (·.server.metrics) session) (standing_congr state rfl rfl rfl rfl)
  case pushed c d packet fresh fed =>
    obtain ⟨state, session⟩ := Conversation.kept_of_feed_ok fed
    exact .same (congrArg (·.server.metrics) session) (standing_congr state rfl rfl rfl rfl)
  case unsent c d packet rest fault fed =>
    obtain ⟨state, session⟩ := Conversation.kept_of_feed_error fed
    exact .same (congrArg (·.server.metrics) session) (standing_congr state rfl rfl rfl rfl)
  case unpushed c d packet fresh fault fed =>
    obtain ⟨state, session⟩ := Conversation.kept_of_feed_error fed
    exact .same (congrArg (·.server.metrics) session) (standing_congr state rfl rfl rfl rfl)
  case broken c moment count cause writes =>
    refine .same rfl ?_
    cases moment <;> first | rfl | cases writes
  -- A callback is called.
  case entered c session attached =>
    subst attached
    have first : c.conversation.state ≠ .play := by
      rw [show c.conversation.state = .handshaking from early rfl]
      exact nofun
    exact .same ((metered.attach _ _).trans (if_neg first)) rfl
  case heard c session payload outcome served => exact .same (metered.heard served) rfl
  case refused c session payload fault served => exact .same (metered.heard served) rfl
  case moved c target rest allowed => exact effect_moved metered allowed
  case caught c session fault notes told =>
    subst told
    exact effect_caught metered c fault notes
  case detached c session result detached =>
    subst detached
    exact effect_detached metered c result
  case ended c result =>
    have erred : Moment.hasErred (.ended result) = Moment.hasErred (.left result) := by
      cases result <;> rfl
    rw [standing, standing, erred]
    exact .closed

end Task

end GameTransport
