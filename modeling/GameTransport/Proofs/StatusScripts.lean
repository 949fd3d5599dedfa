import GameTransport.Proofs.Among

/-! # What a client sends that asks for the status

A client greets, asks for the status any number of times and pings; other octets may stand behind the
ping.  A task is followed through such a script from moment to moment.  `StatusScript.Owes` says which
actions stand between what is on the wire and what ought to be there, and `StatusScript.Stage` how much
of the script has been heard.  Every move that has to do with the client alone keeps to the script
(`StatusScript.Stage.step`), whatever the reads are and whatever the other connections do.
-/

namespace GameTransport

/-! ## The script of a client -/

/-- What a client sends that asks for the status.  A frame may spell its packet in any way that is
read. -/
structure StatusScript where
  hello : Bytes
  greeting : Handshake
  greets : Frame.Carries hello greeting
  toStatus : greeting.nextState = .status
  modern : hello.head? ≠ some LegacyPing.opening
  requests : List Bytes
  asks : ∀ frame ∈ requests, Frame.Carries frame StatusRequest.mk
  ping : Bytes
  payload : Int64
  pings : Frame.Carries ping (PingRequest.mk payload)

namespace StatusScript

/-- The frames in their order. -/
def frames (script : StatusScript) : List Bytes := script.hello :: script.requests ++ [script.ping]

def octets (script : StatusScript) : Bytes := script.frames.flatten

variable (z : Zlib.Library)

/-- The octets of an answer to a request. -/
def answer (status : ServerStatus) : Bytes :=
  Codec.octets z (Packet.encode (StatusResponse.mk status.toJson)) {}

/-- The octets of the answer to the ping. -/
def echo (script : StatusScript) : Bytes :=
  Codec.octets z (Packet.encode (PongResponse.mk script.payload)) {}

variable {z} {script : StatusScript} {heard left : List Bytes} {frame : Bytes}

/-- What a frame is, by its place in the script. -/
inductive Role (script : StatusScript) : List Bytes → Bytes → List Bytes → Prop where
  | greeting : Role script [] script.hello (script.requests ++ [script.ping])
  | request {frame : Bytes} {earlier later : List Bytes}
    (all : script.requests = earlier ++ frame :: later) :
    Role script (script.hello :: earlier) frame (later ++ [script.ping])
  | ping : Role script (script.hello :: script.requests) script.ping []

theorem role_of_frames (all : script.frames = heard ++ frame :: left) :
    script.Role heard frame left := by
  rcases heard with _ | ⟨hello, earlier⟩
  · obtain ⟨rfl, rfl⟩ := List.cons.inj all
    exact .greeting
  · obtain ⟨rfl, rest⟩ := List.cons.inj all
    rcases List.eq_nil_or_concat left with rfl | ⟨later, ping, rfl⟩
    · obtain ⟨rfl, same⟩ := List.append_inj' rest rfl
      cases same
      exact .ping
    · rw [List.concat_eq_append] at rest ⊢
      have rest : script.requests ++ [script.ping] = (earlier ++ frame :: later) ++ [ping] := by
        rw [List.append_assoc]
        exact rest
      obtain ⟨requests, same⟩ := List.append_inj' rest rfl
      cases same
      exact .request requests

/-- The first octet that arrives is the first of the greeting. -/
theorem head?_hello_of_prefix (script : StatusScript) {first : UInt8} {rest trailing : Bytes}
    (within : first :: rest <+: script.octets ++ trailing) : script.hello.head? = some first := by
  rcases hello : script.hello with _ | ⟨opening, behind⟩
  · exact absurd hello script.greets.ne_nil
  · rw [octets, frames, hello] at within
    obtain ⟨same, -⟩ := List.cons_prefix_cons.mp within
    rw [same]
    rfl

/-- Every frame of the script is split off as a whole. -/
theorem Role.exists_payload (role : script.Role heard frame left) :
    ∃ payload, Frame.split? frame = .ok (some (payload, [])) := by
  cases role with
  | greeting =>
    obtain ⟨payload, split, -⟩ := script.greets
    exact ⟨payload, split⟩
  | request all =>
    obtain ⟨payload, split, -⟩ := script.asks frame (by rw [all]; simp)
    exact ⟨payload, split⟩
  | ping =>
    obtain ⟨payload, split, -⟩ := script.pings
    exact ⟨payload, split⟩

/-! ## What is owed -/

/-- The state in which the frame behind these is heard. -/
def stateAfter : List Bytes → ConnectionState
  | [] => .handshaking
  | _ :: _ => .status

/-- Frames have been heard, and what they called for is on the wire but for these actions. -/
inductive Owes (z : Zlib.Library) (script : StatusScript) :
    List Bytes → ConnectionState → Bytes → List ServerStatus → List Action → Prop where
  | nothing {heard left : List Bytes} {frame : Bytes} {statuses : List ServerStatus}
    (all : script.frames = heard ++ frame :: left) (each : statuses.length = heard.length - 1) :
    Owes z script heard (stateAfter heard) (statuses.flatMap (answer z)) statuses []
  | move : Owes z script [script.hello] .handshaking [] [] [.transition .status]
  | response {heard left : List Bytes} {frame : Bytes} {statuses : List ServerStatus}
    {status : ServerStatus} (all : script.frames = script.hello :: heard ++ frame :: left)
    (each : (statuses ++ [status]).length = heard.length)
    (short : status.toJson.length ≤ StatusResponse.maxJson) :
    Owes z script (script.hello :: heard) .status (statuses.flatMap (answer z))
      (statuses ++ [status]) [.send (Packet.encode (StatusResponse.mk status.toJson))]
  | pong {statuses : List ServerStatus} (each : statuses.length = script.requests.length) :
    Owes z script script.frames .status (statuses.flatMap (answer z)) statuses
      [.send (Packet.encode (PongResponse.mk script.payload)), .disconnect]
  | parting {statuses : List ServerStatus} (each : statuses.length = script.requests.length) :
    Owes z script script.frames .status (statuses.flatMap (answer z) ++ script.echo z) statuses
      [.disconnect]

/-- Where nothing is owed, a frame is still to come. -/
theorem Owes.settled {state : ConnectionState} {wire : Bytes} {statuses : List ServerStatus}
    (owes : script.Owes z heard state wire statuses []) :
    ∃ frame left, script.frames = heard ++ frame :: left ∧ statuses.length = heard.length - 1 ∧
      state = stateAfter heard ∧ wire = statuses.flatMap (answer z) := by
  cases owes with
  | nothing all each => exact ⟨_, _, all, each, rfl, rfl⟩

variable {α : Type} {c : Connection α} {server : ServerContext} {statuses : List ServerStatus}
  {read trailing : Bytes}

/-- The layers are off, nobody has posted anything, and the server is this one. -/
structure Steady (server : ServerContext) (phase : Phase) (c : Connection α) : Prop where
  phase : c.phase = phase
  codec : c.conversation.codec = {}
  config : c.conversation.session.server.config = server.config
  mailbox : c.mailbox = []

/-- Where a task is with the script, what it has read so far and which statuses it was asked for. -/
inductive Stage (z : Zlib.Library) (script : StatusScript) (server : ServerContext) :
    Task α → Bytes → List ServerStatus → Prop where
  /-- Nothing has been read. -/
  | early {c : Connection α} {moment : Moment}
    (first : moment = .accepted ∨ moment = .entering ∨ moment = .waiting false)
    (steady : Steady server .opening c) (buffer : c.buffer = [])
    (state : c.conversation.state = .handshaking) (actions : c.conversation.session.actions = [])
    (written : c.conversation.written = []) (outgoing : c.conversation.outgoing = []) :
    Stage z script server ⟨c, moment⟩ [] []
  /-- Every frame that was looked at is answered. -/
  | waiting {c : Connection α} {fresh : Bool} {heard : List Bytes} {statuses : List ServerStatus}
    (steady : Steady server .serving c)
    (owes : script.Owes z heard c.conversation.state c.conversation.written statuses [])
    (actions : c.conversation.session.actions = []) (outgoing : c.conversation.outgoing = [])
    (looked : fresh = false → Frame.split? c.buffer = .ok none) :
    Stage z script server ⟨c, .waiting fresh⟩ (heard.flatten ++ c.buffer) statuses
  | hearing {c : Connection α} {payload : Bytes} {heard left : List Bytes} {frame : Bytes}
    {statuses : List ServerStatus} (steady : Steady server .serving c)
    (owes : script.Owes z heard c.conversation.state c.conversation.written statuses [])
    (actions : c.conversation.session.actions = []) (outgoing : c.conversation.outgoing = [])
    (all : script.frames = heard ++ frame :: left)
    (split : Frame.split? frame = .ok (some (payload, []))) :
    Stage z script server ⟨c, .hearing payload⟩ ((heard ++ [frame]).flatten ++ c.buffer) statuses
  /-- What is owed is in the batch or queued for the next. -/
  | acting {c : Connection α} {left : List Action} {heard : List Bytes}
    {statuses : List ServerStatus} (steady : Steady server .serving c)
    (owes : script.Owes z heard c.conversation.state (Task.onWire ⟨c, .acting left⟩) statuses
      (left ++ c.conversation.session.actions))
    (either : left = [] ∨ c.conversation.session.actions = []) :
    Stage z script server ⟨c, .acting left⟩ (heard.flatten ++ c.buffer) statuses
  /-- The last octets are on their way out. -/
  | closing {c : Connection α} {statuses : List ServerStatus}
    (each : statuses.length = script.requests.length)
    (wire : Task.onWire ⟨c, .closing⟩ = statuses.flatMap (answer z) ++ script.echo z) :
    Stage z script server ⟨c, .closing⟩ (script.octets ++ c.buffer) statuses
  /-- All is written. -/
  | finished {c : Connection α} {moment : Moment} {statuses : List ServerStatus}
    (ending : moment = .ending (.ok ()) ∨ moment = .leaving (.ok ()) ∨ moment = .left (.ok ()) ∨
      moment = .ended (.ok ()))
    (each : statuses.length = script.requests.length)
    (written : c.conversation.written = statuses.flatMap (answer z) ++ script.echo z)
    (outgoing : c.conversation.outgoing = []) :
    Stage z script server ⟨c, moment⟩ (script.octets ++ c.buffer) statuses

namespace Stage

variable {z : Zlib.Library} {t : Task α}

theorem start (script : StatusScript) (server : ServerContext) (id : ConnectionId)
    (peer : Option SocketAddress) (entropy : Entropy) (app : α) :
    script.Stage z server (Task.start { id, peer, server, entropy, app }) [] [] :=
  .early (.inl rfl) ⟨rfl, rfl, rfl, rfl⟩ rfl rfl rfl rfl rfl

/-- Neither the counters nor the time that passes make a difference. -/
theorem disturb {moment : Moment} (stage : script.Stage z server ⟨c, moment⟩ read statuses)
    (change : Metrics → Metrics) (silence : Duration) :
    script.Stage z server ⟨{ c with conversation := c.conversation.count change, silence }, moment⟩
      read statuses := by
  cases stage with
  | early first steady buffer state actions written outgoing =>
    exact .early first ⟨steady.phase, steady.codec, steady.config, steady.mailbox⟩ buffer state
      actions written outgoing
  | waiting steady owes actions outgoing looked =>
    exact .waiting ⟨steady.phase, steady.codec, steady.config, steady.mailbox⟩ owes actions outgoing
      looked
  | hearing steady owes actions outgoing all split =>
    exact .hearing ⟨steady.phase, steady.codec, steady.config, steady.mailbox⟩ owes actions outgoing
      all split
  | acting steady owes either =>
    exact .acting ⟨steady.phase, steady.codec, steady.config, steady.mailbox⟩ owes either
  | closing each wire => exact .closing each wire
  | finished ending each written outgoing => exact .finished ending each written outgoing

theorem lend (stage : script.Stage z server t read statuses) (metrics : Metrics) :
    script.Stage z server (t.lend metrics) read statuses :=
  disturb stage (fun _ => metrics) t.connection.silence

/-- Nobody has posted anything. -/
theorem mailbox_eq_nil {fresh : Bool}
    (stage : script.Stage z server ⟨c, .waiting fresh⟩ read statuses) : c.mailbox = [] := by
  cases stage with
  | early first steady buffer state actions written outgoing => exact steady.mailbox
  | waiting steady owes actions outgoing looked => exact steady.mailbox
  | finished ending each written outgoing =>
    rcases ending with same | same | same | same <;> cases same

end Stage

/-- The first action that is owed is carried out, unless it is the end. -/
theorem Owes.perform {z : Zlib.Library} {c : Conversation α} {action : Action} {rest : List Action}
    (plain : c.codec = {})
    (owes : script.Owes z heard c.state (c.written ++ c.outgoing) statuses (action :: rest)) :
    (∃ d, c.perform z Handlers.registries action = .ok true d ∧ d.codec = {} ∧
      d.session.server.config = c.session.server.config ∧ d.session.actions = c.session.actions ∧
      script.Owes z heard d.state (d.written ++ d.outgoing) statuses rest) ∨
    (action = .disconnect ∧ heard = script.frames ∧ statuses.length = script.requests.length ∧
      c.written ++ c.outgoing = statuses.flatMap (answer z) ++ script.echo z) := by
  generalize state : c.state = current at owes
  generalize wire : c.written ++ c.outgoing = octets at owes
  generalize due : action :: rest = actions at owes
  cases owes with
  | nothing all each => cases due
  | move =>
    cases due
    have allowed : c.state.canMoveTo .status := by rw [state]; rfl
    obtain ⟨frame, left, next⟩ : ∃ frame left, script.requests ++ [script.ping] = frame :: left :=
      List.exists_cons_of_ne_nil (by simp)
    have owes := @Owes.nothing z script [script.hello] left frame [] (by rw [← next]; rfl) rfl
    refine .inl ⟨c.moved Handlers.registries .status,
      Conversation.perform_transition_of_canMoveTo allowed, plain, ?_, ?_, ?_⟩
    · rw [Conversation.moved, state]
      rfl
    · rw [Conversation.moved, state]
      rfl
    · change script.Owes z _ .status (c.written ++ c.outgoing) _ _
      rw [wire]
      exact owes
  | response all each short =>
    cases due
    obtain ⟨d, performed, plain', state', session, wire'⟩ := @Conversation.exists_sent α _ _ z
      Handlers.registries _ c plain (StatusResponse.readsBack short)
      (StatusResponse.fits short)
    refine .inl ⟨d, performed, plain', by rw [session]; rfl, by rw [session]; rfl, ?_⟩
    have owes := @Owes.nothing z script _ _ _ _ all each
    rw [List.flatMap_append, List.flatMap_singleton] at owes
    rw [state', state, wire', wire]
    exact owes
  | pong each =>
    cases due
    obtain ⟨d, performed, plain', state', session, wire'⟩ := @Conversation.exists_sent α _ _ z
      Handlers.registries _ c plain (PongResponse.readsBack _) (PongResponse.fits _)
    refine .inl ⟨d, performed, plain', by rw [session]; rfl, by rw [session]; rfl, ?_⟩
    rw [state', state, wire', wire]
    exact .parting each
  | parting each =>
    cases due
    exact .inr ⟨rfl, rfl, each, rfl⟩

namespace Stage

variable {z : Zlib.Library} {t : Task α}

/-! ### The phases of the work -/

theorem look (steady : Steady server .serving c)
    (owes : script.Owes z heard c.conversation.state c.conversation.written statuses [])
    (actions : c.conversation.session.actions = []) (outgoing : c.conversation.outgoing = [])
    (within : heard.flatten ++ c.buffer <+: script.octets ++ trailing) :
    script.Stage z server (Task.look z ⟨c, .waiting true⟩).2 (heard.flatten ++ c.buffer)
      statuses := by
  obtain ⟨⟨session, state, codec, out, written⟩, readTimeout, phase, buffer, mailbox, silence,
    notes⟩ := c
  obtain ⟨serving, plain, config, empty⟩ := steady
  cases serving
  cases plain
  cases empty
  dsimp only at owes actions outgoing within ⊢
  obtain ⟨frame, left, all, -⟩ := owes.settled
  obtain ⟨payload, alone⟩ := (role_of_frames all).exists_payload
  have ahead : buffer <+: frame ++ (left.flatten ++ trailing) := by
    rw [octets, all] at within
    simpa [List.append_assoc] using within
  rw [Task.look, Task.conversation_mk]
  dsimp only
  by_cases part : ∃ missing, missing ≠ [] ∧ buffer ++ missing = frame
  · obtain ⟨missing, some, whole⟩ := part
    rw [Codec.decode_part alone whole some]
    exact .waiting ⟨rfl, rfl, config, rfl⟩ owes actions outgoing
      fun _ => Frame.split?_part (whole ▸ alone) some
  · obtain ⟨behind, rfl⟩ : frame <+: buffer := by
      rcases List.prefix_or_prefix_of_prefix ahead (List.prefix_append frame _) with
        ⟨missing, whole⟩ | whole
      · rcases missing with _ | ⟨first, missing⟩
        · exact ⟨[], by rw [← whole, List.append_nil, List.append_nil]⟩
        · exact absurd ⟨first :: missing, List.cons_ne_nil _ _, whole⟩ part
      · exact whole
    rw [Codec.decode_whole alone behind]
    have taken : heard.flatten ++ (frame ++ behind) = (heard ++ [frame]).flatten ++ behind := by
      simp [List.append_assoc]
    rw [taken]
    exact .hearing ⟨rfl, rfl, config, rfl⟩ owes actions outgoing all alone

theorem hear {metrics : Metrics} {payload : Bytes} (steady : Steady server .serving c)
    (owes : script.Owes z heard c.conversation.state c.conversation.written statuses [])
    (actions : c.conversation.session.actions = []) (outgoing : c.conversation.outgoing = [])
    (all : script.frames = heard ++ frame :: left)
    (split : Frame.split? frame = .ok (some (payload, [])))
    (found : c.conversation.metrics = metrics)
    (short : ∀ status ∈ Task.asked? server ⟨c, .hearing payload⟩ (metrics, .proceed),
      status.toJson.length ≤ StatusResponse.maxJson) :
    script.Stage z server (Task.hear Handlers.registries payload ⟨c, .hearing payload⟩).2
      ((heard ++ [frame]).flatten ++ c.buffer)
      (statuses ++ (Task.asked? server ⟨c, .hearing payload⟩ (metrics, .proceed)).toList) := by
  obtain ⟨_, _, -, each, state, wire⟩ := owes.settled
  rcases role_of_frames all with _ | @⟨_, earlier, later, requests⟩ | _
  · have known : Registry.entry? (c.conversation.active Handlers.registries) (Packet.id Handshake) =
        some ⟨Handshake, inferInstance, some Handlers.handshake⟩ := by
      rw [Conversation.active, state]
      rfl
    have none : Task.asked? server ⟨c, .hearing payload⟩ (metrics, .proceed) = none := by
      simp [Task.asked?, Task.conversation, state, stateAfter]
    obtain rfl : statuses = [] := List.eq_nil_of_length_eq_zero each
    rw [Task.hear_of_handler known (script.greets.is split) rfl, none]
    refine .acting ⟨steady.phase, steady.codec, steady.config, steady.mailbox⟩ ?_ (.inl rfl)
    simp only [Task.onWire, Task.conversation, wire, outgoing, Session.requestTransition,
      Session.queue, Session.setProtocolVersion, actions, state, script.toStatus]
    exact .move
  · have is := (script.asks frame (by rw [requests]; simp)).is split
    have known : Registry.entry? (c.conversation.active Handlers.registries) (Packet.id StatusRequest) =
        some ⟨StatusRequest, inferInstance, some Handlers.statusRequest⟩ := by
      rw [Conversation.active, state]
      rfl
    have some : Task.asked? server ⟨c, .hearing payload⟩ (metrics, .proceed) =
        some { server with metrics }.status := by
      simp [Task.asked?, Task.conversation, state, stateAfter, is]
    have status : c.conversation.session.server.status = { server with metrics }.status := by
      rw [ServerContext.status, ServerContext.status, steady.config, ← found]
      rfl
    rw [Task.hear_of_handler known is rfl, some]
    refine .acting ⟨steady.phase, steady.codec, steady.config, steady.mailbox⟩ ?_ (.inl rfl)
    have next : ∃ ahead behind, later ++ [script.ping] = ahead :: behind :=
      List.exists_cons_of_ne_nil (by simp)
    obtain ⟨ahead, behind, next⟩ := next
    have owes := @Owes.response z script (earlier ++ [frame]) behind ahead statuses
      { server with metrics }.status (by rw [all, next]; simp) (by simpa using each) (short _ some)
    simp only [Task.onWire, Task.conversation, wire, outgoing, Session.send, Session.queue, actions,
      state, status, List.append_nil]
    exact owes
  · have is := script.pings.is split
    have known : Registry.entry? (c.conversation.active Handlers.registries) (Packet.id PingRequest) =
        some ⟨PingRequest, inferInstance, some Handlers.pingRequest⟩ := by
      rw [Conversation.active, state]
      rfl
    have other : (Packet.ofPayload? payload : Option StatusRequest) = none :=
      Packet.ofPayload?_eq_none is (by decide)
    have none : Task.asked? server ⟨c, .hearing payload⟩ (metrics, .proceed) = none := by
      simp [Task.asked?, Task.conversation, other]
    rw [Task.hear_of_handler known is rfl, none]
    refine .acting ⟨steady.phase, steady.codec, steady.config, steady.mailbox⟩ ?_ (.inl rfl)
    simp only [Task.onWire, Task.conversation, wire, outgoing, Session.send, Session.queue,
      Session.disconnect, actions, state, List.append_nil, Option.toList_none]
    exact .pong each

theorem act {rest : List Action} (steady : Steady server .serving c)
    (owes : script.Owes z heard c.conversation.state (Task.onWire ⟨c, .acting rest⟩) statuses
      (rest ++ c.conversation.session.actions))
    (either : rest = [] ∨ c.conversation.session.actions = []) :
    script.Stage z server (Task.act Handlers.registries z rest ⟨c, .acting rest⟩).2
      (heard.flatten ++ c.buffer) statuses := by
  rcases rest with _ | ⟨action, rest⟩
  · rw [Task.act, Task.conversation_mk]
    by_cases pending : c.conversation.session.hasPendingActions = true
    · rw [if_pos pending]
      refine .acting ⟨steady.phase, steady.codec, steady.config, steady.mailbox⟩ ?_ (.inr rfl)
      change script.Owes z heard _ _ _ (c.conversation.session.actions ++ [])
      rw [List.append_nil]
      exact owes
    · have none : c.conversation.session.actions = [] := by
        simpa [Session.hasPendingActions] using pending
      rw [none] at owes
      rw [if_neg pending]
      exact .waiting ⟨steady.phase, steady.codec, steady.config, steady.mailbox⟩ owes none rfl
        fun fresh => by cases fresh
  · have none : c.conversation.session.actions = [] := either.resolve_left (List.cons_ne_nil _ _)
    rw [none, List.append_nil] at owes
    rw [Task.act, Task.conversation_mk]
    rcases Owes.perform steady.codec owes with
      ⟨d, performed, plain, config, actions, owes⟩ | ⟨rfl, rfl, each, wire⟩
    · rw [performed]
      refine .acting ⟨steady.phase, plain, config.trans steady.config, steady.mailbox⟩ ?_
        (.inr (actions.trans none))
      change script.Owes z heard d.state (d.written ++ d.outgoing) statuses (rest ++ d.session.actions)
      rw [actions, none, List.append_nil]
      exact owes
    · exact .closing each wire

/-! ### All moves -/

theorem proceed {metrics : Metrics} (stage : script.Stage z server t read statuses)
    (found : t.conversation.metrics = metrics) (within : read <+: script.octets ++ trailing)
    (short : ∀ status ∈ t.asked? server (metrics, .proceed),
      status.toJson.length ≤ StatusResponse.maxJson) :
    script.Stage z server (t.proceed Handlers.registries z).2 read
      (statuses ++ (t.asked? server (metrics, .proceed)).toList) := by
  cases stage with
  | @early c moment first steady buffer state actions written outgoing =>
    rcases first with rfl | rfl | rfl
    · exact .early (.inr (.inl rfl)) ⟨steady.phase, steady.codec, steady.config, steady.mailbox⟩
        buffer state actions written outgoing
    · have attached : (c.conversation.active Handlers.registries).attach c.conversation.session =
          c.conversation.session := by
        rw [Conversation.active, state]
        rfl
      refine .early (.inr (.inr rfl)) ⟨steady.phase, steady.codec, ?_, steady.mailbox⟩ buffer state ?_
        written outgoing
      · exact (congrArg (·.server.config) attached).trans steady.config
      · exact (congrArg Session.actions attached).trans actions
    · exact .early (.inr (.inr rfl)) steady buffer state actions written outgoing
  | @waiting c fresh heard statuses steady owes actions outgoing looked =>
    have none : Task.asked? server ⟨c, .waiting fresh⟩ (metrics, .proceed) = none := rfl
    rw [none, Option.toList_none, List.append_nil]
    cases fresh with
    | false => exact .waiting steady owes actions outgoing looked
    | true => exact look steady owes actions outgoing within
  | hearing steady owes actions outgoing all split =>
    exact hear steady owes actions outgoing all split found short
  | @acting c rest heard statuses steady owes either =>
    have none : Task.asked? server ⟨c, .acting rest⟩ (metrics, .proceed) = none := rfl
    rw [none, Option.toList_none, List.append_nil]
    exact act steady owes either
  | @closing c statuses each wire =>
    have none : Task.asked? server ⟨c, .closing⟩ (metrics, .proceed) = none := rfl
    rw [none, Option.toList_none, List.append_nil]
    exact .finished (.inl rfl) each wire rfl
  | @finished c moment statuses ending each written outgoing =>
    have none : Task.asked? server ⟨c, moment⟩ (metrics, .proceed) = none := by
      rcases ending with rfl | rfl | rfl | rfl <;> rfl
    rw [none, Option.toList_none, List.append_nil]
    rcases ending with rfl | rfl | rfl | rfl
    · exact .finished (.inr (.inl rfl)) each written outgoing
    · exact .finished (.inr (.inr (.inl rfl))) each written outgoing
    · exact .finished (.inr (.inr (.inr rfl))) each written outgoing
    · exact .finished (.inr (.inr (.inr rfl))) each written outgoing

theorem receive {octets : Bytes} (stage : script.Stage z server t read statuses)
    (within : read ++ t.reads (.receive octets) <+: script.octets ++ trailing) :
    script.Stage z server (t.receive octets).2 (read ++ t.reads (.receive octets)) statuses := by
  by_cases busy : t.moment ≠ .waiting false
  · obtain ⟨same, nothing⟩ := Task.receive_of_busy busy octets
    rw [same, nothing, List.append_nil]
    exact stage
  obtain ⟨c, moment⟩ := t
  obtain rfl : moment = .waiting false := Classical.not_not.mp busy
  rcases octets with _ | ⟨first, octets⟩
  · change script.Stage z server ⟨c, .waiting false⟩ (read ++ []) statuses
    rw [List.append_nil]
    exact stage
  obtain ⟨conversation, readTimeout, phase, buffer, mailbox, silence, notes⟩ := c
  cases stage with
  | early _ steady empty state actions written outgoing =>
    obtain ⟨opening, plain, config, nobody⟩ := steady
    cases opening
    cases empty
    have modern : first ≠ LegacyPing.opening := by
      rintro rfl
      exact script.modern (script.head?_hello_of_prefix within)
    have received : Task.receive (first :: octets)
        ⟨⟨conversation, readTimeout, .opening, [], mailbox, silence, notes⟩, .waiting false⟩ =
        (none, ⟨⟨conversation, readTimeout, .serving, first :: octets, mailbox, ⟨0⟩, notes⟩,
          .waiting true⟩) := if_neg modern
    rw [received]
    have owes : script.Owes z [] conversation.state conversation.written [] [] := by
      dsimp only at state written
      rw [state, written]
      exact @Owes.nothing z script [] (script.requests ++ [script.ping]) script.hello [] rfl rfl
    have steady : Steady server .serving
        ⟨conversation, readTimeout, .serving, first :: octets, mailbox, ⟨0⟩, notes⟩ :=
      ⟨rfl, plain, config, nobody⟩
    exact .waiting steady owes actions outgoing nofun
  | @waiting _ _ heard _ steady owes actions outgoing looked =>
    obtain ⟨serving, plain, config, nobody⟩ := steady
    cases serving
    have steady : Steady server .serving ⟨conversation, readTimeout, .serving,
        buffer ++ first :: octets, mailbox, ⟨0⟩, notes⟩ := ⟨rfl, plain, config, nobody⟩
    have more : (heard.flatten ++ buffer) ++ (first :: octets) =
        heard.flatten ++ (buffer ++ first :: octets) := List.append_assoc _ _ _
    change script.Stage z server _ (heard.flatten ++ buffer ++ first :: octets) statuses
    rw [more]
    exact .waiting steady owes actions outgoing nofun
  | finished ending each written outgoing =>
    rcases ending with same | same | same | same <;> cases same

theorem deliver (stage : script.Stage z server t read statuses) :
    script.Stage z server t.deliver.2 read statuses := by
  obtain ⟨c, moment⟩ := t
  rw [Task.deliver]
  split
  · rename_i waits serving first
    cases waits
    rw [stage.mailbox_eq_nil] at first
    cases first
  · rename_i waits serving first
    cases waits
    rw [stage.mailbox_eq_nil] at first
    cases first
  · exact stage

theorem elapse (stage : script.Stage z server t read statuses) (time : Duration) :
    script.Stage z server (t.elapse time) read statuses := by
  rw [Task.elapse]
  split
  · exact stage
  · exact disturb stage id _

/-- **Every move that has to do with the client alone keeps to the script.** -/
theorem step (stage : script.Stage z server t read statuses) {turn : Metrics × Move}
    (quiet : turn.2.isQuiet) (within : read ++ t.reads turn.2 <+: script.octets ++ trailing)
    (short : ∀ status ∈ t.asked? server turn, status.toJson.length ≤ StatusResponse.maxJson) :
    script.Stage z server (t.stepAmid Handlers.registries z turn) (read ++ t.reads turn.2)
      (statuses ++ (t.asked? server turn).toList) := by
  obtain ⟨metrics, move⟩ := turn
  have lent := stage.lend metrics
  cases move with
  | receive octets =>
    change script.Stage z server ((t.lend metrics).receive octets).2 _ (statuses ++ [])
    rw [List.append_nil]
    exact receive lent within
  | proceed =>
    change script.Stage z server ((t.lend metrics).proceed Handlers.registries z).2 (read ++ []) _
    rw [List.append_nil]
    exact proceed lent rfl (by simpa [Task.reads] using within) short
  | elapse time =>
    change script.Stage z server ((t.lend metrics).elapse time) (read ++ []) (statuses ++ [])
    rw [List.append_nil, List.append_nil]
    exact elapse lent time
  | deliver =>
    change script.Stage z server (t.lend metrics).deliver.2 (read ++ []) (statuses ++ [])
    rw [List.append_nil, List.append_nil]
    exact deliver lent
  | post message => cases quiet
  | finish => cases quiet
  | cut cause count => cases quiet
  | expire => cases quiet

/-- What one move keeps, every run keeps. -/
theorem run (stage : script.Stage z server t read statuses) {turns : List (Metrics × Move)}
    (quiet : ∀ turn ∈ turns, turn.2.isQuiet)
    (within : read ++ t.readIn Handlers.registries z turns <+: script.octets ++ trailing)
    (short : ∀ status ∈ t.askedIn Handlers.registries z server turns,
      status.toJson.length ≤ StatusResponse.maxJson) :
    script.Stage z server (t.runAmid Handlers.registries z turns)
      (read ++ t.readIn Handlers.registries z turns)
      (statuses ++ t.askedIn Handlers.registries z server turns) := by
  induction turns generalizing t read statuses with
  | nil =>
    rw [Task.readIn, Task.askedIn, List.append_nil, List.append_nil]
    exact stage
  | cons turn rest ih =>
    rw [Task.readIn, ← List.append_assoc] at within
    rw [Task.askedIn] at short
    rw [Task.readIn, Task.askedIn, ← List.append_assoc, ← List.append_assoc]
    have next := stage.step (quiet turn List.mem_cons_self) ((List.prefix_append _ _).trans within)
      fun status asked => short status (List.mem_append_left _ (Option.mem_toList.mpr asked))
    exact ih next (fun turn later => quiet turn (List.mem_cons_of_mem _ later)) within
      fun status asked => short status (List.mem_append_right _ asked)

end Stage

end StatusScript

end GameTransport
