import GameTransport.Connection

/-!
# Tasks

A connection is run by a task, one of many.  A task works an event off step by step and can be held
up between any two of them; meanwhile others post messages and change the counters of the server.
A task is a connection together with the point that the work has come to (`Moment`), and whatever the
order in which tasks get to run, each of them makes a list of moves.

```text
accepted ──▶ entering ──▶ waiting ◀──────────────┬──────────────────────┐
                            ├─ payload ──▶ hearing ──▶ acting           │
                            ├─ packet posted ──────────────▶ posting ──▶ writing
                            ├─ close posted ─────────▶ closing ◀── disconnect
                            ▼                            │
   any fault ────────────▶ ending ◀──────────────────────┘
                             └──▶ leaving ──▶ left ──▶ ended
```

The stream can fail wherever it is read or written.  A move that does not fit the moment changes
nothing.
-/

namespace GameTransport

/-- The points at which a task can be held up. -/
inductive Moment where
  /-- The work has not begun. -/
  | accepted
  /-- The first registry is about to be attached. -/
  | entering
  /-- Waits for the client, for a message and for the end of a silence; `fresh` if the buffer has
  not been looked at since the last change. -/
  | waiting (fresh : Bool)
  /-- A payload is about to be handed to the active registry. -/
  | hearing (payload : Bytes)
  /-- A batch is carried out, of which these actions are left. -/
  | acting (left : List Action)
  /-- A packet that was posted is about to be encoded. -/
  | posting (packet : Bytes) (fresh : Bool)
  /-- It is on its way out. -/
  | writing (fresh : Bool)
  /-- The last octets are on their way out. -/
  | closing
  /-- The active registry is about to be told how it ended. -/
  | ending (result : Except Fault Unit)
  /-- The active registry is about to be detached. -/
  | leaving (result : Except Fault Unit)
  /-- The end is about to be counted. -/
  | left (result : Except Fault Unit)
  | ended (result : Except Fault Unit)

structure Task (α : Type) where
  connection : Connection α
  moment : Moment := .accepted

/-- What can happen to a task. -/
inductive Move where
  /-- Another part of the program posts a message. -/
  | post (message : Message)
  | elapse (time : Duration)
  | receive (octets : Bytes)
  /-- The client has sent its last. -/
  | finish
  /-- The stream fails, after it has taken some more octets. -/
  | cut (cause : StreamFault) (count : Nat)
  /-- The silence has lasted too long. -/
  | expire
  /-- The first message of the mailbox is taken. -/
  | deliver
  /-- The task goes on by itself. -/
  | proceed
  deriving DecidableEq, Repr

/-- What is told of a move. -/
inductive Deed where
  | accepted (message : Message)
  | taken (message : Message)
  | decoded (payload : Bytes)
  /-- A read came to no payload but to a fault. -/
  | spoiled
  /-- A packet of a batch was encoded. -/
  | sent (packet octets : Bytes)
  /-- A packet that was posted was encoded. -/
  | pushed (packet octets : Bytes)
  /-- A packet that was posted was written. -/
  | confirmed
  /-- An old client was given its answer. -/
  | replied (octets : Bytes)
  /-- A callback found and left the counters like this. -/
  | called (before after : Metrics)
  deriving DecidableEq, Repr

/-- The octets that carry a payload, if it can be encoded. -/
def Codec.octets (z : Zlib.Library) (payload : Bytes) (codec : Codec) : Bytes :=
  match encode z payload codec with
  | .ok octets _ => octets
  | .error _ _ => []

/-- The counters that a conversation sees. -/
def Conversation.metrics {α : Type} (c : Conversation α) : Metrics := c.session.server.metrics

namespace Task

variable {α : Type}

/-- The task of a connection that has just been accepted. -/
def start (session : Session α) : Task α :=
  ⟨{ conversation := { session }, readTimeout := session.server.config.readTimeout }, .accepted⟩

def conversation (t : Task α) : Conversation α := t.connection.conversation

@[simp] theorem conversation_mk (c : Connection α) (moment : Moment) :
    (⟨c, moment⟩ : Task α).conversation = c.conversation := rfl

/-- Goes on with another conversation. -/
def resume (t : Task α) (conversation : Conversation α) (moment : Moment) : Task α :=
  ⟨{ t.connection with conversation }, moment⟩

/-- What is told of an action that was carried out. -/
def told (z : Zlib.Library) (action : Action) (c d : Conversation α) : Option Deed :=
  match action with
  | .send packet => some (.sent packet (Codec.octets z packet c.codec))
  | .transition _ => some (.called c.metrics d.metrics)
  | .enableCompression _ _ | .enableEncryption _ | .disconnect => none

variable (registries : StateRegistries (Session α)) (z : Zlib.Library)

/-- Takes what is at the front of the buffer. -/
def look (t : Task α) : Option Deed × Task α :=
  let c := t.conversation
  match Codec.decode z ⟨c.codec, t.connection.buffer⟩ with
  | .ok none inlet =>
    (none, ⟨{ t.connection with
      conversation := { c with codec := inlet.codec }, buffer := inlet.buffer }, .waiting false⟩)
  | .ok (some payload) inlet =>
    (some (.decoded payload), ⟨{ t.connection with
      conversation := { c with codec := inlet.codec }.count Metrics.received
      buffer := inlet.buffer }, .hearing payload⟩)
  | .error fault inlet =>
    (some .spoiled, t.resume ({ c with codec := inlet.codec }.count Metrics.received)
      (.ending (.error fault)))

/-- Hands a payload to the active registry. -/
def hear (payload : Bytes) (t : Task α) : Option Deed × Task α :=
  let c := t.conversation
  match c.dispatch registries payload with
  | .ok _ d => (some (.called c.metrics d.metrics), t.resume d (.acting []))
  | .error fault d => (some (.called c.metrics d.metrics), t.resume d (.ending (.error fault)))

/-- Carries out the next action, or writes what the batches have encoded. -/
def act (left : List Action) (t : Task α) : Option Deed × Task α :=
  let c := t.conversation
  match left with
  | [] =>
    if c.session.hasPendingActions then (none, t.resume c.takeBatch.2 (.acting c.takeBatch.1))
    else (none, t.resume c.flush (.waiting true))
  | action :: rest =>
    match c.perform z registries action with
    | .ok true d => (told z action c d, t.resume d (.acting rest))
    | .ok false d => (none, t.resume d .closing)
    | .error fault d => (none, t.resume d (.ending (.error fault)))

/-- Encodes a packet that was posted. -/
def encode (packet : Bytes) (fresh : Bool) (t : Task α) : Option Deed × Task α :=
  let c := t.conversation
  match c.feed z packet with
  | .ok () d => (some (.pushed packet (Codec.octets z packet c.codec)), t.resume d (.writing fresh))
  | .error fault d => (none, t.resume d (.ending (.error fault)))

/-- Tells the active registry of a fault. -/
def finale (result : Except Fault Unit) (t : Task α) : Option Deed × Task α :=
  let c := t.conversation
  match result with
  | .ok () => (none, t.resume c (.leaving result))
  | .error fault =>
    let told := (c.active registries).caught fault c.session
    (some (.called c.metrics told.server.metrics), ⟨{ t.connection with
      conversation := c.caught registries fault
      notes := t.connection.notes ++ Connection.notesOn fault c }, .leaving result⟩)

/-- Goes on by itself. -/
def proceed (t : Task α) : Option Deed × Task α :=
  let c := t.conversation
  match t.moment with
  | .accepted => (none, t.resume (c.count Metrics.opened) .entering)
  | .entering =>
    let session := (c.active registries).attach c.session
    (some (.called c.metrics session.server.metrics), t.resume { c with session } (.waiting false))
  | .waiting true => t.look z
  | .hearing payload => t.hear registries payload
  | .acting left => t.act registries z left
  | .posting packet fresh => t.encode z packet fresh
  | .writing fresh => (some .confirmed, t.resume (c.flush.count Metrics.sent) (.waiting fresh))
  | .closing => (none, t.resume c.flush (.ending (.ok ())))
  | .ending result => t.finale registries result
  | .leaving result =>
    let session := (c.active registries).detach c.session
    (some (.called c.metrics session.server.metrics), t.resume { c with session } (.left result))
  | .left result =>
    (none, ⟨{ t.connection with
      conversation := c.count Metrics.closed, phase := .closed result, mailbox := [] },
        .ended result⟩)
  | .waiting false | .ended _ => (none, t)

/-- Reads octets.  The first of all tells an old client from one that sends frames. -/
def receive (octets : Bytes) (t : Task α) : Option Deed × Task α :=
  match octets, t.moment, t.connection.phase with
  | first :: _, .waiting false, .opening =>
    let c := t.conversation
    if first = LegacyPing.opening then
      let reply := c.session.server.legacyStatus.encode
      (some (.replied reply), t.resume { c with outgoing := c.outgoing ++ reply } .closing)
    else
      (none, ⟨{ t.connection with phase := .serving, buffer := octets, silence := ⟨0⟩ },
        .waiting true⟩)
  | _ :: _, .waiting false, .serving =>
    (none, ⟨{ t.connection with buffer := t.connection.buffer ++ octets, silence := ⟨0⟩ },
      .waiting true⟩)
  | _, _, _ => (none, t)

/-- Reads the end of the stream.  That is in order unless it is inside a frame. -/
def finish (t : Task α) : Option Deed × Task α :=
  match t.moment, t.connection.phase with
  | .waiting false, .opening => (none, t.resume t.conversation (.ending (.ok ())))
  | .waiting false, .serving =>
    if t.connection.buffer.isEmpty then (none, t.resume t.conversation (.ending (.ok ())))
    else
      (some .spoiled,
        t.resume (t.conversation.count Metrics.received) (.ending (.error (.stream .cutFrame))))
  | _, _ => (none, t)

/-- Whether the task waits for the stream to take octets. -/
def writes (t : Task α) : Bool :=
  match t.moment with
  | .writing _ | .closing => true
  | .acting [] => !t.conversation.session.hasPendingActions
  | .acting (.send _ :: _) => Conversation.highWater ≤ t.conversation.outgoing.length
  | _ => false

/-- The stream fails. -/
def cut (cause : StreamFault) (count : Nat) (t : Task α) : Option Deed × Task α :=
  let c := t.conversation
  let result : Except Fault Unit := .error (.stream cause)
  if t.writes then
    (none, t.resume { c with
      outgoing := c.outgoing.drop count, written := c.written ++ c.outgoing.take count }
      (.ending result))
  else
    match t.moment, t.connection.phase with
    | .waiting false, .opening => (none, t.resume c (.ending result))
    | .waiting false, .serving =>
      (some .spoiled, t.resume (c.count Metrics.received) (.ending result))
    | _, _ => (none, t)

/-- Ends a silence that has lasted too long. -/
def expire (t : Task α) : Option Deed × Task α :=
  match t.moment with
  | .waiting _ =>
    if t.connection.readTimeout.nanos ≤ t.connection.silence.nanos then
      (none, t.resume t.conversation (.ending (.error (.timeout t.connection.readTimeout))))
    else (none, t)
  | _ => (none, t)

/-- Takes the first message, once the client has been heard. -/
def deliver (t : Task α) : Option Deed × Task α :=
  match t.moment, t.connection.phase, t.connection.mailbox with
  | .waiting fresh, .serving, .packet packet :: rest =>
    (some (.taken (.packet packet)), ⟨{ t.connection with mailbox := rest }, .posting packet fresh⟩)
  | .waiting _, .serving, .disconnect :: rest =>
    (some (.taken .disconnect), ⟨{ t.connection with mailbox := rest }, .closing⟩)
  | _, _, _ => (none, t)

/-- Another part of the program posts a message. -/
def post (message : Message) (t : Task α) : Option Deed × Task α :=
  match t.connection.post message with
  | .ok connection => (some (.accepted message), { t with connection })
  | .error _ => (none, t)

/-- Time passes. -/
def elapse (time : Duration) (t : Task α) : Task α :=
  if t.connection.isClosed then t
  else
    let silence : Duration := ⟨t.connection.silence.nanos + time.nanos⟩
    { t with connection := { t.connection with silence } }

/-- What a move comes to: what is told of it, and the task after it. -/
def turn (t : Task α) : Move → Option Deed × Task α
  | .post message => t.post message
  | .elapse time => (none, t.elapse time)
  | .receive octets => t.receive octets
  | .finish => t.finish
  | .cut cause count => t.cut cause count
  | .expire => t.expire
  | .deliver => t.deliver
  | .proceed => t.proceed registries z

def step (t : Task α) (move : Move) : Task α := (t.turn registries z move).2

/-- What a list of moves makes of a task. -/
def run (t : Task α) (moves : List Move) : Task α := moves.foldl (step registries z) t

/-- What is told of a list of moves. -/
def log : List Move → Task α → List Deed
  | [], _ => []
  | move :: rest, t => (t.turn registries z move).1.toList ++ log rest (t.step registries z move)

end Task

end GameTransport
