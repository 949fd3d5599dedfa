import GameTransport.Codec
import GameTransport.Session
import GameTransport.StateRegistries

/-!
# Conversations

A conversation is what a connection is made of once frames go over it: a session, the connection
state, a codec and the octets on their way out.  `answer` is its one step: a payload is dispatched
in the active registry, then the actions that the handler queued are carried out, then what they
encoded is written.

The hooks that run during a transition may queue more actions.  Those make a new batch, carried out
when the batch that is under way is finished.  Every batch after the first owes its existence to a
transition, and `movesLeft` falls with each of them, so `carryOut` ends whatever the hooks do.

A fault stops a conversation on the spot: what was encoded and not yet written is lost.
-/

namespace GameTransport

/-- The inside of a connection. -/
structure Conversation (α : Type) where
  session : Session α
  /-- The state whose registry is active. -/
  state : ConnectionState := .handshaking
  codec : Codec := {}
  /-- Encoded octets that wait to be written. -/
  outgoing : Bytes := []
  /-- All octets written so far. -/
  written : Bytes := []

namespace Conversation

variable {α : Type}

/-- How many octets may wait before the next packet has them written. -/
def highWater : Nat := 8192

/-- Writes what waits. -/
def flush (c : Conversation α) : Conversation α :=
  { c with outgoing := [], written := c.written ++ c.outgoing }

/-- Changes the counters of the server. -/
def count (c : Conversation α) (change : Metrics → Metrics) : Conversation α :=
  { c with session := c.session.count change }

variable (z : Zlib.Library)

/-- Encodes a packet, to be written later. -/
def feed (packet : Bytes) : EStateM Fault (Conversation α) Unit := fun c =>
  let c := if highWater ≤ c.outgoing.length then c.flush else c
  match Codec.encode z packet c.codec with
  | .ok octets codec => .ok () { c with codec, outgoing := c.outgoing ++ octets }
  | .error fault codec => .error fault { c with codec }

variable (registries : StateRegistries (Session α))

/-- The registry that is active. -/
def active (c : Conversation α) : Registry (Session α) := registries.active c.state

/-- Moves to another state.  The hooks of both registries run before the session is told. -/
def move (target : ConnectionState) : EStateM Fault (Conversation α) Unit := fun c =>
  match registries.transition c.state target c.session with
  | .ok session => .ok () { c with session := { session with state := target }, state := target }
  | .error fault => .error fault c

/-- Carries out an action.  Whether the conversation goes on. -/
def perform (action : Action) : EStateM Fault (Conversation α) Bool := fun c =>
  match action with
  | .send packet =>
    match feed z packet c with
    | .ok () c => .ok true (c.count Metrics.sent)
    | .error fault c => .error fault c
  | .enableCompression threshold level =>
    .ok true { c with codec := c.codec.enableCompression threshold level }
  | .enableEncryption secret => .ok true { c with codec := c.codec.enableEncryption secret }
  | .transition target =>
    match move registries target c with
    | .ok () c => .ok true c
    | .error fault c => .error fault c
  | .disconnect => .ok false c

/-- Carries out a batch in its order, up to the first action that ends the conversation. -/
def performAll : List Action → EStateM Fault (Conversation α) Bool
  | [], c => .ok true c
  | action :: rest, c =>
    match perform z registries action c with
    | .ok true c => performAll rest c
    | .ok false c => .ok false c
    | .error fault c => .error fault c

/-- Making room leaves the layers alone. -/
theorem codec_of_room (c : Conversation α) :
    (if highWater ≤ c.outgoing.length then c.flush else c).codec = c.codec := by
  split <;> rfl

theorem feed_ok {packet : Bytes} {c d : Conversation α} (h : feed z packet c = .ok () d) :
    d.state = c.state ∧ d.session = c.session := by
  unfold feed at h
  dsimp only at h
  split at h
  · cases h
    split <;> exact ⟨rfl, rfl⟩
  · cases h

theorem movesLeft_lt_of_move {target : ConnectionState} {c d : Conversation α}
    (h : move registries target c = .ok () d) : d.state.movesLeft < c.state.movesLeft := by
  unfold move StateRegistries.transition at h
  by_cases allowed : c.state.canMoveTo target = true
  · simp only [allowed, if_true] at h
    cases h
    exact ConnectionState.movesLeft_lt_of_canMoveTo allowed
  · simp only [allowed] at h
    cases h

/-- An action moves on, or leaves the state and the queue alone. -/
theorem movesLeft_lt_of_perform {action : Action} {c d : Conversation α} {goesOn : Bool}
    (h : perform z registries action c = .ok goesOn d) :
    d.state.movesLeft < c.state.movesLeft ∨
      d.state = c.state ∧ d.session.actions = c.session.actions := by
  cases action with
  | send packet =>
    cases hf : feed z packet c with
    | error fault e => simp only [perform, hf] at h; cases h
    | ok written e =>
      simp only [perform, hf] at h
      cases h
      obtain ⟨hstate, hsession⟩ := feed_ok z hf
      have hactions : e.session.actions = c.session.actions := congrArg Session.actions hsession
      exact .inr ⟨hstate, hactions⟩
  | transition target =>
    cases hm : move registries target c with
    | error fault e => simp only [perform, hm] at h; cases h
    | ok written e =>
      simp only [perform, hm] at h
      cases h
      exact .inl (movesLeft_lt_of_move registries hm)
  | enableCompression threshold level => cases h; exact .inr ⟨rfl, rfl⟩
  | enableEncryption secret => cases h; exact .inr ⟨rfl, rfl⟩
  | disconnect => cases h; exact .inr ⟨rfl, rfl⟩

/-- A batch moves on, or leaves the state and the queue alone. -/
theorem movesLeft_lt_of_performAll {batch : List Action} {c d : Conversation α} {goesOn : Bool}
    (h : performAll z registries batch c = .ok goesOn d) :
    d.state.movesLeft < c.state.movesLeft ∨
      d.state = c.state ∧ d.session.actions = c.session.actions := by
  induction batch generalizing c with
  | nil => cases h; exact .inr ⟨rfl, rfl⟩
  | cons action rest ih =>
    cases hp : perform z registries action c with
    | error fault e => simp only [performAll, hp] at h; cases h
    | ok continues e =>
      have first := movesLeft_lt_of_perform z registries hp
      cases continues with
      | false => simp only [performAll, hp] at h; cases h; exact first
      | true =>
        simp only [performAll, hp] at h
        rcases first with first | ⟨hstate, hactions⟩ <;> rcases ih h with next | ⟨hs, ha⟩
        · exact .inl (Nat.lt_trans next first)
        · exact .inl (hs ▸ first)
        · exact .inl (hstate ▸ next)
        · exact .inr ⟨hs.trans hstate, ha.trans hactions⟩

/-- Bounds the number of batches still to come. -/
def batchesLeft (c : Conversation α) : Nat :=
  c.state.movesLeft + if c.session.actions.isEmpty then 0 else 1

/-- Takes the actions that are queued. -/
def takeBatch (c : Conversation α) : List Action × Conversation α :=
  let (batch, session) := c.session.takeActions
  (batch, { c with session })

theorem batchesLeft_lt_of_performAll {c d : Conversation α} {goesOn : Bool}
    (pending : c.session.hasPendingActions = true)
    (h : performAll z registries c.takeBatch.1 c.takeBatch.2 = .ok goesOn d) :
    d.batchesLeft < c.batchesLeft := by
  have before : c.batchesLeft = c.state.movesLeft + 1 := by
    have : c.session.actions.isEmpty = false := by simpa [Session.hasPendingActions] using pending
    simp [batchesLeft, this]
  rw [before]
  rcases movesLeft_lt_of_performAll z registries h with moved | ⟨hstate, hactions⟩
  · have : d.batchesLeft ≤ d.state.movesLeft + 1 := by
      unfold batchesLeft
      split <;> omega
    exact Nat.lt_of_le_of_lt this (Nat.succ_lt_succ moved)
  · have : d.session.actions = [] := hactions
    simp only [batchesLeft, this, hstate, takeBatch, List.isEmpty_nil, if_true]
    exact Nat.lt_succ_self _

/-- Carries out all that is queued, batch by batch.  Whether the conversation goes on. -/
def carryOut (c : Conversation α) : EStateM.Result Fault (Conversation α) Bool :=
  if _pending : c.session.hasPendingActions then
    match _performed : performAll z registries c.takeBatch.1 c.takeBatch.2 with
    | .ok true c => carryOut c
    | .ok false c => .ok false c
    | .error fault c => .error fault c
  else .ok true c
termination_by c.batchesLeft
decreasing_by exact batchesLeft_lt_of_performAll z registries _pending _performed

/-- Hands a payload to the registry that is active. -/
def dispatch (payload : Bytes) : EStateM Fault (Conversation α) Dispatched := fun c =>
  match (c.active registries).dispatch payload c.session with
  | .ok dispatched session => .ok dispatched { c with session }
  | .error fault session => .error fault { c with session }

/-- Answers a payload.  Whether the conversation goes on. -/
def answer (payload : Bytes) : EStateM Fault (Conversation α) Bool := fun c =>
  match dispatch registries payload (c.count Metrics.received) with
  | .error fault c => .error fault c
  | .ok _ c =>
    match carryOut z registries c with
    | .error fault c => .error fault c
    | .ok goesOn c => .ok goesOn c.flush

/-- Answers the payloads in a buffer, as many as are complete.  What is left of the buffer, or
none if the conversation is over. -/
def drain (buffer : Bytes) (c : Conversation α) :
    EStateM.Result Fault (Conversation α) (Option Bytes) :=
  match _decoded : Codec.decode z ⟨c.codec, buffer⟩ with
  | .error fault inlet => .error fault ({ c with codec := inlet.codec }.count Metrics.received)
  | .ok none inlet => .ok (some inlet.buffer) { c with codec := inlet.codec }
  | .ok (some payload) inlet =>
    match answer z registries payload { c with codec := inlet.codec } with
    | .ok true c => drain inlet.buffer c
    | .ok false c => .ok none c
    | .error fault c => .error fault c
termination_by buffer.length
decreasing_by exact Codec.length_lt_of_decode _decoded

/-- Writes a packet that another part of the program has sent. -/
def push (packet : Bytes) : EStateM Fault (Conversation α) Unit := fun c =>
  match feed z packet c with
  | .ok () c => .ok () (c.flush.count Metrics.sent)
  | .error fault c => .error fault c

/-- Tells the active registry of a fault, and counts it unless it is the transport's. -/
def caught (fault : Fault) (c : Conversation α) : Conversation α :=
  let c := { c with session := (c.active registries).caught fault c.session }
  if fault.isTransport then c else c.count Metrics.failed

/-- Leaves the last state. -/
def leave (c : Conversation α) : Conversation α :=
  { c with session := (c.active registries).detach c.session }.count Metrics.closed

/-- Enters the first state. -/
def enter (c : Conversation α) : Conversation α :=
  let c := c.count Metrics.opened
  { c with session := (c.active registries).attach c.session }

end Conversation

end GameTransport
