import GameTransport.Conversation

/-!
# Connections

A connection takes one client from the first octet to the close.  What happens to it are events:
octets arrive, the client sends its last, time passes, another part of the program posts a message
and the connection gets to deliver what was posted.  An event is worked off before the next is
looked at.

```text
first octet ──▶ FE? ──yes──▶ one answer for an old client, close
                 │
                 no
                 ▼
       octets:   answer every complete payload
       messages: write a packet, or close
       silence of the read timeout: close
```

Messages that are posted before the first octet wait for it.  Every fault ends the connection: the
active registry is told, then it is left.
-/

namespace GameTransport

/-- What other parts of the program ask of a connection. -/
inductive Message where
  /-- Write a packet: the number of its kind and its body. -/
  | packet (packet : Bytes)
  /-- Close, after what was posted before. -/
  | disconnect
  deriving DecidableEq, Repr

/-- How far a connection is with its stream. -/
inductive Phase where
  /-- No octet has arrived. -/
  | opening
  /-- Frames go over it. -/
  | serving
  | closed (result : Except Fault Unit)

def Phase.isClosed : Phase → Bool
  | closed _ => true
  | opening | serving => false

/-- What can happen to a connection. -/
inductive Event where
  | received (octets : Bytes)
  /-- The client has sent its last. -/
  | finished
  | elapsed (time : Duration)
  | posted (message : Message)
  /-- The connection gets to deliver what was posted. -/
  | delivered
  deriving DecidableEq, Repr

structure Connection (α : Type) where
  conversation : Conversation α
  /-- How long the client may be silent. -/
  readTimeout : Duration
  phase : Phase := .opening
  /-- What has arrived and is no complete frame yet. -/
  buffer : Bytes := []
  /-- What has been posted and not delivered, in the order of posting. -/
  mailbox : List Message := []
  /-- How long the client has been silent. -/
  silence : Duration := ⟨0⟩
  /-- What the operator is told. -/
  notes : List Note := []

namespace Connection

variable {α : Type}

/-- The most messages that may wait. -/
def mailboxSize : Nat := 256

def session (c : Connection α) : Session α := c.conversation.session

def isClosed (c : Connection α) : Bool := c.phase.isClosed

/-- How the connection ended, if it has. -/
def result? (c : Connection α) : Option (Except Fault Unit) :=
  match c.phase with
  | .closed result => some result
  | .opening | .serving => none

/-- Posts a message.  A connection that is closed takes none, and neither does a full mailbox. -/
def post (message : Message) (c : Connection α) : Except Fault (Connection α) :=
  if c.isClosed || mailboxSize ≤ c.mailbox.length then
    .error (.stream (.notAccepting c.session.id))
  else .ok { c with mailbox := c.mailbox ++ [message] }

/-- What the operator is told of a fault: nothing if it is the transport's. -/
def notesOn (fault : Fault) (conversation : Conversation α) : List Note :=
  if fault.isTransport then []
  else
    [.warn ("Connection " ++ conversation.session.id.text ++ " closed in "
      ++ conversation.state.name ++ ": " ++ fault.message)]

variable (registries : StateRegistries (Session α))

/-- Ends a connection. -/
def close (result : Except Fault Unit) (conversation : Conversation α) (c : Connection α) :
    Connection α :=
  match result with
  | .ok () =>
    { c with conversation := conversation.leave registries, phase := .closed result, mailbox := [] }
  | .error fault =>
    { c with
      conversation := (conversation.caught registries fault).leave registries
      phase := .closed result
      mailbox := []
      notes := c.notes ++ notesOn fault conversation }

/-- Gives an old client its answer. -/
def answerLegacy (c : Connection α) : Connection α :=
  let reply := c.session.server.legacyStatus.encode
  let conversation := { c.conversation with written := c.conversation.written ++ reply }
  c.close registries (.ok ()) conversation

variable (z : Zlib.Library)

/-- Answers what is complete in the buffer. -/
def drain (c : Connection α) : Connection α :=
  match c.conversation.drain z registries c.buffer with
  | .ok (some buffer) conversation => { c with conversation, buffer }
  | .ok none conversation => c.close registries (.ok ()) conversation
  | .error fault conversation => c.close registries (.error fault) conversation

/-- Delivers one message. -/
def deliverMessage (message : Message) (c : Connection α) : Connection α :=
  match message with
  | .packet packet =>
    match c.conversation.push z packet with
    | .ok () conversation => { c with conversation }
    | .error fault conversation => c.close registries (.error fault) conversation
  | .disconnect => c.close registries (.ok ()) c.conversation.flush

/-- Delivers messages in their order, up to the first that closes the connection. -/
def deliverAll : List Message → Connection α → Connection α
  | [], c => c
  | message :: rest, c =>
    match c.phase with
    | .serving => deliverAll rest (c.deliverMessage registries z message)
    | .opening | .closed _ => c

/-- Delivers what was posted, once the client has been heard. -/
def deliver (c : Connection α) : Connection α :=
  match c.phase with
  | .serving => deliverAll registries z c.mailbox { c with mailbox := [] }
  | .opening | .closed _ => c

/-- Octets arrive.  The first of all tells an old client from one that sends frames. -/
def receive (octets : Bytes) (c : Connection α) : Connection α :=
  match octets, c.phase with
  | first :: _, .opening =>
    if first = LegacyPing.opening then c.answerLegacy registries
    else { c with phase := .serving, buffer := octets, silence := ⟨0⟩ }.drain registries z
  | _ :: _, .serving =>
    { c with buffer := c.buffer ++ octets, silence := ⟨0⟩ }.drain registries z
  | _, _ => c

/-- The client has sent its last.  That is in order unless it stops inside a frame. -/
def finish (c : Connection α) : Connection α :=
  match c.phase with
  | .opening => c.close registries (.ok ()) c.conversation
  | .serving =>
    if c.buffer.isEmpty then c.close registries (.ok ()) c.conversation
    else c.close registries (.error (.stream .cutFrame)) (c.conversation.count Metrics.received)
  | .closed _ => c

/-- Time passes. -/
def elapse (time : Duration) (c : Connection α) : Connection α :=
  if c.isClosed then c
  else
    let c := { c with silence := ⟨c.silence.nanos + time.nanos⟩ }
    if c.readTimeout.nanos ≤ c.silence.nanos then
      c.close registries (.error (.timeout c.readTimeout)) c.conversation
    else c

/-- A connection that has just been accepted.  It is over if its client may not be silent at
all. -/
def start (session : Session α) : Connection α :=
  let conversation := ({ session : Conversation α }).enter registries
  let readTimeout := session.server.config.readTimeout
  { conversation, readTimeout : Connection α }.elapse registries ⟨0⟩

/-- What an event makes of a connection.  A message that is not taken is lost. -/
def step (c : Connection α) : Event → Connection α
  | .received octets => c.receive registries z octets
  | .finished => c.finish registries
  | .elapsed time => c.elapse registries time
  | .posted message => (c.post message).toOption.getD c
  | .delivered => c.deliver registries z

/-- What a course of events makes of a connection. -/
def run (c : Connection α) (events : List Event) : Connection α :=
  events.foldl (step registries z) c

end Connection

end GameTransport
