import GameTransport.Crowd

/-!
# Vigils

A task under a clock.  What the client sends lies in an inbox from the instant of its arrival until it
is read.  The work of a task takes no time: the clock moves on only once there is nothing left to do,
and never past the instant at which the timer goes off.

The timer is lazy.  It is set when the work begins and again with the first read; no later read touches
it, and nothing else does.  When it goes off it looks at the time of the last read, and is set anew if
the silence has not lasted for long enough.

```text
           arrive            read                 ring
  client ─────────▶ inbox ─────────▶ buffer    alarm ≤ now ──▶ lastRead + limit ≤ now ? end : set anew
```

While no octet has been read, the end of the silence is looked at only if there is nothing to read.
-/

namespace GameTransport

/-- A silence has lasted too long, whoever says so. -/
def Task.timeOut {α : Type} (t : Task α) : Task α :=
  t.resume t.conversation (.ending (.error (.timeout t.connection.readTimeout)))

/-- How the task has ended, if it has. -/
def Task.result? {α : Type} (t : Task α) : Option (Except Fault Unit) :=
  match t.moment with
  | .ended result => some result
  | _ => none

/-- A task with a clock.  Times are nanoseconds. -/
structure Vigil (α : Type) where
  task : Task α
  now : Nat
  /-- When the timer goes off next. -/
  alarm : Nat
  /-- When octets were read last; when the work began, until then. -/
  lastRead : Nat
  /-- What has arrived and was not read. -/
  inbox : Bytes := []
  /-- The client has sent its last. -/
  hungUp : Bool := false

/-- What can happen to a vigil. -/
inductive Tick where
  /-- Octets arrive. -/
  | arrive (octets : Bytes)
  /-- The client sends its last. -/
  | hangUp
  /-- Another part of the program posts a message. -/
  | post (message : Message)
  /-- Other tasks have changed the counters. -/
  | lend (metrics : Metrics)
  /-- The stream fails, after it has taken some more octets. -/
  | cut (cause : StreamFault) (count : Nat)
  /-- The clock moves on. -/
  | pass (time : Duration)
  /-- Some of what has arrived is read, or the end of it. -/
  | read (count : Nat)
  /-- The timer goes off. -/
  | ring
  /-- The first message of the mailbox is taken. -/
  | deliver
  /-- The task goes on by itself. -/
  | proceed
  deriving DecidableEq, Repr

/-- A tick is the doing of the server itself, and takes no time. -/
def Tick.isOwn : Tick → Bool
  | read _ | ring | deliver | proceed => true
  | arrive _ | hangUp | post _ | lend _ | cut _ _ | pass _ => false

namespace Vigil

variable {α : Type}

/-- The vigil of a connection that was just accepted, at some time. -/
def start (session : Session α) (begun : Nat) : Vigil α where
  task := .start session
  now := begun
  alarm := begun + session.server.config.readTimeout.nanos
  lastRead := begun

/-- For how long the client may be silent. -/
def limit (s : Vigil α) : Nat := s.task.connection.readTimeout.nanos

/-- There is nothing to do before the timer goes off or something else happens. -/
def isIdle (s : Vigil α) : Bool :=
  match s.task.moment with
  | .ended _ => true
  | .waiting false =>
    s.now < s.alarm && s.inbox.isEmpty && !s.hungUp &&
      match s.task.connection.phase with
      | .opening => true
      | .serving | .closed _ => s.task.connection.mailbox.isEmpty
  | _ => false

/-- The clock moves on, unless there is something to do before. -/
def pass (time : Duration) (s : Vigil α) : Vigil α :=
  if s.isIdle && (s.task.result?.isSome || s.now + time.nanos ≤ s.alarm) then
    { s with task := s.task.elapse time, now := s.now + time.nanos }
  else s

/-- Reads some of what has arrived, or the end of it.  The first read sets the timer. -/
def read (count : Nat) (s : Vigil α) : Vigil α :=
  match s.task.moment, s.inbox with
  | .waiting false, [] => if s.hungUp then { s with task := s.task.finish.2 } else s
  | .waiting false, _ :: _ =>
    match s.inbox.take count with
    | [] => s
    | first :: more =>
      { s with
        task := (s.task.receive (first :: more)).2
        alarm :=
          match s.task.connection.phase with
          | .opening => s.now + s.limit
          | .serving | .closed _ => s.alarm
        lastRead := s.now
        inbox := s.inbox.drop count }
  | _, _ => s

/-- The timer goes off, once it is time. -/
def ring (s : Vigil α) : Vigil α :=
  if s.alarm ≤ s.now then
    match s.task.moment, s.task.connection.phase with
    | .waiting _, .opening =>
      if s.inbox.isEmpty && !s.hungUp then { s with task := s.task.timeOut } else s
    | .waiting _, .serving =>
      if s.lastRead + s.limit ≤ s.now then { s with task := s.task.timeOut }
      else { s with alarm := s.lastRead + s.limit }
    | _, _ => s
  else s

variable (registries : StateRegistries (Session α)) (z : Zlib.Library)

def step (s : Vigil α) : Tick → Vigil α
  | .arrive octets => { s with inbox := s.inbox ++ octets }
  | .hangUp => { s with hungUp := true }
  | .post message => { s with task := s.task.step registries z (.post message) }
  | .lend metrics => { s with task := s.task.lend metrics }
  | .cut cause count => { s with task := s.task.step registries z (.cut cause count) }
  | .pass time => s.pass time
  | .read count => s.read count
  | .ring => s.ring
  | .deliver => { s with task := s.task.step registries z .deliver }
  | .proceed => { s with task := s.task.step registries z .proceed }

/-- What a list of ticks makes of a vigil. -/
def run (s : Vigil α) (ticks : List Tick) : Vigil α := ticks.foldl (step registries z) s

end Vigil

end GameTransport
