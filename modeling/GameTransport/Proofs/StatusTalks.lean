import GameTransport.Proofs.Documents
import GameTransport.Proofs.StatusScripts

/-! # What a client gets that asks for the status

Each request gets one answer, the status at the time at which the request is handed over; the ping gets
its payload back, and the connection is closed.  What stands behind the ping is not looked at
(`StatusScript.answered_once`).
-/

namespace GameTransport

namespace StatusScript

variable {α : Type} {z : Zlib.Library} {script : StatusScript} {heard left : List Bytes}
  {frame read : Bytes} {server : ServerContext} {statuses : List ServerStatus} {t : Task α}

theorem Role.prefix_heard (role : script.Role heard frame left) :
    heard <+: script.hello :: script.requests := by
  cases role with
  | greeting => exact List.nil_prefix
  | request all => exact List.cons_prefix_cons.mpr ⟨rfl, by rw [all]; exact List.prefix_append _ _⟩
  | ping => exact List.prefix_refl _

/-- All that is written once these statuses were asked for. -/
def wholeWire (z : Zlib.Library) (script : StatusScript) (statuses : List ServerStatus) : Bytes :=
  statuses.flatMap (answer z) ++
    if statuses.length = script.requests.length then script.echo z else []

theorem Owes.prefix_wire {state : ConnectionState} {wire : Bytes} {due : List Action}
    (owes : script.Owes z heard state wire statuses due) :
    wire <+: script.wholeWire z statuses ∧ statuses.length ≤ script.requests.length := by
  rw [wholeWire]
  cases owes with
  | nothing all each =>
    have within := (role_of_frames all).prefix_heard.length_le
    rw [List.length_cons] at within
    exact ⟨List.prefix_append _ _, by omega⟩
  | move => exact ⟨List.nil_prefix, Nat.zero_le _⟩
  | response all each short =>
    have within := (role_of_frames all).prefix_heard.length_le
    rw [List.length_cons, List.length_cons] at within
    rw [List.flatMap_append, List.append_assoc]
    exact ⟨List.prefix_append _ _, by omega⟩
  | pong each => exact ⟨List.prefix_append _ _, Nat.le_of_eq each⟩
  | parting each =>
    rw [if_pos each]
    exact ⟨List.prefix_refl _, Nat.le_of_eq each⟩

/-- The task has answered whatever has arrived in full, and waits for more. -/
structure Waits (z : Zlib.Library) (script : StatusScript) (statuses : List ServerStatus)
    (read : Bytes) (t : Task α) : Prop where
  moment : t.moment = .waiting false
  /-- The frames that were heard, of which the first is no request. -/
  heard : ∃ heard, heard <+: script.hello :: script.requests ∧
    statuses.length = heard.length - 1 ∧ read = heard.flatten ++ t.connection.buffer
  /-- No other frame is complete. -/
  part : Frame.split? t.connection.buffer = .ok none
  unpinged : ¬ script.octets <+: read
  written : t.conversation.written = statuses.flatMap (answer z)
  outgoing : t.conversation.outgoing = []

/-- The task has answered everything and closed the connection. -/
structure Ends (z : Zlib.Library) (script : StatusScript) (statuses : List ServerStatus)
    (read : Bytes) (t : Task α) : Prop where
  result : t.moment = .ended (.ok ())
  each : statuses.length = script.requests.length
  /-- What stands behind the ping is where it was. -/
  behind : read = script.octets ++ t.connection.buffer
  written : t.conversation.written = statuses.flatMap (answer z) ++ script.echo z
  outgoing : t.conversation.outgoing = []

/-- What a client gets for its script. -/
structure Answered (z : Zlib.Library) (script : StatusScript) (statuses : List ServerStatus)
    (read : Bytes) (t : Task α) : Prop where
  /-- An answer is read as the status that was asked for. -/
  answers : ∀ status ∈ statuses, ∃ response : StatusResponse,
    Frame.Carries (answer z status) response ∧ ServerStatus.ofJson response.json = .ok status
  /-- The ping gets its payload back. -/
  echoes : Frame.Carries (script.echo z) (PongResponse.mk script.payload)
  atMost : statuses.length ≤ script.requests.length
  /-- Nothing else is written, nothing twice and nothing out of order. -/
  inOrder : t.onWire <+: script.wholeWire z statuses
  rests : t.moment.isAtRest → Waits z script statuses read t ∨ Ends z script statuses read t

/-- As long as the next frame is not complete, the ping has not been read. -/
theorem unpinged_of_part {buffer : Bytes} (all : script.frames = heard ++ frame :: left)
    (part : Frame.split? buffer = .ok none) : ¬ script.octets <+: heard.flatten ++ buffer := by
  intro whole
  rw [octets, all, List.flatten_append, List.prefix_append_right_inj, List.flatten_cons] at whole
  obtain ⟨payload, alone⟩ := (role_of_frames all).exists_payload
  obtain ⟨behind, rfl⟩ := (List.prefix_append frame left.flatten).trans whole
  rw [Frame.split?_append_some behind alone] at part
  cases part

namespace Stage

theorem rests (stage : script.Stage z server t read statuses) (rest : t.moment.isAtRest) :
    Waits z script statuses read t ∨ Ends z script statuses read t := by
  cases stage with
  | @early c moment first steady buffer state actions written outgoing =>
    rcases first with rfl | rfl | rfl
    · cases rest
    · cases rest
    · have part : Frame.split? c.buffer = .ok none := by
        rw [buffer]
        exact Frame.split?_nil
      have unpinged := @unpinged_of_part script [] (script.requests ++ [script.ping]) script.hello
        c.buffer rfl part
      rw [buffer] at unpinged
      have nothing : ([] : Bytes) = ([] : List Bytes).flatten ++ c.buffer := buffer.symm
      exact .inl ⟨rfl, ⟨[], List.nil_prefix, rfl, nothing⟩, part, unpinged, written, outgoing⟩
  | @waiting c fresh heard statuses steady owes actions outgoing looked =>
    cases fresh with
    | true => cases rest
    | false =>
      obtain ⟨frame, left, all, each, -, wire⟩ := owes.settled
      exact .inl ⟨rfl, ⟨heard, (role_of_frames all).prefix_heard, each, rfl⟩, looked rfl,
        unpinged_of_part all (looked rfl), wire, outgoing⟩
  | finished ending each written outgoing =>
    rcases ending with rfl | rfl | rfl | rfl
    · cases rest
    · cases rest
    · cases rest
    · exact .inr ⟨rfl, each, rfl, written, outgoing⟩
  | hearing steady owes actions outgoing all split => cases rest
  | acting steady owes either => cases rest
  | closing each wire => cases rest

theorem prefix_wire (stage : script.Stage z server t read statuses) :
    t.onWire <+: script.wholeWire z statuses ∧ statuses.length ≤ script.requests.length := by
  cases stage with
  | early first steady buffer state actions written outgoing =>
    rw [Task.onWire, Task.conversation, written, outgoing]
    exact ⟨List.nil_prefix, Nat.zero_le _⟩
  | waiting steady owes actions outgoing looked =>
    rw [Task.onWire, Task.conversation, outgoing, List.append_nil]
    exact owes.prefix_wire
  | hearing steady owes actions outgoing all split =>
    rw [Task.onWire, Task.conversation, outgoing, List.append_nil]
    exact owes.prefix_wire
  | acting steady owes either => exact owes.prefix_wire
  | closing each wire =>
    rw [wholeWire, if_pos each, wire]
    exact ⟨List.prefix_refl _, Nat.le_of_eq each⟩
  | finished ending each written outgoing =>
    rw [wholeWire, if_pos each, Task.onWire, Task.conversation, written, outgoing, List.append_nil]
    exact ⟨List.prefix_refl _, Nat.le_of_eq each⟩

end Stage

/-- A task that has come to rest has answered whatever it has read. -/
theorem Stage.settles (stage : script.Stage z server t read statuses) (rest : t.moment.isAtRest) :
    (script.octets <+: read → Ends z script statuses read t) ∧
      (¬ script.octets <+: read → Waits z script statuses read t) := by
  rcases stage.rests rest with waits | ends
  · exact ⟨fun whole => absurd whole waits.unpinged, fun _ => waits⟩
  · exact ⟨fun _ => ends, fun part => absurd ⟨_, ends.behind.symm⟩ part⟩

/-- **Every request for the status is answered once, and the first ping ends the conversation**,
whatever the reads are, whatever the other connections do meanwhile and whatever stands behind the
ping. -/
theorem answered_once (script : StatusScript) (z : Zlib.Library) (server : ServerContext)
    (id : ConnectionId) (peer : Option SocketAddress) (entropy : Entropy) (app : α)
    (turns : List (Metrics × Move)) (quiet : ∀ turn ∈ turns, turn.2.isQuiet) (trailing : Bytes)
    (sent : (Task.start { id, peer, server, entropy, app }).readIn Handlers.registries z turns <+:
      script.octets ++ trailing)
    (short : ∀ status ∈
      (Task.start { id, peer, server, entropy, app }).askedIn Handlers.registries z server turns,
      status.toJson.length ≤ StatusResponse.maxJson) :
    let t := Task.start { id, peer, server, entropy, app }
    let statuses := t.askedIn Handlers.registries z server
    let read := t.readIn Handlers.registries z
    let after := t.runAmid Handlers.registries z
    Answered z script (statuses turns) (read turns) (after turns) ∧
      ∀ found : Nat → Metrics,
        (∀ place, { server with metrics := found place }.status.toJson.length ≤
          StatusResponse.maxJson) →
        ∃ count, let turns := turns ++ Task.alone found count
          (script.octets <+: read turns → Ends z script (statuses turns) (read turns) (after turns)) ∧
          (¬ script.octets <+: read turns →
            Waits z script (statuses turns) (read turns) (after turns)) := by
  intro t statuses read after
  have stage := (Stage.start script server id peer entropy app).run quiet sent short (z := z)
  rw [List.nil_append, List.nil_append] at stage
  refine ⟨⟨fun status asked => ?_, ?_, stage.prefix_wire.2, stage.prefix_wire.1, stage.rests⟩,
    fun found brief => ?_⟩
  · have carried := Codec.carries_octets (z := z) (StatusResponse.readsBack (short status asked))
      (StatusResponse.fits (short status asked))
    exact ⟨⟨status.toJson⟩, carried.2, status.ofJson_toJson⟩
  · exact (Codec.carries_octets (PongResponse.readsBack _) (PongResponse.fits _)).2
  · obtain ⟨count, rest⟩ := @Task.exists_rest_amid α Handlers.registries z found (after turns)
    have goes : ∀ turn ∈ Task.alone found count, turn.2.isQuiet ∧
        { server with metrics := turn.1 }.status.toJson.length ≤ StatusResponse.maxJson := by
      intro turn member
      obtain ⟨place, -, rfl⟩ := List.mem_map.mp member
      exact ⟨rfl, brief place⟩
    have next := stage.run (fun turn member => (goes turn member).1)
      (by rw [Task.readIn_alone, List.append_nil]; exact sent) fun status asked => by
        obtain ⟨turn, member, rfl⟩ := Task.exists_of_mem_askedIn asked
        exact (goes turn member).2
    rw [← Task.readIn_append, ← Task.askedIn_append, ← Task.runAmid_append] at next
    refine ⟨count, next.settles ?_⟩
    rw [Task.runAmid_append]
    exact rest

/-- A client that asks twice. -/
def twice : StatusScript where
  hello := [16, 0, 0xff, 5, 9, 108, 111, 99, 97, 108, 104, 111, 115, 116, 0x63, 0xdd, 1]
  greeting := ⟨767, "localhost", 25565, .status⟩
  greets := ⟨[0, 0xff, 5, 9, 108, 111, 99, 97, 108, 104, 111, 115, 116, 0x63, 0xdd, 1], rfl,
    by decide +kernel⟩
  toStatus := rfl
  modern := by decide
  requests := List.replicate 2 [1, 0]
  asks := by
    intro frame member
    obtain rfl := List.eq_of_mem_replicate member
    exact ⟨[0], rfl, rfl⟩
  ping := [9, 1, 0, 0, 0, 0, 0, 0, 0, 42]
  payload := 42
  pings := ⟨[1, 0, 0, 0, 0, 0, 0, 0, 42], rfl, rfl⟩

/-- The octets of that client in four reads, the last with some more behind the ping.  In between, a
player joins and leaves. -/
def twiceInReads : List (Metrics × Move) :=
  let own (count : Nat) (players : UInt64) : List (Metrics × Move) :=
    List.replicate count ({ playersOnline := players }, .proceed)
  own 2 0 ++ ({}, .receive [16, 0, 0xff, 5, 9, 108, 111]) :: own 1 0 ++
    ({}, .receive [99, 97, 108, 104, 111, 115, 116, 0x63, 0xdd, 1, 1, 0, 1]) :: own 11 1 ++
    ({}, .receive [0, 9, 1, 0]) :: own 6 0 ++
    ({}, .receive [0, 0, 0, 0, 0, 0, 42, 0xff, 0xff, 0xff, 0xff]) :: own 9 0

/-- A server that has just started, and a client of it. -/
def firstServer : ServerContext := { config := {}, key := none }

def firstTask : Task Unit :=
  Task.start { id := ⟨1⟩, peer := none, server := firstServer, entropy := ⟨fun _ => 0, 0⟩, app := () }

theorem readIn_twice : firstTask.readIn Handlers.registries .stored twiceInReads =
    twice.octets ++ [0xff, 0xff, 0xff, 0xff] := by
  decide +kernel

theorem askedIn_twice : firstTask.askedIn Handlers.registries .stored firstServer twiceInReads =
    [{ firstServer with metrics := { playersOnline := 1 } }.status, firstServer.status] := by
  decide +kernel

theorem isAtRest_twice :
    (firstTask.runAmid Handlers.registries .stored twiceInReads).moment.isAtRest := by
  decide +kernel

/-- Its second request finds the player gone. -/
theorem answered_once_twice :
    (∀ turn ∈ twiceInReads, turn.2.isQuiet) ∧
      firstTask.readIn Handlers.registries .stored twiceInReads <+:
        twice.octets ++ [0xff, 0xff, 0xff, 0xff] ∧
      (∀ status ∈ firstTask.askedIn Handlers.registries .stored firstServer twiceInReads,
        status.toJson.length ≤ StatusResponse.maxJson) ∧
      Ends .stored twice (firstTask.askedIn Handlers.registries .stored firstServer twiceInReads)
        (firstTask.readIn Handlers.registries .stored twiceInReads)
        (firstTask.runAmid Handlers.registries .stored twiceInReads) := by
  have quiet : ∀ turn ∈ twiceInReads, turn.2.isQuiet := by decide
  have sent : firstTask.readIn Handlers.registries .stored twiceInReads <+:
      twice.octets ++ [0xff, 0xff, 0xff, 0xff] := readIn_twice ▸ List.prefix_refl _
  have whole : twice.octets <+: firstTask.readIn Handlers.registries .stored twiceInReads := by
    rw [readIn_twice]
    exact List.prefix_append _ _
  have short : ∀ status ∈ firstTask.askedIn Handlers.registries .stored firstServer twiceInReads,
      status.toJson.length ≤ StatusResponse.maxJson := by
    rw [askedIn_twice]
    decide +kernel
  obtain ⟨answered, -⟩ := answered_once twice .stored firstServer ⟨1⟩ none ⟨fun _ => 0, 0⟩ ()
    twiceInReads quiet _ sent short
  have ends := (answered.rests isAtRest_twice).resolve_left fun waits => waits.unpinged whole
  exact ⟨quiet, sent, short, ends⟩

end StatusScript

end GameTransport
