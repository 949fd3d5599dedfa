import GameTransport.Crowd
import GameTransport.Proofs.OldClients
import GameTransport.Proofs.Rests

/-! # Tasks among others

While a task is held up, the other tasks of the server change the counters, and nothing else.  So a
run of one task of a crowd is a list of moves, each with the counters that it finds
(`Task.runAmid`).  Of such a run one can tell which octets it has read (`Task.readIn`) and what the
server would have said of itself each time that it was asked (`Task.askedIn`).
-/

namespace GameTransport

namespace Move

/-- A move that has to do with the client alone, and ends nothing. -/
def isQuiet : Move → Bool
  | receive _ | elapse _ | deliver | proceed => true
  | post _ | finish | cut _ _ | expire => false

end Move

namespace Task

variable {α : Type} (registries : StateRegistries (Session α)) (z : Zlib.Library)

/-- A move, made with the counters that it finds. -/
def stepAmid (t : Task α) (turn : Metrics × Move) : Task α :=
  (t.lend turn.1).step registries z turn.2

/-- What a list of moves makes of a task while others change the counters. -/
def runAmid (t : Task α) (turns : List (Metrics × Move)) : Task α :=
  turns.foldl (stepAmid registries z) t

/-- The octets that a move reads. -/
def reads (t : Task α) : Move → Bytes
  | .receive octets =>
    match t.moment with
    | .waiting false => octets
    | _ => []
  | _ => []

/-- Octets are read where a task waits for them. -/
theorem receive_of_busy {t : Task α} (busy : t.moment ≠ .waiting false) (octets : Bytes) :
    t.receive octets = (none, t) ∧ t.reads (.receive octets) = [] := by
  obtain ⟨c, moment⟩ := t
  rcases moment with _ | _ | ⟨_ | _⟩ | _ | _ | _ | _ | _ | _ | _ | _ | _
  case waiting.false => exact absurd rfl busy
  all_goals exact ⟨by rcases octets with _ | ⟨first, octets⟩ <;> rfl, rfl⟩

/-- The status of a server where a move hands a request for it over. -/
def asked? (server : ServerContext) (t : Task α) : Metrics × Move → Option ServerStatus
  | (metrics, .proceed) =>
    match t.moment with
    | .hearing payload =>
      if t.conversation.state = .status ∧
          (Packet.ofPayload? payload : Option StatusRequest).isSome then
        some { server with metrics }.status
      else none
    | _ => none
  | _ => none

/-- The octets that are read, in their order. -/
def readIn (t : Task α) : List (Metrics × Move) → Bytes
  | [] => []
  | turn :: rest => t.reads turn.2 ++ readIn (t.stepAmid registries z turn) rest

/-- The status of a server each time that it is asked for. -/
def askedIn (server : ServerContext) (t : Task α) : List (Metrics × Move) → List ServerStatus
  | [] => []
  | turn :: rest =>
    (t.asked? server turn).toList ++ askedIn server (t.stepAmid registries z turn) rest

/-- Moves of its own that a task makes, and the counters that they find. -/
def alone (found : Nat → Metrics) (count : Nat) : List (Metrics × Move) :=
  (List.range count).map fun place => (found place, .proceed)

variable {registries z}

theorem runAmid_append (t : Task α) (turns more : List (Metrics × Move)) :
    t.runAmid registries z (turns ++ more) =
      (t.runAmid registries z turns).runAmid registries z more := List.foldl_append

theorem readIn_append (t : Task α) (turns more : List (Metrics × Move)) :
    t.readIn registries z (turns ++ more) =
      t.readIn registries z turns ++ (t.runAmid registries z turns).readIn registries z more := by
  induction turns generalizing t with
  | nil => rfl
  | cons turn rest ih =>
    rw [List.cons_append, readIn, readIn, ih, List.append_assoc]
    rfl

theorem askedIn_append (server : ServerContext) (t : Task α) (turns more : List (Metrics × Move)) :
    t.askedIn registries z server (turns ++ more) = t.askedIn registries z server turns ++
      (t.runAmid registries z turns).askedIn registries z server more := by
  induction turns generalizing t with
  | nil => rfl
  | cons turn rest ih =>
    rw [List.cons_append, askedIn, askedIn, ih, List.append_assoc]
    rfl

/-- What it takes to ask for the status. -/
theorem of_asked? {server : ServerContext} {t : Task α} {turn : Metrics × Move}
    {status : ServerStatus} (asked : t.asked? server turn = some status) :
    turn.2 = .proceed ∧ status = { server with metrics := turn.1 }.status ∧
      t.conversation.state = .status ∧
      ∃ payload, t.moment = .hearing payload ∧
        ∃ request : StatusRequest, Packet.ofPayload? payload = some request := by
  obtain ⟨metrics, move⟩ := turn
  cases move
  case proceed =>
    rw [asked?] at asked
    split at asked
    · rename_i payload hearing
      split at asked
      · rename_i request
        cases asked
        exact ⟨rfl, rfl, request.1, payload, hearing, Option.isSome_iff_exists.mp request.2⟩
      · cases asked
    · cases asked
  all_goals cases asked

/-- A status is one of those at the time of a move. -/
theorem exists_of_mem_askedIn {server : ServerContext} {t : Task α} {turns : List (Metrics × Move)}
    {status : ServerStatus} (asked : status ∈ t.askedIn registries z server turns) :
    ∃ turn ∈ turns, status = { server with metrics := turn.1 }.status := by
  induction turns generalizing t with
  | nil => cases asked
  | cons turn rest ih =>
    rw [askedIn, List.mem_append, Option.mem_toList] at asked
    rcases asked with now | later
    · exact ⟨turn, List.mem_cons_self, (of_asked? now).2.1⟩
    · obtain ⟨turn, member, same⟩ := ih later
      exact ⟨turn, List.mem_cons_of_mem _ member, same⟩

theorem readIn_alone (found : Nat → Metrics) (count : Nat) (t : Task α) :
    t.readIn registries z (alone found count) = [] := by
  rw [alone]
  generalize List.range count = places
  induction places generalizing t with
  | nil => rfl
  | cons place rest ih => exact ih _

/-- A payload is handed to the handler of its kind. -/
theorem hear_of_handler {β : Type} [kind : Packet β] {handler : Handler (Session α) β} {packet : β}
    {payload : Bytes} {c : Connection α} {session : Session α}
    (known : Registry.entry? (c.conversation.active registries) kind.id =
      some ⟨β, kind, some handler⟩)
    (is : Packet.ofPayload? payload = some packet)
    (done : handler packet c.conversation.session = .ok () session) :
    (Task.hear registries payload ⟨c, .hearing payload⟩).2 =
      ⟨{ c with conversation := { c.conversation with session } }, .acting []⟩ := by
  have served := Registry.dispatch_of_ofPayload? known is c.conversation.session
  rw [done] at served
  simp only [hear, conversation_mk, Conversation.dispatch, served]
  rfl

/-- Whatever the others do, a task left to itself comes to rest. -/
theorem exists_rest_amid (found : Nat → Metrics) (t : Task α) :
    ∃ count, (t.runAmid registries z (alone found count)).moment.isAtRest := by
  obtain ⟨count, rest⟩ := exists_rest_of_lighter
    (fun place t => t.stepAmid registries z (found place, .proceed))
    (fun place t busy => lighter_proceed (t.lend (found place)) busy) t
  refine ⟨count, ?_⟩
  rw [runAmid, alone, List.foldl_map]
  exact rest

end Task

/-! ## Frames that carry one packet -/

namespace Frame

variable {β : Type} [Packet β] {frame : Bytes} {packet : β}

/-- The frame carries the packet, and nothing else. -/
def Carries (frame : Bytes) (packet : β) : Prop :=
  ∃ payload, split? frame = .ok (some (payload, [])) ∧ Packet.ofPayload? payload = some packet

theorem Carries.is {payload : Bytes} (carries : Carries frame packet)
    (split : split? frame = .ok (some (payload, []))) : Packet.ofPayload? payload = some packet := by
  obtain ⟨other, alone, is⟩ := carries
  rw [split] at alone
  cases alone
  exact is

theorem Carries.ne_nil (carries : Carries frame packet) : frame ≠ [] := by
  obtain ⟨payload, split, -⟩ := carries
  rintro rfl
  cases split

end Frame

namespace Codec

variable {β : Type} [Packet β] {z : Zlib.Library} {packet : β}

/-- A packet that fits a frame is carried by the octets that it is encoded to. -/
theorem carries_octets (back : Packet.ReadsBack packet)
    (fits : (Packet.encode packet).length ≤ Frame.maxPayload) :
    encode z (Packet.encode packet) {} = .ok (octets z (Packet.encode packet) {}) {} ∧
      Frame.Carries (octets z (Packet.encode packet) {}) packet := by
  obtain ⟨frame, framed⟩ : ∃ frame, Frame.encode (Packet.encode packet) = .ok frame :=
    ⟨_, Frame.encode_of_le fits⟩
  have encoded := @encode_first z _ _ framed
  have same : octets z (Packet.encode packet) {} = frame := by rw [octets, encoded]
  rw [same]
  refine ⟨encoded, Packet.encode packet, ?_, Packet.ofPayload?_encode back⟩
  simpa using Frame.split?_encode [] framed

end Codec

/-- Without layers, a packet that fits a frame is put behind what is on the wire. -/
theorem Conversation.exists_sent {α β : Type} [Packet β] {z : Zlib.Library}
    (registries : StateRegistries (Session α)) {packet : β} {c : Conversation α}
    (plain : c.codec = {}) (back : Packet.ReadsBack packet)
    (fits : (Packet.encode packet).length ≤ Frame.maxPayload) :
    ∃ d, c.perform z registries (.send (Packet.encode packet)) = .ok true d ∧ d.codec = {} ∧
      d.state = c.state ∧ d.session = c.session.count Metrics.sent ∧
      d.written ++ d.outgoing =
        c.written ++ c.outgoing ++ Codec.octets z (Packet.encode packet) {} := by
  obtain ⟨encoded, -⟩ := @Codec.carries_octets _ _ z _ back fits
  have fed : ∃ d, c.feed z (Packet.encode packet) = .ok () d ∧ d.codec = {} := by
    simp only [feed, codec_of_room, plain, encoded]
    exact ⟨_, rfl, rfl⟩
  obtain ⟨d, fed, plain'⟩ := fed
  obtain ⟨state, session⟩ := kept_of_feed_ok fed
  have wire := wire_of_feed_ok fed
  rw [plain] at wire
  refine ⟨d.count Metrics.sent, ?_, plain', state, congrArg (Session.count · Metrics.sent) session,
    wire⟩
  simp only [perform, fed]

theorem StatusResponse.length_encode_le {packet : StatusResponse}
    (short : packet.json.length ≤ maxJson) :
    (Packet.encode packet).length ≤ 4 * maxJson + 10 := by
  have total := Packet.length_encode_le packet
  have document := Field.length_write_string_le short
  simp only [Packet.write] at total
  omega

/-- A document that can be read fits a frame. -/
theorem StatusResponse.fits {packet : StatusResponse} (short : packet.json.length ≤ maxJson) :
    (Packet.encode packet).length ≤ Frame.maxPayload :=
  Nat.le_trans (length_encode_le short) (by decide)

theorem PongResponse.small (packet : PongResponse) :
    (Packet.encode packet).length ≤ Packet.small := by
  have total := Packet.length_encode_le packet
  have payload : (Field.i64.write packet.payload).length = 8 := Bytes.length_ofNat 8 _
  simp only [Packet.write] at total
  unfold Packet.small
  omega

theorem PongResponse.fits (packet : PongResponse) :
    (Packet.encode packet).length ≤ Frame.maxPayload :=
  Nat.le_trans packet.small (by decide)

end GameTransport
