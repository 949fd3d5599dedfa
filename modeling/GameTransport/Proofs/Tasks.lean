import GameTransport.Task
import GameTransport.Proofs.Histories

/-! # What a move can do

`Task.Step` says once what a move of a task can do, with one case for each way, and `Task.step_turn`
that every move is one of them.  Whatever is shown of all schedules is shown for these cases.
-/

namespace GameTransport

namespace Task

variable {α : Type}

/-- The ways in which a move can turn out. -/
inductive Step (registries : StateRegistries (Session α)) (z : Zlib.Library) :
    Task α → Option Deed → Task α → Prop where
  /-- The move does not fit. -/
  | idle {t : Task α} : Step registries z t none t
  | accepted {c : Connection α} {moment : Moment} {message : Message} (running : c.isClosed = false)
      (room : c.mailbox.length < Connection.mailboxSize) :
      Step registries z ⟨c, moment⟩ (some (.accepted message))
        ⟨{ c with mailbox := c.mailbox ++ [message] }, moment⟩
  | elapsed {c : Connection α} {moment : Moment} {silence : Duration}
      (running : c.isClosed = false) :
      Step registries z ⟨c, moment⟩ none ⟨{ c with silence }, moment⟩
  | opened {c : Connection α} :
      Step registries z ⟨c, .accepted⟩ none
        ⟨{ c with conversation := c.conversation.count Metrics.opened }, .entering⟩
  | entered {c : Connection α} {session : Session α}
      (attached : (c.conversation.active registries).attach c.conversation.session = session) :
      Step registries z ⟨c, .entering⟩
        (some (.called c.conversation.metrics session.server.metrics))
        ⟨{ c with conversation := { c.conversation with session } }, .waiting false⟩
  | replied {c : Connection α} {reply : Bytes} (opening : c.phase = .opening) :
      Step registries z ⟨c, .waiting false⟩ (some (.replied reply))
        ⟨{ c with conversation :=
          { c.conversation with outgoing := c.conversation.outgoing ++ reply } }, .closing⟩
  | read {c : Connection α} {buffer : Bytes} (running : c.isClosed = false) :
      Step registries z ⟨c, .waiting false⟩ none
        ⟨{ c with phase := .serving, buffer, silence := ⟨0⟩ }, .waiting true⟩
  | finished {c : Connection α} :
      Step registries z ⟨c, .waiting false⟩ none ⟨c, .ending (.ok ())⟩
  /-- The stream fails or is silent. -/
  | lost {c : Connection α} {fresh : Bool} {fault : Fault} :
      Step registries z ⟨c, .waiting fresh⟩ none ⟨c, .ending (.error fault)⟩
  /-- There is no payload to be had any more. -/
  | spoiled {c : Connection α} {fresh : Bool} {codec : Codec} {fault : Fault} :
      Step registries z ⟨c, .waiting fresh⟩ (some .spoiled)
        ⟨{ c with conversation := { c.conversation with codec }.count Metrics.received },
          .ending (.error fault)⟩
  | looked {c : Connection α} {codec : Codec} {buffer : Bytes} :
      Step registries z ⟨c, .waiting true⟩ none
        ⟨{ c with conversation := { c.conversation with codec }, buffer }, .waiting false⟩
  | decoded {c : Connection α} {payload buffer : Bytes} {codec : Codec} :
      Step registries z ⟨c, .waiting true⟩ (some (.decoded payload))
        ⟨{ c with
          conversation := { c.conversation with codec }.count Metrics.received, buffer },
          .hearing payload⟩
  | heard {c : Connection α} {session : Session α} {payload : Bytes} {outcome : Dispatched}
      (served : (c.conversation.active registries).dispatch payload c.conversation.session =
        .ok outcome session) :
      Step registries z ⟨c, .hearing payload⟩
        (some (.called c.conversation.metrics session.server.metrics))
        ⟨{ c with conversation := { c.conversation with session } }, .acting []⟩
  | refused {c : Connection α} {session : Session α} {payload : Bytes} {fault : Fault}
      (served : (c.conversation.active registries).dispatch payload c.conversation.session =
        .error fault session) :
      Step registries z ⟨c, .hearing payload⟩
        (some (.called c.conversation.metrics session.server.metrics))
        ⟨{ c with conversation := { c.conversation with session } }, .ending (.error fault)⟩
  | batch {c : Connection α} :
      Step registries z ⟨c, .acting []⟩ none
        ⟨{ c with conversation := c.conversation.takeBatch.2 },
          .acting c.conversation.takeBatch.1⟩
  | flushed {c : Connection α} :
      Step registries z ⟨c, .acting []⟩ none
        ⟨{ c with conversation := c.conversation.flush }, .waiting true⟩
  | sent {c : Connection α} {d : Conversation α} {packet : Bytes} {rest : List Action}
      (fed : c.conversation.feed z packet = .ok () d) :
      Step registries z ⟨c, .acting (.send packet :: rest)⟩
        (some (.sent packet (Codec.octets z packet c.conversation.codec)))
        ⟨{ c with conversation := d.count Metrics.sent }, .acting rest⟩
  | moved {c : Connection α} {target : ConnectionState} {rest : List Action}
      (allowed : c.conversation.state.canMoveTo target) :
      Step registries z ⟨c, .acting (.transition target :: rest)⟩
        (some (.called c.conversation.metrics (c.conversation.moved registries target).metrics))
        ⟨{ c with conversation := c.conversation.moved registries target }, .acting rest⟩
  /-- A layer is switched on. -/
  | switched {c : Connection α} {codec : Codec} {action : Action} {rest : List Action} :
      Step registries z ⟨c, .acting (action :: rest)⟩ none
        ⟨{ c with conversation := { c.conversation with codec } }, .acting rest⟩
  | disconnected {c : Connection α} {rest : List Action} :
      Step registries z ⟨c, .acting (.disconnect :: rest)⟩ none ⟨c, .closing⟩
  | denied {c : Connection α} {target : ConnectionState} {rest : List Action} {fault : Fault} :
      Step registries z ⟨c, .acting (.transition target :: rest)⟩ none ⟨c, .ending (.error fault)⟩
  /-- A packet of a batch cannot be encoded. -/
  | unsent {c : Connection α} {d : Conversation α} {packet : Bytes} {rest : List Action}
      {fault : Fault} (fed : c.conversation.feed z packet = .error fault d) :
      Step registries z ⟨c, .acting (.send packet :: rest)⟩ none
        ⟨{ c with conversation := d }, .ending (.error fault)⟩
  | taken {c : Connection α} {packet : Bytes} {rest : List Message} {fresh : Bool}
      (first : c.mailbox = .packet packet :: rest) :
      Step registries z ⟨c, .waiting fresh⟩ (some (.taken (.packet packet)))
        ⟨{ c with mailbox := rest }, .posting packet fresh⟩
  | called_off {c : Connection α} {rest : List Message} {fresh : Bool}
      (first : c.mailbox = .disconnect :: rest) :
      Step registries z ⟨c, .waiting fresh⟩ (some (.taken .disconnect))
        ⟨{ c with mailbox := rest }, .closing⟩
  | pushed {c : Connection α} {d : Conversation α} {packet : Bytes} {fresh : Bool}
      (fed : c.conversation.feed z packet = .ok () d) :
      Step registries z ⟨c, .posting packet fresh⟩
        (some (.pushed packet (Codec.octets z packet c.conversation.codec)))
        ⟨{ c with conversation := d }, .writing fresh⟩
  /-- A packet that was posted cannot be encoded. -/
  | unpushed {c : Connection α} {d : Conversation α} {packet : Bytes} {fresh : Bool} {fault : Fault}
      (fed : c.conversation.feed z packet = .error fault d) :
      Step registries z ⟨c, .posting packet fresh⟩ none
        ⟨{ c with conversation := d }, .ending (.error fault)⟩
  | confirmed {c : Connection α} {fresh : Bool} :
      Step registries z ⟨c, .writing fresh⟩ (some .confirmed)
        ⟨{ c with conversation := c.conversation.flush.count Metrics.sent }, .waiting fresh⟩
  | closed {c : Connection α} :
      Step registries z ⟨c, .closing⟩ none
        ⟨{ c with conversation := c.conversation.flush }, .ending (.ok ())⟩
  /-- The stream fails while it takes octets. -/
  | broken {c : Connection α} {moment : Moment} {count : Nat} {cause : StreamFault}
      (writes : Task.writes ⟨c, moment⟩) :
      Step registries z ⟨c, moment⟩ none
        ⟨{ c with conversation := { c.conversation with
          outgoing := c.conversation.outgoing.drop count
          written := c.conversation.written ++ c.conversation.outgoing.take count } },
          .ending (.error (.stream cause))⟩
  | settled {c : Connection α} :
      Step registries z ⟨c, .ending (.ok ())⟩ none ⟨c, .leaving (.ok ())⟩
  | caught {c : Connection α} {session : Session α} {fault : Fault} {notes : List Note}
      (told : (c.conversation.active registries).caught fault c.conversation.session = session) :
      Step registries z ⟨c, .ending (.error fault)⟩
        (some (.called c.conversation.metrics session.server.metrics))
        ⟨{ c with
          conversation := { c.conversation with
            session := if fault.isTransport then session else session.count Metrics.failed }
          notes }, .leaving (.error fault)⟩
  | detached {c : Connection α} {session : Session α} {result : Except Fault Unit}
      (detached : (c.conversation.active registries).detach c.conversation.session = session) :
      Step registries z ⟨c, .leaving result⟩
        (some (.called c.conversation.metrics session.server.metrics))
        ⟨{ c with conversation := { c.conversation with session } }, .left result⟩
  | ended {c : Connection α} {result : Except Fault Unit} :
      Step registries z ⟨c, .left result⟩ none
        ⟨{ c with
          conversation := c.conversation.count Metrics.closed, phase := .closed result
          mailbox := [] }, .ended result⟩

variable {registries : StateRegistries (Session α)} {z : Zlib.Library}

theorem step_look (c : Connection α) :
    Step registries z ⟨c, .waiting true⟩ (Task.look z ⟨c, .waiting true⟩).1
      (Task.look z ⟨c, .waiting true⟩).2 := by
  rw [look]
  split
  · exact .looked
  · exact .decoded
  · exact .spoiled

theorem step_hear (c : Connection α) (payload : Bytes) :
    Step registries z ⟨c, .hearing payload⟩ (Task.hear registries payload ⟨c, .hearing payload⟩).1
      (Task.hear registries payload ⟨c, .hearing payload⟩).2 := by
  simp only [hear, conversation_mk, Conversation.dispatch]
  rcases served : (c.conversation.active registries).dispatch payload c.conversation.session with
    ⟨outcome, session⟩ | ⟨fault, session⟩
  · exact .heard served
  · exact .refused served

theorem step_act (c : Connection α) (left : List Action) :
    Step registries z ⟨c, .acting left⟩ (Task.act registries z left ⟨c, .acting left⟩).1
      (Task.act registries z left ⟨c, .acting left⟩).2 := by
  rcases left with _ | ⟨action, rest⟩
  · rw [act]
    split
    · exact .batch
    · exact .flushed
  · rw [act]
    cases action with
    | send packet =>
      rw [conversation_mk, Conversation.perform]
      rcases fed : c.conversation.feed z packet with ⟨_, d⟩ | ⟨fault, d⟩
      · exact .sent fed
      · exact .unsent fed
    | transition target =>
      rw [conversation_mk]
      by_cases allowed : c.conversation.state.canMoveTo target
      · rw [Conversation.perform_transition_of_canMoveTo allowed]
        exact .moved allowed
      · rw [Conversation.perform_transition_of_not_canMoveTo allowed]
        exact .denied
    | enableCompression threshold level => exact .switched
    | enableEncryption secret => exact .switched
    | disconnect => exact .disconnected

theorem step_encode (c : Connection α) (packet : Bytes) (fresh : Bool) :
    Step registries z ⟨c, .posting packet fresh⟩
      (Task.encode z packet fresh ⟨c, .posting packet fresh⟩).1
      (Task.encode z packet fresh ⟨c, .posting packet fresh⟩).2 := by
  rw [encode]
  split
  · rename_i fed
    exact .pushed fed
  · rename_i fed
    exact .unpushed fed

theorem caught_eq (fault : Fault) (c : Conversation α) :
    c.caught registries fault = { c with
      session :=
        if fault.isTransport then (c.active registries).caught fault c.session
        else ((c.active registries).caught fault c.session).count Metrics.failed } := by
  rw [Conversation.caught]
  split <;> rfl

theorem step_proceed (t : Task α) :
    Step registries z t (t.proceed registries z).1 (t.proceed registries z).2 := by
  obtain ⟨c, moment⟩ := t
  cases moment with
  | accepted => exact .opened
  | entering => exact .entered rfl
  | waiting fresh =>
    cases fresh with
    | false => exact .idle
    | true => exact step_look c
  | hearing payload => exact step_hear c payload
  | acting left => exact step_act c left
  | posting packet fresh => exact step_encode c packet fresh
  | writing fresh => exact .confirmed
  | closing => exact .closed
  | ending result =>
    rcases result with fault | ⟨⟨⟩⟩
    · change Step registries z _ (some _)
        ⟨{ c with conversation := c.conversation.caught registries fault, notes := _ }, _⟩
      rw [caught_eq]
      exact .caught rfl
    · exact .settled
  | leaving result => exact .detached rfl
  | left result => exact .ended
  | ended result => exact .idle

theorem step_receive (t : Task α) (octets : Bytes) :
    Step registries z t (t.receive octets).1 (t.receive octets).2 := by
  obtain ⟨c, moment⟩ := t
  unfold receive
  split
  · rename_i waits opening
    cases waits
    have running : c.isClosed = false := congrArg Phase.isClosed opening
    split
    · exact .replied opening
    · exact .read running
  · rename_i waits serving
    cases waits
    obtain ⟨conversation, readTimeout, phase, buffer, mailbox, silence, notes⟩ := c
    cases serving
    exact .read rfl
  · exact .idle

theorem step_finish (t : Task α) : Step registries z t t.finish.1 t.finish.2 := by
  obtain ⟨c, moment⟩ := t
  rw [finish]
  split
  · rename_i waits opening
    cases waits
    exact .finished
  · rename_i waits serving
    cases waits
    split
    · exact .finished
    · exact .spoiled
  · exact .idle

theorem step_cut (t : Task α) (cause : StreamFault) (count : Nat) :
    Step registries z t (t.cut cause count).1 (t.cut cause count).2 := by
  obtain ⟨c, moment⟩ := t
  rw [cut]
  split
  · rename_i writes
    exact .broken writes
  · split
    · rename_i waits opening
      cases waits
      exact .lost
    · rename_i waits serving
      cases waits
      exact .spoiled
    · exact .idle

theorem step_expire (t : Task α) : Step registries z t t.expire.1 t.expire.2 := by
  obtain ⟨c, moment⟩ := t
  rw [expire]
  split
  · rename_i waits
    cases waits
    split
    · exact .lost
    · exact .idle
  · exact .idle

theorem step_deliver (t : Task α) : Step registries z t t.deliver.1 t.deliver.2 := by
  obtain ⟨c, moment⟩ := t
  rw [deliver]
  split
  · rename_i waits serving first
    cases waits
    exact .taken first
  · rename_i waits serving first
    cases waits
    exact .called_off first
  · exact .idle

theorem step_post (t : Task α) (message : Message) :
    Step registries z t (t.post message).1 (t.post message).2 := by
  obtain ⟨c, moment⟩ := t
  rw [post, Connection.post]
  dsimp only
  by_cases refused : (c.isClosed || Connection.mailboxSize ≤ c.mailbox.length) = true
  · rw [if_pos refused]
    exact .idle
  · rw [if_neg refused]
    simp only [Bool.or_eq_true, decide_eq_true_eq, not_or, Bool.not_eq_true, Nat.not_le] at refused
    exact .accepted refused.1 refused.2

/-- **Every move is a step.** -/
theorem step_turn (t : Task α) (move : Move) :
    Step registries z t (t.turn registries z move).1 (t.step registries z move) := by
  cases move with
  | post message => exact step_post t message
  | elapse time =>
    change Step registries z t none (t.elapse time)
    rw [elapse]
    split
    · exact .idle
    · rename_i running
      exact .elapsed (Bool.eq_false_iff.mpr running)
  | receive octets => exact step_receive t octets
  | finish => exact step_finish t
  | cut cause count => exact step_cut t cause count
  | expire => exact step_expire t
  | deliver => exact step_deliver t
  | proceed => exact step_proceed t

/-- What every step keeps, every schedule keeps. -/
theorem run_induction {P : List Deed → Task α → Prop} {log : List Deed} {t : Task α}
    (kept : ∀ log t deed? t', P log t → Step registries z t deed? t' → P (log ++ deed?.toList) t')
    (start : P log t) (moves : List Move) :
    P (log ++ t.log registries z moves) (t.run registries z moves) := by
  induction moves generalizing log t with
  | nil =>
    rw [Task.log, List.append_nil]
    exact start
  | cons move rest ih =>
    rw [Task.log, ← List.append_assoc]
    exact ih (kept log t _ _ start (step_turn t move))

/-- The same from the beginning on. -/
theorem start_induction {P : List Deed → Task α → Prop} (session : Session α)
    (kept : ∀ log t deed? t', P log t → Step registries z t deed? t' → P (log ++ deed?.toList) t')
    (first : P [] (start session)) (moves : List Move) :
    P ((start session).log registries z moves) ((start session).run registries z moves) :=
  run_induction kept first moves

/-! ## Octets under way -/

/-- All octets that were written or wait to be. -/
def onWire (t : Task α) : Bytes := t.conversation.written ++ t.conversation.outgoing

end Task

namespace Deed

/-- The octets that a deed adds to the stream. -/
def octets : Deed → Bytes
  | sent _ octets | pushed _ octets | replied octets => octets
  | accepted _ | taken _ | decoded _ | spoiled | confirmed | called _ _ => []

end Deed

namespace Conversation

variable {α : Type} {z : Zlib.Library} {c d : Conversation α} {packet : Bytes} {fault : Fault}

/-- Making room moves octets on, and nothing else. -/
theorem wire_of_full :
    (if highWater ≤ c.outgoing.length then c.flush else c).written ++
      (if highWater ≤ c.outgoing.length then c.flush else c).outgoing = c.written ++ c.outgoing := by
  split
  · exact List.append_nil _
  · rfl

/-- A packet that is encoded stands behind everything else. -/
theorem wire_of_feed_ok (fed : feed z packet c = .ok () d) :
    d.written ++ d.outgoing = c.written ++ c.outgoing ++ Codec.octets z packet c.codec := by
  simp only [feed, codec_of_room] at fed
  rw [← wire_of_full (c := c), Codec.octets]
  rcases encoded : Codec.encode z packet c.codec with ⟨octets, codec⟩ | ⟨fault, codec⟩ <;>
    rw [encoded] at fed <;> cases fed
  exact (List.append_assoc _ _ _).symm

/-- The codec after a packet that was encoded. -/
theorem encode_of_feed_ok (fed : feed z packet c = .ok () d) :
    Codec.encode z packet c.codec = .ok (Codec.octets z packet c.codec) d.codec := by
  simp only [feed, codec_of_room] at fed
  rw [Codec.octets]
  rcases encoded : Codec.encode z packet c.codec with ⟨octets, codec⟩ | ⟨fault, codec⟩ <;>
    rw [encoded] at fed <;> cases fed
  rfl

/-- The codec after a packet that was not. -/
theorem encode_of_feed_error (fed : feed z packet c = .error fault d) :
    Codec.encode z packet c.codec = .error fault d.codec := by
  simp only [feed, codec_of_room] at fed
  rcases encoded : Codec.encode z packet c.codec with ⟨octets, codec⟩ | ⟨fault, codec⟩ <;>
    rw [encoded] at fed <;> cases fed
  rfl

/-- A packet that is encoded or not leaves the session to itself. -/
theorem kept_of_feed_ok (fed : feed z packet c = .ok () d) :
    d.state = c.state ∧ d.session = c.session := by
  have kept := feed_keeps (z := z) packet c
  rwa [fed] at kept

theorem kept_of_feed_error (fed : feed z packet c = .error fault d) :
    d.state = c.state ∧ d.session = c.session := by
  have kept := feed_keeps (z := z) packet c
  rwa [fed] at kept

/-- A packet that cannot be encoded leaves no octet behind. -/
theorem wire_of_feed_error (fed : feed z packet c = .error fault d) :
    d.written ++ d.outgoing = c.written ++ c.outgoing := by
  unfold feed at fed
  dsimp only at fed
  rw [← wire_of_full (c := c)]
  split at fed <;> cases fed
  rfl

theorem outgoing_of_feed_error (empty : c.outgoing = []) (fed : feed z packet c = .error fault d) :
    d.outgoing = [] := by
  have room : ¬ highWater ≤ c.outgoing.length := by
    rw [empty]
    decide
  simp only [feed, if_neg room] at fed
  split at fed <;> cases fed
  exact empty

end Conversation

namespace Task

variable {α : Type} {registries : StateRegistries (Session α)} {z : Zlib.Library} {t t' : Task α}
  {deed? : Option Deed}

theorem onWire_step (step : Step registries z t deed? t') :
    t'.onWire = t.onWire ++ deed?.toList.flatMap Deed.octets := by
  cases step
  case sent d packet rest fed =>
    have encoded := Conversation.wire_of_feed_ok fed
    simpa [onWire, conversation, Deed.octets, Conversation.count] using encoded
  case pushed d packet fresh fed =>
    have encoded := Conversation.wire_of_feed_ok fed
    simpa [onWire, conversation, Deed.octets] using encoded
  case unsent d packet rest fault fed =>
    have kept := Conversation.wire_of_feed_error fed
    simpa [onWire, conversation] using kept
  case unpushed d packet fresh fault fed =>
    have kept := Conversation.wire_of_feed_error fed
    simpa [onWire, conversation] using kept
  case broken count cause writes =>
    simp [onWire, conversation, List.append_assoc, List.take_append_drop]
  all_goals simp [onWire, conversation, Deed.octets, Conversation.count, Conversation.takeBatch,
    Conversation.moved, Conversation.flush]

/-- The octets under way are those that the log tells of. -/
theorem onWire_run (t : Task α) (moves : List Move) :
    (t.run registries z moves).onWire =
      t.onWire ++ (t.log registries z moves).flatMap Deed.octets := by
  induction moves generalizing t with
  | nil => exact (List.append_nil _).symm
  | cons move rest ih =>
    have first : (t.step registries z move).onWire = _ := onWire_step (step_turn t move)
    rw [log, List.flatMap_append, ← List.append_assoc, ← first]
    exact ih (t.step registries z move)

/-- The octets of a packet are its encoding. -/
def Framed (z : Zlib.Library) (log : List Deed) : Prop :=
  ∀ packet octets, .sent packet octets ∈ log ∨ .pushed packet octets ∈ log →
    ∃ codec codec', Codec.encode z packet codec = .ok octets codec'

theorem framed_step {log : List Deed} (framed : Framed z log) (step : Step registries z t deed? t') :
    Framed z (log ++ deed?.toList) := by
  intro packet octets found
  rw [List.mem_append, List.mem_append] at found
  rcases found with (earlier | last) | (earlier | last)
  · exact framed packet octets (.inl earlier)
  · cases step
    case sent fed =>
      cases List.mem_singleton.mp last
      exact ⟨_, _, Conversation.encode_of_feed_ok fed⟩
    all_goals simp at last
  · exact framed packet octets (.inr earlier)
  · cases step
    case pushed fed =>
      cases List.mem_singleton.mp last
      exact ⟨_, _, Conversation.encode_of_feed_ok fed⟩
    all_goals simp at last

end Task

end GameTransport
