import GameTransport.Handlers
import GameTransport.Proofs.Envelopes
import GameTransport.Proofs.Ledgers

/-! # Queued actions are carried out in the order of the queue

Handlers and hooks queue actions, and the task carries them out in batches.  A hook that runs in the
middle of a batch queues behind all that is queued already (`StateRegistries.QueueBehind`), also behind
what is left of that batch.  So at every moment the queue is what has been carried out, then what is
left of the batch, then what waits (`Ledger.Tells`), and that is the order in which it was queued.

What the stream carries depends on this order and on nothing else.  `Codec.passAll` goes through a
list of actions once, with no batches, hooks or states, and says what octets come of it; the layers in
front of a packet are the last ones switched on before it (`Codec.compression_of_passAll`,
`Codec.outbound?_of_passAll`).
-/

namespace GameTransport

/-! ### What actions put on the stream -/

/-- The compression that an action switches on. -/
def Action.compression? : Action → Option Compression
  | enableCompression threshold level => some ⟨threshold, level⟩
  | send _ | enableEncryption _ | transition _ | disconnect => none

/-- The secret under which an action switches encryption on. -/
def Action.secret? : Action → Option SharedSecret
  | enableEncryption secret => some secret
  | send _ | enableCompression _ _ | transition _ | disconnect => none

namespace Codec

variable {z : Zlib.Library} {codec middle after : Codec} {action : Action} {actions : List Action}
  {sent octets : Bytes}

/-- The octets that an action puts on the stream, and the codec after it. -/
def pass (z : Zlib.Library) (action : Action) : EStateM Fault Codec Bytes := fun codec =>
  match action with
  | .send packet => encode z packet codec
  | .enableCompression threshold level => .ok [] (codec.enableCompression threshold level)
  | .enableEncryption secret => .ok [] (codec.enableEncryption secret)
  | .transition _ | .disconnect => .ok [] codec

/-- The same for one action after another. -/
def passAll (z : Zlib.Library) : List Action → EStateM Fault Codec Bytes
  | [] => fun codec => .ok [] codec
  | action :: rest => fun codec =>
    match pass z action codec with
    | .error fault codec => .error fault codec
    | .ok octets codec =>
      match passAll z rest codec with
      | .error fault codec => .error fault codec
      | .ok more codec => .ok (octets ++ more) codec

theorem passAll_cons_eq_ok (passed : passAll z (action :: actions) codec = .ok sent after) :
    ∃ octets middle more, pass z action codec = .ok octets middle ∧
      passAll z actions middle = .ok more after ∧ sent = octets ++ more := by
  rcases first : pass z action codec with ⟨octets, middle⟩ | ⟨fault, middle⟩
  · rcases rest : passAll z actions middle with ⟨more, last⟩ | ⟨fault, last⟩
    · simp only [passAll, first, rest] at passed
      cases passed
      exact ⟨octets, middle, more, rfl, rest, rfl⟩
    · simp only [passAll, first, rest] at passed
      cases passed
  · simp only [passAll, first] at passed
    cases passed

/-- Actions may be gone through in two parts. -/
theorem passAll_append_eq_ok_iff {more : List Action} :
    passAll z (actions ++ more) codec = .ok sent after ↔
      ∃ earlier middle later, passAll z actions codec = .ok earlier middle ∧
        passAll z more middle = .ok later after ∧ sent = earlier ++ later := by
  induction actions generalizing codec sent with
  | nil =>
    constructor
    · intro passed
      exact ⟨[], codec, sent, rfl, passed, rfl⟩
    · rintro ⟨earlier, middle, later, first, second, rfl⟩
      cases first
      exact second
  | cons action rest ih =>
    constructor
    · intro passed
      obtain ⟨octets, middle, tail, first, others, rfl⟩ := passAll_cons_eq_ok passed
      obtain ⟨earlier, last, later, second, third, rfl⟩ := ih.mp others
      refine ⟨octets ++ earlier, last, later, ?_, third, by simp⟩
      simp only [passAll, first, second]
    · rintro ⟨earlier, middle, later, first, second, rfl⟩
      obtain ⟨octets, between, tail, one, others, rfl⟩ := passAll_cons_eq_ok first
      have joined := ih.mpr ⟨tail, middle, later, others, second, rfl⟩
      simp [passAll, one, joined]

theorem passAll_singleton (passed : pass z action codec = .ok octets after) :
    passAll z [action] codec = .ok octets after := by
  simp [passAll, passed]

theorem compression_of_pass (passed : pass z action codec = .ok octets after) :
    after.compression = action.compression?.or codec.compression := by
  cases action with
  | send packet =>
    obtain ⟨frame, -, ⟨-, -, rfl⟩ | ⟨cipher, -, -, rfl⟩⟩ := encode_eq_ok passed
    · rfl
    · rfl
  | enableCompression threshold level => cases passed; rfl
  | enableEncryption secret => cases passed; rfl
  | transition target => cases passed; rfl
  | disconnect => cases passed; rfl

theorem outbound?_of_pass (passed : pass z action codec = .ok octets after) :
    ∃ frame, after.outbound? =
      ((action.secret?.map fun secret => (Duplex.ofSecret secret).outbound).or
        codec.outbound?).map fun stream => (stream.encrypt frame).2 := by
  cases action with
  | send packet =>
    obtain ⟨frame, -, ⟨off, -, rfl⟩ | ⟨cipher, on, -, rfl⟩⟩ := encode_eq_ok passed
    · exact ⟨[], by simp [Action.secret?, outbound?, off]⟩
    · exact ⟨frame, by simp [Action.secret?, outbound?, on, Duplex.encrypt]⟩
  | enableEncryption secret =>
    cases passed
    exact ⟨[], rfl⟩
  | enableCompression threshold level =>
    cases passed
    exact ⟨[], by simp [Action.secret?, outbound?, enableCompression, Function.comp_def]⟩
  | transition target =>
    cases passed
    exact ⟨[], by simp [Action.secret?]⟩
  | disconnect =>
    cases passed
    exact ⟨[], by simp [Action.secret?]⟩

/-- The compression of a codec is the one that was switched on last. -/
theorem compression_of_passAll (passed : passAll z actions codec = .ok sent after) :
    after.compression = (actions.filterMap Action.compression?).getLast?.or codec.compression := by
  induction actions generalizing codec sent with
  | nil =>
    cases passed
    rfl
  | cons action rest ih =>
    obtain ⟨octets, middle, more, first, others, rfl⟩ := passAll_cons_eq_ok passed
    rw [ih others, compression_of_pass first, List.filterMap_cons]
    rcases action.compression? with _ | compression
    · rfl
    · dsimp only
      rw [List.getLast?_cons]
      rcases (rest.filterMap Action.compression?).getLast? with _ | last <;> rfl

/-- The stream out is the one of the secret that was switched on last, as far as it has come since. -/
theorem outbound?_of_passAll (passed : passAll z actions codec = .ok sent after) :
    ∃ earlier, after.outbound? =
      (((actions.filterMap Action.secret?).getLast?.map fun secret =>
        (Duplex.ofSecret secret).outbound).or codec.outbound?).map fun stream =>
          (stream.encrypt earlier).2 := by
  induction actions generalizing codec sent with
  | nil =>
    cases passed
    exact ⟨[], by simp⟩
  | cons action rest ih =>
    obtain ⟨octets, middle, more, first, others, rfl⟩ := passAll_cons_eq_ok passed
    obtain ⟨frame, start⟩ := outbound?_of_pass first
    obtain ⟨earlier, last⟩ := ih others
    rw [List.filterMap_cons]
    by_cases anew : (rest.filterMap Action.secret?).getLast? = none
    · -- The frame of this action is the first of what has gone out since.
      refine ⟨frame ++ earlier, ?_⟩
      rw [last, anew, start]
      rcases action.secret? with _ | secret
      · simp [anew, Cfb8.encrypt_append, Function.comp_def]
      · dsimp only
        rw [List.getLast?_cons, anew]
        simp [Cfb8.encrypt_append]
    · obtain ⟨secret, standing⟩ := Option.ne_none_iff_exists'.mp anew
      refine ⟨earlier, ?_⟩
      rw [last, standing]
      rcases action.secret? with _ | other
      · simp [standing]
      · dsimp only
        rw [List.getLast?_cons, standing]
        rfl

/-- A packet is encoded by the codec that the actions before it have left. -/
theorem encode_of_passAll {before later : List Action} {packet : Bytes}
    (passed : passAll z (before ++ .send packet :: later) codec = .ok sent after) :
    ∃ earlier middle octets next, passAll z before codec = .ok earlier middle ∧
      encode z packet middle = .ok octets next ∧ earlier ++ octets <+: sent := by
  obtain ⟨earlier, middle, rest, first, others, rfl⟩ := passAll_append_eq_ok_iff.mp passed
  obtain ⟨octets, next, more, encoded, -, rfl⟩ := passAll_cons_eq_ok others
  exact ⟨earlier, middle, octets, next, first, encoded, more, by simp⟩

end Codec

/-! ### Hooks queue behind -/

variable {α : Type} {registries : StateRegistries (Session α)} {z : Zlib.Library}

/-- The hooks leave alone what is queued.  They may queue more, behind it. -/
def StateRegistries.QueueBehind (registries : StateRegistries (Session α)) : Prop :=
  ∀ state session, session.actions <+: ((registries.active state).attach session).actions ∧
    session.actions <+: ((registries.active state).detach session).actions

/-- The default hooks queue nothing. -/
theorem Handlers.queueBehind :
    (Handlers.registries : StateRegistries (Session α)).QueueBehind := by
  intro state session
  cases state <;> exact ⟨List.prefix_rfl, List.prefix_rfl⟩

namespace Conversation

variable {c d : Conversation α} {action : Action} {goesOn : Bool} {fault : Fault} {octets : Bytes}

/-- An action that is carried out leaves alone what is queued. -/
theorem actions_prefix_of_perform (behind : registries.QueueBehind)
    (performed : perform z registries action c = .ok goesOn d) :
    c.session.actions <+: d.session.actions := by
  rcases moved_or_kept_of_perform performed with
    ⟨target, -, -, rfl⟩ | ⟨-, -, change, session⟩
  · have attached := (behind target c.session).1
    have detached := (behind c.state ((registries.active target).attach c.session)).2
    exact attached.trans detached
  · rw [session]
    exact List.prefix_rfl

/-- What an action puts on the stream is its pass through the codec. -/
theorem pass_of_perform (performed : perform z registries action c = .ok goesOn d) :
    ∃ octets, Codec.pass z action c.codec = .ok octets d.codec ∧
      d.written ++ d.outgoing = c.written ++ c.outgoing ++ octets := by
  cases action with
  | send packet =>
    rw [perform] at performed
    rcases fed : feed z packet c with ⟨⟨⟩, e⟩ | ⟨fault, e⟩
    · rw [fed] at performed
      cases performed
      have encoded := encode_of_feed_ok fed
      have wire := wire_of_feed_ok fed
      exact ⟨_, encoded, wire⟩
    · rw [fed] at performed
      cases performed
  | transition target =>
    by_cases allowed : c.state.canMoveTo target
    · rw [perform_transition_of_canMoveTo allowed] at performed
      cases performed
      exact ⟨[], rfl, by simp [moved]⟩
    · rw [perform_transition_of_not_canMoveTo allowed] at performed
      cases performed
  | enableCompression threshold level =>
    cases performed
    exact ⟨[], rfl, by simp⟩
  | enableEncryption secret =>
    cases performed
    exact ⟨[], rfl, by simp⟩
  | disconnect =>
    cases performed
    exact ⟨[], rfl, by simp⟩

/-- An action that fails puts nothing on the stream. -/
theorem wire_of_perform_error (failed : perform z registries action c = .error fault d) :
    d.codec = c.codec ∧ d.written ++ d.outgoing = c.written ++ c.outgoing := by
  cases action with
  | send packet =>
    rw [perform] at failed
    rcases fed : feed z packet c with ⟨⟨⟩, e⟩ | ⟨fault', e⟩
    · rw [fed] at failed
      cases failed
    · rw [fed] at failed
      cases failed
      exact ⟨Codec.encode_eq_error (encode_of_feed_error fed), wire_of_feed_error fed⟩
  | transition target =>
    by_cases allowed : c.state.canMoveTo target
    · rw [perform_transition_of_canMoveTo allowed] at failed
      cases failed
    · rw [perform_transition_of_not_canMoveTo allowed] at failed
      cases failed
      exact ⟨rfl, rfl⟩
  | enableCompression threshold level => cases failed
  | enableEncryption secret => cases failed
  | disconnect => cases failed

end Conversation

/-! ### What the ledger tells -/

namespace Ledger

/-- The last action that was carried out is the first `disconnect` in the queue. -/
def Disconnects (ledger : Ledger) : Prop :=
  ∃ before later, .disconnect ∉ before ∧ ledger.carried = before ++ [.disconnect] ∧
    ledger.queued = ledger.carried ++ later

/-- Why the work on a queue failed: an action was refused, or the stream did not take octets. -/
inductive Fails (registries : StateRegistries (Session α)) (z : Zlib.Library) (ledger : Ledger)
    (after : Conversation α) : Fault → Prop where
  /-- The next action fails. -/
  | refused {c : Conversation α} {action : Action} {later : List Action} {fault : Fault}
    (ongoing : .disconnect ∉ ledger.carried)
    (next : ledger.queued = ledger.carried ++ action :: later)
    (failed : c.perform z registries action = .error fault after) :
    Fails registries z ledger after fault
  /-- There was no room for the next packet. -/
  | unsent {packet : Bytes} {later : List Action} {cause : StreamFault}
    (ongoing : .disconnect ∉ ledger.carried)
    (next : ledger.queued = ledger.carried ++ .send packet :: later) :
    Fails registries z ledger after (.stream cause)
  /-- All actions have been carried out, and what they encoded is not written. -/
  | unwritten {cause : StreamFault} (ongoing : .disconnect ∉ ledger.carried)
    (all : ledger.queued = ledger.carried) : Fails registries z ledger after (.stream cause)
  | unclosed {cause : StreamFault} (disconnects : ledger.Disconnects) :
    Fails registries z ledger after (.stream cause)

/-- What has become of the queue, by the moment that the task has come to. -/
def Tells (registries : StateRegistries (Session α)) (z : Zlib.Library) (ledger : Ledger)
    (t : Task α) : Prop :=
  match t.moment with
  | .acting left => .disconnect ∉ ledger.carried ∧
    ledger.queued = ledger.carried ++ left ++ t.conversation.session.actions
  | .waiting true => .disconnect ∉ ledger.carried ∧ ledger.queued = ledger.carried ∧
    t.conversation.session.actions = [] ∧ t.conversation.outgoing = []
  | .closing => ledger.Disconnects
  | .ending (.ok ()) => ledger.Disconnects ∧ t.conversation.outgoing = []
  | .ending (.error fault) => ledger.Fails registries z t.conversation fault
  | _ => False

variable {t t' : Task α} {ledger ledger' : Ledger}

theorem fails_of_broken {c : Connection α} {moment : Moment} {cause : StreamFault}
    {after : Conversation α} (tells : ledger.Tells registries z ⟨c, moment⟩)
    (writes : Task.writes ⟨c, moment⟩) :
    ledger.Fails registries z after (.stream cause) := by
  cases moment with
  | closing => exact .unclosed tells
  | acting left =>
    obtain ⟨ongoing, order⟩ := tells
    rcases left with _ | ⟨action, rest⟩
    · have idle : c.conversation.session.actions = [] := by
        simpa [Task.writes, Session.hasPendingActions] using writes
      refine .unwritten ongoing ?_
      simpa [idle] using order
    · cases action with
      | send packet =>
        have next : ledger.queued =
            ledger.carried ++ .send packet :: (rest ++ c.conversation.session.actions) := by
          simpa using order
        exact .unsent ongoing next
      | _ => cases writes
  | writing fresh => exact tells.elim
  | _ => cases writes

/-- **A stride keeps the order of the queue.** -/
theorem Tells.stride (behind : registries.QueueBehind) (tells : ledger.Tells registries z t)
    (stride : Task.Stride registries z t ledger t' ledger') : ledger'.Tells registries z t' := by
  cases stride with
  | elsewhere same =>
    simp only [Tells, Task.conversation_mk, same]
    exact tells
  | broken writes => exact fails_of_broken tells writes
  | batch pending =>
    obtain ⟨ongoing, order⟩ := tells
    refine ⟨ongoing, ?_⟩
    -- What waits becomes the batch, and nothing waits.
    have taken : ledger.queued = ledger.carried ++ [] ++ _ := order
    simpa [Conversation.takeBatch, Session.takeActions] using taken
  | @carried c d action rest _ performed =>
    obtain ⟨ongoing, order⟩ := tells
    obtain ⟨more, further⟩ := Conversation.actions_prefix_of_perform behind performed
    have goes : action ≠ .disconnect := by
      rintro rfl
      cases performed
    refine ⟨by simp [ongoing, goes.symm], ?_⟩
    -- `more` is what hooks have queued: behind what waits, so behind the batch as well.
    have queued : ledger.queued =
        ledger.carried ++ action :: rest ++ c.conversation.session.actions := order
    simp [queued, ← further]
  | @disconnected c rest =>
    obtain ⟨ongoing, order⟩ := tells
    have next : ledger.queued =
        ledger.carried ++ .disconnect :: (rest ++ c.conversation.session.actions) := by
      simpa using order
    exact ⟨ledger.carried, rest ++ c.conversation.session.actions, ongoing, rfl, by simp [next]⟩
  | @failed c d action rest _ fault performed =>
    obtain ⟨ongoing, order⟩ := tells
    have next : ledger.queued =
        ledger.carried ++ action :: (rest ++ c.conversation.session.actions) := by
      simpa using order
    exact .refused ongoing next performed
  | flushed idle =>
    obtain ⟨ongoing, order⟩ := tells
    have queued : ledger.queued = ledger.carried ++ [] ++ _ := order
    exact ⟨ongoing, by simpa [idle] using queued, idle, rfl⟩
  | closed => exact ⟨tells, rfl⟩

/-- The octets that wait or were written are those of the actions that were carried out. -/
def Sends (z : Zlib.Library) (start : Task α) (ledger : Ledger) (t : Task α) : Prop :=
  ∃ sent, Codec.passAll z ledger.carried start.conversation.codec = .ok sent t.conversation.codec ∧
    t.onWire = start.onWire ++ sent

variable {start : Task α}

/-- Moving octets on adds none. -/
theorem Sends.of_same (sends : ledger.Sends z start t) (carried : ledger'.carried = ledger.carried)
    (codec : t'.conversation.codec = t.conversation.codec) (wire : t'.onWire = t.onWire) :
    ledger'.Sends z start t' := by
  obtain ⟨sent, passed, whole⟩ := sends
  exact ⟨sent, by rw [carried, codec, passed], by rw [wire, whole]⟩

theorem Sends.of_pass {action : Action} {octets : Bytes} (sends : ledger.Sends z start t)
    (carried : ledger'.carried = ledger.carried ++ [action])
    (passed : Codec.pass z action t.conversation.codec = .ok octets t'.conversation.codec)
    (wire : t'.onWire = t.onWire ++ octets) : ledger'.Sends z start t' := by
  obtain ⟨sent, earlier, whole⟩ := sends
  refine ⟨sent ++ octets, ?_, by rw [wire, whole, List.append_assoc]⟩
  rw [carried]
  exact Codec.passAll_append_eq_ok_iff.mpr
    ⟨sent, _, octets, earlier, Codec.passAll_singleton passed, rfl⟩

/-- **A stride puts on the stream what its action comes to.** -/
theorem Sends.stride (sends : ledger.Sends z start t)
    (stride : Task.Stride registries z t ledger t' ledger') : ledger'.Sends z start t' := by
  cases stride with
  | elsewhere same =>
    have codec := congrArg Conversation.codec same
    have written := congrArg Conversation.written same
    have outgoing := congrArg Conversation.outgoing same
    exact sends.of_same rfl codec (congrArg₂ (· ++ ·) written outgoing)
  | broken writes =>
    exact sends.of_same rfl rfl (by simp [Task.onWire])
  | batch pending => exact sends.of_same rfl rfl rfl
  | carried performed =>
    obtain ⟨octets, passed, wire⟩ := Conversation.pass_of_perform performed
    exact sends.of_pass rfl passed wire
  | disconnected => exact sends.of_pass rfl rfl (List.append_nil _).symm
  | failed performed =>
    obtain ⟨codec, wire⟩ := Conversation.wire_of_perform_error performed
    exact sends.of_same rfl codec wire
  | flushed idle => exact sends.of_same rfl rfl (by simp [Task.onWire, Conversation.flush])
  | closed => exact sends.of_same rfl rfl (by simp [Task.onWire, Conversation.flush])

/-- What was carried out is a front of the queue, and ends with the first `disconnect`. -/
theorem Tells.front (tells : ledger.Tells registries z t) :
    ledger.carried <+: ledger.queued ∧ .disconnect ∉ ledger.carried.dropLast := by
  have going (ongoing : .disconnect ∉ ledger.carried) : .disconnect ∉ ledger.carried.dropLast :=
    fun early => ongoing (List.dropLast_subset _ early)
  have gone (disconnects : ledger.Disconnects) :
      ledger.carried <+: ledger.queued ∧ .disconnect ∉ ledger.carried.dropLast := by
    obtain ⟨before, later, first, carried, queued⟩ := disconnects
    refine ⟨⟨later, queued.symm⟩, ?_⟩
    rw [carried, List.dropLast_concat]
    exact first
  obtain ⟨c, moment⟩ := t
  cases moment with
  | acting left =>
    obtain ⟨ongoing, order⟩ := tells
    exact ⟨⟨left ++ c.conversation.session.actions, by simp [order]⟩, going ongoing⟩
  | waiting fresh =>
    cases fresh with
    | false => exact tells.elim
    | true =>
      obtain ⟨ongoing, all, -⟩ := tells
      exact ⟨⟨[], by simp [all]⟩, going ongoing⟩
  | closing => exact gone tells
  | ending result =>
    rcases result with fault | ⟨⟨⟩⟩
    · cases tells with
      | refused ongoing next failed => exact ⟨⟨_, next.symm⟩, going ongoing⟩
      | unsent ongoing next => exact ⟨⟨_, next.symm⟩, going ongoing⟩
      | unwritten ongoing all => exact ⟨⟨[], by simp [all]⟩, going ongoing⟩
      | unclosed disconnects => exact gone disconnects
    · exact gone tells.1
  | _ => exact tells.elim

/-- A call that returns has written everything, and says whether it has come to a `disconnect`. -/
theorem Tells.returned (tells : ledger.Tells registries z t)
    (returned : t.moment = .waiting true ∨ t.moment = .ending (.ok ())) :
    t.conversation.outgoing = [] ∧
      (t.moment = .ending (.ok ()) ↔ .disconnect ∈ ledger.carried) ∧
      (.disconnect ∉ ledger.carried →
        ledger.carried = ledger.queued ∧ t.conversation.session.actions = []) := by
  rcases returned with waits | ended
  · rw [Tells, waits] at tells
    obtain ⟨ongoing, all, idle, outgoing⟩ := tells
    have goes : t.moment ≠ .ending (.ok ()) := by simp [waits]
    exact ⟨outgoing, iff_of_false goes ongoing, fun _ => ⟨all.symm, idle⟩⟩
  · rw [Tells, ended] at tells
    obtain ⟨⟨before, later, -, carried, -⟩, outgoing⟩ := tells
    have met : .disconnect ∈ ledger.carried := by simp [carried]
    exact ⟨outgoing, iff_of_true ended met, fun ongoing => absurd met ongoing⟩

end Ledger

namespace Task

/-- **Queued actions are carried out in the order of the queue.**  Whatever is queued, whatever the
hooks queue in the course of it and whatever happens in between: the actions that were carried out
are the queue up to the first `disconnect` or the first failure (`Ledger.Tells`), and what they put on
the stream is their passage through the codec, each packet under the layers that were switched on last
before it.  When the work has ended without a fault, all of that is written. -/
theorem actions_carried_out_as_queued (behind : registries.QueueBehind) (z : Zlib.Library)
    (c : Connection α) (moves : List Move) :
    let call := carry registries z moves ⟨c, .acting []⟩ { queued := c.conversation.session.actions }
    call.2.Tells registries z call.1 ∧
    call.2.carried <+: call.2.queued ∧ .disconnect ∉ call.2.carried.dropLast ∧
    ∃ sent,
      Codec.passAll z call.2.carried c.conversation.codec = .ok sent call.1.conversation.codec ∧
      call.1.onWire = c.conversation.written ++ c.conversation.outgoing ++ sent ∧
      (∀ before packet later, call.2.carried = before ++ .send packet :: later →
        ∃ earlier codec octets next,
          Codec.passAll z before c.conversation.codec = .ok earlier codec ∧
          codec.compression = (before.filterMap Action.compression?).getLast?.or
            c.conversation.codec.compression ∧
          (∃ since, codec.outbound? = (((before.filterMap Action.secret?).getLast?.map fun secret =>
            (Duplex.ofSecret secret).outbound).or c.conversation.codec.outbound?).map fun stream =>
              (stream.encrypt since).2) ∧
          Codec.encode z packet codec = .ok octets next ∧ earlier ++ octets <+: sent) ∧
      (call.1.moment = .waiting true ∨ call.1.moment = .ending (.ok ()) →
        call.1.conversation.written = c.conversation.written ++ c.conversation.outgoing ++ sent ∧
        (call.1.moment = .ending (.ok ()) ↔ .disconnect ∈ call.2.carried) ∧
        (.disconnect ∉ call.2.carried →
          call.2.carried = call.2.queued ∧ call.1.conversation.session.actions = [])) := by
  intro call
  let first : Ledger := { queued := c.conversation.session.actions }
  have tells : call.2.Tells registries z call.1 := by
    have start : first.Tells registries z ⟨c, .acting []⟩ := ⟨List.not_mem_nil, rfl⟩
    exact carry_induction (P := fun t ledger => ledger.Tells registries z t)
      (fun _ _ _ _ tells stride => tells.stride behind stride) start moves
  have sends : call.2.Sends z ⟨c, .acting []⟩ call.1 := by
    have start : first.Sends z ⟨c, .acting []⟩ ⟨c, .acting []⟩ := ⟨[], rfl, (List.append_nil _).symm⟩
    exact carry_induction (P := fun t ledger => ledger.Sends z ⟨c, .acting []⟩ t)
      (fun _ _ _ _ sends stride => sends.stride stride) start moves
  obtain ⟨front, once⟩ := tells.front
  obtain ⟨sent, passed, wire⟩ := sends
  refine ⟨tells, front, once, sent, passed, wire, ?_, ?_⟩
  · intro before packet later split
    rw [split] at passed
    obtain ⟨earlier, codec, octets, next, come, encoded, within⟩ := Codec.encode_of_passAll passed
    exact ⟨earlier, codec, octets, next, come, Codec.compression_of_passAll come,
      Codec.outbound?_of_passAll come, encoded, within⟩
  · intro returned
    obtain ⟨outgoing, met, all⟩ := tells.returned returned
    rw [onWire, outgoing, List.append_nil] at wire
    exact ⟨wire, met, all⟩

/-- On coming to STATUS, a packet and the end of the connection are queued, and one more packet on
leaving HANDSHAKING. -/
def parting : StateRegistries (Session Unit) where
  handshaking :=
    (Registry.Builder.onDetach { name := "HANDSHAKING" } (·.queue (.send [3]))).build
  status :=
    (Registry.Builder.onAttach { name := "STATUS" } fun session =>
      (session.queue (.send [2])).disconnect).build
  login := Registry.Builder.build { name := "LOGIN" }
  play := Registry.Builder.build { name := "PLAY" }

theorem parting_queueBehind : parting.QueueBehind := by
  intro state session
  cases state with
  | handshaking => exact ⟨List.prefix_rfl, List.prefix_append _ _⟩
  | status =>
    exact ⟨(List.prefix_append _ _).trans (List.prefix_append _ _), List.prefix_rfl⟩
  | login => exact ⟨List.prefix_rfl, List.prefix_rfl⟩
  | play => exact ⟨List.prefix_rfl, List.prefix_rfl⟩

/-- A connection in HANDSHAKING with a transition between two packets in its queue. -/
def departing : Connection Unit where
  conversation :=
    { session :=
        { id := ⟨1⟩
          peer := none
          server := { config := {}, key := none }
          actions := [.send [0], .transition .status, .send [1]]
          entropy := ⟨fun _ => 0, 0⟩
          app := () } }
  readTimeout := ⟨30⟩

/-- What becomes of its queue. -/
def departed : Task Unit × Ledger :=
  carry parting .stored (List.replicate 9 .proceed) ⟨departing, .acting []⟩
    { queued := departing.conversation.session.actions }

/-- What the hooks queue comes behind the rest of the batch, and nothing after the `disconnect`. -/
theorem actions_carried_out_as_queued_parting :
    parting.QueueBehind ∧
    departed.1.moment = .ending (.ok ()) ∧
    departed.2.queued =
      [.send [0], .transition .status, .send [1], .send [2], .disconnect, .send [3]] ∧
    departed.2.carried = [.send [0], .transition .status, .send [1], .send [2], .disconnect] ∧
    ∃ sent, Codec.passAll .stored departed.2.carried {} = .ok sent departed.1.conversation.codec ∧
      departed.1.conversation.written = sent := by
  have ended : departed.1.moment = .ending (.ok ()) := by
    with_unfolding_all rfl
  have queued : departed.2.queued =
      [.send [0], .transition .status, .send [1], .send [2], .disconnect, .send [3]] := by
    decide +kernel
  have carried : departed.2.carried =
      [.send [0], .transition .status, .send [1], .send [2], .disconnect] := by
    decide +kernel
  obtain ⟨-, -, -, sent, passed, -, -, returned⟩ :=
    actions_carried_out_as_queued parting_queueBehind .stored departing (List.replicate 9 .proceed)
  exact ⟨parting_queueBehind, ended, queued, carried, sent, passed, (returned (.inr ended)).1⟩

end Task

end GameTransport
