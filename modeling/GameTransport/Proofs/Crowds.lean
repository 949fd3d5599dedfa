import GameTransport.Crowd
import GameTransport.Proofs.Callbacks

/-! # Tasks and crowds without the record

Over recorded registries a task keeps the record that `Connection.calls` is read off, and otherwise
makes the same moves: what is told of them is the same, and so is the task with the record left out
(`Task.turn_recorded`).  So it is with a crowd (`Crowd.run_recorded`), whatever the order of turns.
-/

namespace GameTransport

variable {α : Type} {registries : StateRegistries (Session α)}

/-! ## Tasks without the record -/

namespace Task

/-- The task without the record. -/
def plain (t : Task (Recorded α)) : Task α := ⟨t.connection.plain, t.moment⟩

/-- What a move comes to, without the record. -/
def unrecorded (outcome : Option Deed × Task (Recorded α)) : Option Deed × Task α :=
  (outcome.1, outcome.2.plain)

variable (z : Zlib.Library) (t : Task (Recorded α))

theorem look_plain : unrecorded (t.look z) = t.plain.look z := by
  unfold look
  dsimp only
  rcases outcome : Codec.decode z ⟨t.conversation.codec, t.connection.buffer⟩ with
    ⟨_ | payload, inlet⟩ | ⟨fault, inlet⟩ <;>
    rw [show Codec.decode z ⟨t.plain.conversation.codec, t.plain.connection.buffer⟩ = _ from
      outcome] <;>
    rfl

theorem hear_recorded (payload : Bytes) :
    unrecorded (t.hear registries.recorded payload) = t.plain.hear registries payload := by
  have served := @Conversation.dispatch_recorded α registries t.conversation payload
  unfold hear
  dsimp only
  rw [show t.plain.conversation.dispatch registries payload = _ from served.symm]
  rcases t.conversation.dispatch registries.recorded payload with ⟨given, d⟩ | ⟨fault, d⟩ <;> rfl

theorem act_recorded (left : List Action) :
    unrecorded (t.act registries.recorded z left) = t.plain.act registries z left := by
  cases left with
  | nil =>
    unfold act
    by_cases pending : t.conversation.session.hasPendingActions
    · have pending' : t.plain.conversation.session.hasPendingActions := pending
      simp only [if_pos pending, if_pos pending']
      rfl
    · have idle : ¬ t.plain.conversation.session.hasPendingActions := pending
      simp only [if_neg pending, if_neg idle]
      rfl
  | cons action rest =>
    have performed := @Conversation.perform_recorded α registries z t.conversation action
    unfold act
    dsimp only
    rw [show t.plain.conversation.perform z registries action = _ from performed.symm]
    rcases t.conversation.perform z registries.recorded action with ⟨_ | _, d⟩ | ⟨fault, d⟩
    · rfl
    · cases action <;> rfl
    · rfl

theorem encode_plain (packet : Bytes) (fresh : Bool) :
    unrecorded (t.encode z packet fresh) = t.plain.encode z packet fresh := by
  have fed := Conversation.feed_plain z t.conversation packet
  unfold encode
  dsimp only
  rw [show t.plain.conversation.feed z packet = _ from fed.symm]
  rcases t.conversation.feed z packet with ⟨_, d⟩ | ⟨fault, d⟩ <;> rfl

theorem finale_recorded (result : Except Fault Unit) :
    unrecorded (t.finale registries.recorded result) = t.plain.finale registries result := by
  rcases result with fault | ⟨⟨⟩⟩
  · have caught := @Conversation.caught_recorded α registries t.conversation fault
    simp only [finale, unrecorded, plain, Connection.plain, caught, Conversation.active,
      StateRegistries.active_recorded]
    rfl
  · rfl

theorem proceed_recorded :
    unrecorded (t.proceed registries.recorded z) = t.plain.proceed registries z := by
  obtain ⟨c, moment⟩ := t
  cases moment with
  | accepted => rfl
  | entering =>
    simp only [proceed, Conversation.active, StateRegistries.active_recorded]
    rfl
  | waiting fresh =>
    cases fresh with
    | false => rfl
    | true => exact look_plain z _
  | hearing payload => exact hear_recorded _ payload
  | acting left => exact act_recorded z _ left
  | posting packet fresh => exact encode_plain z _ packet fresh
  | writing fresh => rfl
  | closing => rfl
  | ending result => exact finale_recorded _ result
  | leaving result =>
    simp only [proceed, Conversation.active, StateRegistries.active_recorded]
    rfl
  | left result => rfl
  | ended result => rfl

theorem receive_plain (octets : Bytes) : unrecorded (t.receive octets) = t.plain.receive octets := by
  obtain ⟨⟨c, readTimeout, phase, buffer, mailbox, silence, notes⟩, moment⟩ := t
  unfold receive
  split
  · rename_i first rest waits opening
    cases waits
    cases opening
    by_cases old : first = LegacyPing.opening
    · simp only [if_pos old, plain, Connection.plain]
      rfl
    · simp only [if_neg old, plain, Connection.plain]
      rfl
  · rename_i waits serving
    cases waits
    cases serving
    rfl
  · rename_i other serving
    split
    · rename_i waits opening
      exact (other _ _ rfl waits opening).elim
    · rename_i waits opening
      exact (serving _ _ rfl waits opening).elim
    · rfl

theorem finish_plain : unrecorded t.finish = t.plain.finish := by
  obtain ⟨⟨c, readTimeout, phase, buffer, mailbox, silence, notes⟩, moment⟩ := t
  cases moment with
  | waiting fresh =>
    cases fresh with
    | false =>
      cases phase with
      | serving => cases buffer <;> rfl
      | opening => rfl
      | closed result => rfl
    | true => rfl
  | _ => rfl

theorem cut_plain (cause : StreamFault) (count : Nat) :
    unrecorded (t.cut cause count) = t.plain.cut cause count := by
  unfold cut
  dsimp only
  by_cases writes : t.writes
  · rw [if_pos writes, if_pos (show t.plain.writes from writes)]
    rfl
  · rw [if_neg writes, if_neg (show ¬ t.plain.writes from writes)]
    obtain ⟨⟨c, readTimeout, phase, buffer, mailbox, silence, notes⟩, moment⟩ := t
    cases moment with
    | waiting fresh => cases fresh <;> cases phase <;> rfl
    | _ => rfl

theorem expire_plain : unrecorded t.expire = t.plain.expire := by
  obtain ⟨c, moment⟩ := t
  cases moment with
  | waiting fresh =>
    unfold expire
    dsimp only
    by_cases late : c.readTimeout.nanos ≤ c.silence.nanos
    · rw [if_pos late, if_pos (by exact late)]
      rfl
    · rw [if_neg late, if_neg (by exact late)]
      rfl
  | _ => rfl

theorem deliver_plain : unrecorded t.deliver = t.plain.deliver := by
  obtain ⟨⟨c, readTimeout, phase, buffer, mailbox, silence, notes⟩, moment⟩ := t
  cases moment with
  | waiting fresh =>
    cases phase with
    | serving => rcases mailbox with _ | ⟨_ | _, rest⟩ <;> rfl
    | opening => rfl
    | closed result => rfl
  | _ => rfl

theorem post_plain (message : Message) : unrecorded (t.post message) = t.plain.post message := by
  unfold post Connection.post
  by_cases refused : (t.connection.isClosed ||
    Connection.mailboxSize ≤ t.connection.mailbox.length) = true
  · rw [if_pos refused, if_pos (by exact refused)]
    rfl
  · rw [if_neg refused, if_neg (by exact refused)]
    rfl

theorem elapse_plain (time : Duration) : (t.elapse time).plain = t.plain.elapse time := by
  unfold elapse
  by_cases closed : t.connection.isClosed
  · rw [if_pos closed, if_pos (by exact closed)]
  · rw [if_neg closed, if_neg (by exact closed)]
    rfl

/-- **Recording leaves a task alone**, and so what is told of it. -/
theorem turn_recorded (move : Move) :
    unrecorded (t.turn registries.recorded z move) = t.plain.turn registries z move := by
  cases move with
  | post message => exact post_plain t message
  | elapse time => exact congrArg (none, ·) (elapse_plain t time)
  | receive octets => exact receive_plain t octets
  | finish => exact finish_plain t
  | cut cause count => exact cut_plain t cause count
  | expire => exact expire_plain t
  | deliver => exact deliver_plain t
  | proceed => exact proceed_recorded z t

theorem step_recorded (move : Move) :
    (t.step registries.recorded z move).plain = t.plain.step registries z move :=
  congrArg Prod.snd (turn_recorded z t move)

end Task

/-! ## Crowds without the record -/

/-- The same turn over recorded registries. -/
def Turn.recorded : Turn α → Turn (Recorded α)
  | accept id peer entropy app => .accept id peer entropy (app, [])
  | move place step => .move place step

namespace Crowd

/-- The crowd without the records. -/
def plain (crowd : Crowd (Recorded α)) : Crowd α := ⟨crowd.context, crowd.tasks.map Task.plain⟩

variable (z : Zlib.Library) (crowd : Crowd (Recorded α))

theorem move_recorded (place : Nat) (move : Move) :
    (crowd.move registries.recorded z place move).plain =
      crowd.plain.move registries z place move := by
  have found : crowd.plain.tasks[place]? = crowd.tasks[place]?.map Task.plain := List.getElem?_map
  unfold Crowd.move
  rw [found]
  rcases crowd.tasks[place]? with _ | t
  · rfl
  · have moved := @Task.step_recorded α registries z (t.lend crowd.metrics) move
    rw [Option.map_some]
    dsimp only
    rw [show t.plain.lend crowd.plain.metrics = (t.lend crowd.metrics).plain from rfl, ← moved, plain,
      List.map_set]
    rfl

theorem step_recorded (turn : Turn α) :
    (crowd.step registries.recorded z turn.recorded).plain = crowd.plain.step registries z turn := by
  cases turn with
  | accept id peer entropy app => exact congrArg (Crowd.mk crowd.context) List.map_append
  | move place move => exact move_recorded z crowd place move

/-- **Recording leaves a crowd alone**: without the records, it is the crowd over the registries
themselves. -/
theorem run_recorded (turns : List (Turn α)) :
    (crowd.run registries.recorded z (turns.map Turn.recorded)).plain =
      crowd.plain.run registries z turns := by
  unfold run
  induction turns generalizing crowd with
  | nil => rfl
  | cons turn rest ih => rw [List.map_cons, List.foldl_cons, List.foldl_cons, ih, step_recorded]

end Crowd

end GameTransport
