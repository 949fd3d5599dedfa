import GameTransport.Connection
import GameTransport.Proofs.Conversations

/-! # What is written stays written

Nothing takes back octets that a connection has written: whatever happens to it, they stay the first
that its client gets to see (`Connection.written_prefix_run`). -/

namespace GameTransport

/-- The state of a result, whether it is a fault or not. -/
def stateOf {ε σ β : Type} : EStateM.Result ε σ β → σ
  | .ok _ s => s
  | .error _ s => s

namespace Conversation

variable {α : Type} (z : Zlib.Library) (registries : StateRegistries (Session α))
  (c : Conversation α)

theorem written_prefix_flush : c.written <+: c.flush.written := List.prefix_append _ _

theorem written_prefix_feed (packet : Bytes) : c.written <+: (stateOf (feed z packet c)).written := by
  have before : c.written <+: (if highWater ≤ c.outgoing.length then c.flush else c).written := by
    split
    · exact written_prefix_flush c
    · exact List.prefix_rfl
  unfold feed
  dsimp only
  split
  · exact before
  · exact before

theorem written_prefix_perform (action : Action) :
    c.written <+: (stateOf (perform z registries action c)).written := by
  cases action with
  | send packet =>
    have fed := written_prefix_feed z c packet
    unfold perform
    dsimp only
    rcases outcome : feed z packet c with ⟨_, d⟩ | ⟨fault, d⟩
    · rw [outcome] at fed
      exact fed
    · rw [outcome] at fed
      exact fed
  | transition target =>
    unfold perform move
    dsimp only
    rcases registries.transition c.state target c.session with fault | session
    · exact List.prefix_rfl
    · exact List.prefix_rfl
  | enableCompression threshold level => exact List.prefix_rfl
  | enableEncryption secret => exact List.prefix_rfl
  | disconnect => exact List.prefix_rfl

theorem written_prefix_performAll (batch : List Action) :
    c.written <+: (stateOf (performAll z registries batch c)).written := by
  induction batch generalizing c with
  | nil => exact List.prefix_rfl
  | cons action rest ih =>
    have first := written_prefix_perform z registries c action
    rw [performAll]
    rcases outcome : perform z registries action c with ⟨_ | _, d⟩ | ⟨fault, d⟩
    · rw [outcome] at first
      exact first
    · rw [outcome] at first
      exact first.trans (ih d)
    · rw [outcome] at first
      exact first

theorem written_prefix_carryOut : c.written <+: (stateOf (carryOut z registries c)).written := by
  fun_induction carryOut z registries c with
  | case1 c pending d performed ih =>
    have batch := written_prefix_performAll z registries c.takeBatch.2 c.takeBatch.1
    rw [performed] at batch
    exact List.IsPrefix.trans batch ih
  | case2 c pending d performed =>
    have batch := written_prefix_performAll z registries c.takeBatch.2 c.takeBatch.1
    rw [performed] at batch
    exact batch
  | case3 c pending fault d performed =>
    have batch := written_prefix_performAll z registries c.takeBatch.2 c.takeBatch.1
    rw [performed] at batch
    exact batch
  | case4 c idle => exact List.prefix_rfl

theorem written_prefix_answer (payload : Bytes) :
    c.written <+: (stateOf (answer z registries payload c)).written := by
  unfold answer dispatch
  rcases ((c.count Metrics.received).active registries).dispatch payload
    (c.count Metrics.received).session with ⟨outcome, session⟩ | ⟨fault, session⟩
  · have carried := written_prefix_carryOut z registries { c.count Metrics.received with session }
    dsimp only
    rcases outcome : carryOut z registries { c.count Metrics.received with session } with
      ⟨goesOn, d⟩ | ⟨fault, d⟩
    · rw [outcome] at carried
      exact carried.trans (written_prefix_flush d)
    · rw [outcome] at carried
      exact carried
  · exact List.prefix_rfl

theorem written_prefix_drain (buffer : Bytes) :
    c.written <+: (stateOf (drain z registries buffer c)).written := by
  fun_induction drain z registries buffer c with
  | case1 buffer c fault inlet failed => exact List.prefix_rfl
  | case2 buffer c inlet idle => exact List.prefix_rfl
  | case3 buffer c payload inlet decoded d answered ih =>
    have given := written_prefix_answer z registries { c with codec := inlet.codec } payload
    rw [answered] at given
    exact List.IsPrefix.trans given ih
  | case4 buffer c payload inlet decoded d answered =>
    have given := written_prefix_answer z registries { c with codec := inlet.codec } payload
    rw [answered] at given
    exact given
  | case5 buffer c payload inlet decoded fault d answered =>
    have given := written_prefix_answer z registries { c with codec := inlet.codec } payload
    rw [answered] at given
    exact given

end Conversation

namespace Connection

variable {α : Type} (registries : StateRegistries (Session α)) (z : Zlib.Library)
  (c : Connection α)

theorem written_prefix_close (result : Except Fault Unit) (conversation : Conversation α) :
    conversation.written <+: (c.close registries result conversation).conversation.written := by
  cases result with
  | ok done => exact List.prefix_rfl
  | error fault =>
    unfold close Conversation.leave Conversation.caught
    dsimp only
    split <;> exact List.prefix_rfl

theorem written_prefix_drain :
    c.conversation.written <+: (c.drain registries z).conversation.written := by
  have drained := Conversation.written_prefix_drain z registries c.conversation c.buffer
  unfold drain
  rcases outcome : c.conversation.drain z registries c.buffer with ⟨_ | buffer, d⟩ | ⟨fault, d⟩
  · rw [outcome] at drained
    exact drained.trans (written_prefix_close registries c (.ok ()) d)
  · rw [outcome] at drained
    exact drained
  · rw [outcome] at drained
    exact drained.trans (written_prefix_close registries c (.error fault) d)

theorem written_prefix_receive (octets : Bytes) :
    c.conversation.written <+: (c.receive registries z octets).conversation.written := by
  obtain ⟨conversation, readTimeout, phase, buffer, mailbox, silence, notes⟩ := c
  rcases octets with _ | ⟨first, rest⟩
  · cases phase <;> exact List.prefix_rfl
  · cases phase with
    | opening =>
      unfold receive
      dsimp only
      split
      · unfold answerLegacy
        dsimp only
        refine List.IsPrefix.trans ?_ (written_prefix_close registries _ (.ok ()) _)
        exact List.prefix_append _ _
      · exact written_prefix_drain registries z
          ⟨conversation, readTimeout, .serving, first :: rest, mailbox, ⟨0⟩, notes⟩
    | serving =>
      exact written_prefix_drain registries z
        ⟨conversation, readTimeout, .serving, buffer ++ first :: rest, mailbox, ⟨0⟩, notes⟩
    | closed result => exact List.prefix_rfl

theorem written_prefix_finish :
    c.conversation.written <+: (c.finish registries).conversation.written := by
  unfold finish
  split
  · exact written_prefix_close registries c _ _
  · split
    · exact written_prefix_close registries c _ _
    · exact written_prefix_close registries c _ (c.conversation.count Metrics.received)
  · exact List.prefix_rfl

theorem written_prefix_elapse (time : Duration) :
    c.conversation.written <+: (c.elapse registries time).conversation.written := by
  unfold elapse
  split
  · exact List.prefix_rfl
  · dsimp only
    split
    · exact written_prefix_close registries _ _ _
    · exact List.prefix_rfl

theorem written_prefix_deliverMessage (message : Message) :
    c.conversation.written <+: (c.deliverMessage registries z message).conversation.written := by
  cases message with
  | packet packet =>
    have fed := Conversation.written_prefix_feed z c.conversation packet
    unfold deliverMessage Conversation.push
    dsimp only
    rcases outcome : Conversation.feed z packet c.conversation with ⟨_, d⟩ | ⟨fault, d⟩
    · rw [outcome] at fed
      exact fed.trans (Conversation.written_prefix_flush d)
    · rw [outcome] at fed
      exact fed.trans (written_prefix_close registries c (.error fault) d)
  | disconnect =>
    exact (Conversation.written_prefix_flush c.conversation).trans
      (written_prefix_close registries c _ _)

theorem written_prefix_deliverAll (messages : List Message) :
    c.conversation.written <+: (deliverAll registries z messages c).conversation.written := by
  induction messages generalizing c with
  | nil => exact List.prefix_rfl
  | cons message rest ih =>
    unfold deliverAll
    split
    · exact (written_prefix_deliverMessage registries z c message).trans (ih _)
    · exact List.prefix_rfl
    · exact List.prefix_rfl

theorem written_prefix_step (event : Event) :
    c.conversation.written <+: (c.step registries z event).conversation.written := by
  cases event with
  | received octets => exact written_prefix_receive registries z c octets
  | finished => exact written_prefix_finish registries c
  | elapsed time => exact written_prefix_elapse registries c time
  | posted message =>
    unfold step post
    dsimp only
    split <;> exact List.prefix_rfl
  | delivered =>
    unfold step deliver
    dsimp only
    split
    · exact written_prefix_deliverAll registries z { c with mailbox := [] } c.mailbox
    · exact List.prefix_rfl
    · exact List.prefix_rfl

/-- **What is written stays written.** -/
theorem written_prefix_run (events : List Event) :
    c.conversation.written <+: (c.run registries z events).conversation.written := by
  unfold run
  induction events generalizing c with
  | nil => exact List.prefix_rfl
  | cons event rest ih => exact (written_prefix_step registries z c event).trans (ih _)

end Connection

end GameTransport
