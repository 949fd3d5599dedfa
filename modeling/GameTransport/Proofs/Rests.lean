import GameTransport.Proofs.Inlets
import GameTransport.Proofs.Tasks

/-! # A task left to itself comes to rest

A task that goes on by itself has less and less left to do (`Task.lighter_proceed`): the end comes
nearer, or the buffer gets shorter, or the work on a payload goes on.  Transitions are what keeps the
last of these finite, since hooks may queue whatever they like.  So after some moves of its own a task
waits for somebody else, or is over (`Task.exists_rest`).
-/

namespace GameTransport

namespace Moment

/-- Nothing is left to do but what somebody else starts. -/
def isAtRest : Moment → Bool
  | waiting false | ended _ => true
  | _ => false

/-- How far it is to the end. -/
def stage : Moment → Nat
  | accepted => 7
  | entering => 6
  | waiting _ | hearing _ | acting _ | posting _ _ | writing _ => 5
  | closing => 4
  | ending _ => 3
  | leaving _ => 2
  | left _ => 1
  | ended _ => 0

/-- How far it is to the next look at the buffer, and past it. -/
def depth : Moment → Nat
  | hearing _ => 4
  | acting _ | posting _ _ => 3
  | writing _ => 2
  | waiting true => 1
  | _ => 0

/-- The actions that are left of a batch. -/
def batch : Moment → List Action
  | acting rest => rest
  | _ => []

end Moment

namespace Task

variable {α : Type} {registries : StateRegistries (Session α)} {z : Zlib.Library}

/-- What is left to do: of five numbers, an earlier one counts for more. -/
def work (t : Task α) : Nat × Nat × Nat × Nat × Nat :=
  (t.moment.stage, t.connection.buffer.length, t.moment.depth, t.conversation.batchesLeft,
    t.moment.batch.length)

/-- One task has less left to do than another. -/
def Lighter (t' t : Task α) : Prop :=
  Prod.Lex (· < ·) (Prod.Lex (· < ·) (Prod.Lex (· < ·) (Prod.Lex (· < ·) (· < ·)))) t'.work t.work

namespace Lighter

variable {t t' : Task α}

theorem of_stage (stage : t'.moment.stage < t.moment.stage) : Lighter t' t := .left _ _ stage

theorem of_buffer (stage : t'.moment.stage = t.moment.stage)
    (buffer : t'.connection.buffer.length < t.connection.buffer.length) : Lighter t' t := by
  rw [Lighter, work, work, stage]
  exact .right _ (.left _ _ buffer)

theorem of_depth (stage : t'.moment.stage = t.moment.stage)
    (buffer : t'.connection.buffer.length = t.connection.buffer.length)
    (depth : t'.moment.depth < t.moment.depth) : Lighter t' t := by
  rw [Lighter, work, work, stage, buffer]
  exact .right _ (.right _ (.left _ _ depth))

theorem of_batches {c c' : Connection α} {left left' : List Action} (buffer : c'.buffer = c.buffer)
    (batches : c'.conversation.batchesLeft < c.conversation.batchesLeft ∨
      c'.conversation.batchesLeft = c.conversation.batchesLeft ∧ left'.length < left.length) :
    Lighter ⟨c', .acting left'⟩ ⟨c, .acting left⟩ := by
  have same : c'.buffer.length = c.buffer.length := congrArg List.length buffer
  rw [Lighter, work, work]
  dsimp only [conversation_mk, Moment.batch]
  rw [same]
  refine .right _ (.right _ (.right _ ?_))
  rcases batches with fewer | ⟨same, shorter⟩
  · exact .left _ _ fewer
  · rw [same]
    exact .right _ shorter

end Lighter

/-- A task that fails has only the end before it. -/
theorem Lighter.of_fault (t : Task α) (serving : t.moment.stage = 5) (c : Conversation α)
    (result : Except Fault Unit) : Lighter (t.resume c (.ending result)) t :=
  .of_stage (serving ▸ (by decide : 3 < 5))

/-! ## The phases of the work -/

theorem lighter_look (c : Connection α) :
    Lighter (Task.look z ⟨c, .waiting true⟩).2 ⟨c, .waiting true⟩ := by
  rw [look, conversation_mk]
  rcases decoded : Codec.decode z ⟨c.conversation.codec, c.buffer⟩ with
    ⟨_ | payload, inlet⟩ | ⟨fault, inlet⟩
  · refine .of_depth rfl ?_ Nat.one_pos
    rw [Codec.decode_eq_none decoded]
    exact Codec.Inlet.length_decrypt _
  · exact .of_buffer rfl (Codec.length_lt_of_decode decoded)
  · exact .of_fault _ rfl _ _

theorem lighter_hear (c : Connection α) (payload : Bytes) :
    Lighter (Task.hear registries payload ⟨c, .hearing payload⟩).2 ⟨c, .hearing payload⟩ := by
  rw [hear, conversation_mk]
  rcases c.conversation.dispatch registries payload with ⟨outcome, d⟩ | ⟨fault, d⟩
  · exact .of_depth rfl rfl (Nat.lt_succ_self 3)
  · exact .of_fault _ rfl _ _

/-- An action that is carried out makes no more batches, unless it makes a transition. -/
theorem batchesLeft_le_of_perform {action : Action} {c d : Conversation α} {goesOn : Bool}
    (performed : c.perform z registries action = .ok goesOn d) : d.batchesLeft ≤ c.batchesLeft := by
  rcases Conversation.movesLeft_lt_of_perform z registries performed with moved | ⟨state, actions⟩
  · unfold Conversation.batchesLeft
    split <;> split <;> omega
  · refine Nat.le_of_eq ?_
    unfold Conversation.batchesLeft
    rw [state, actions]

theorem batchesLeft_takeBatch_lt {c : Conversation α} (pending : c.session.hasPendingActions) :
    c.takeBatch.2.batchesLeft < c.batchesLeft := by
  have some : c.session.actions.isEmpty = false := by
    rw [Session.hasPendingActions] at pending
    simpa using pending
  have none : c.takeBatch.2.session.actions = [] := rfl
  have state : c.takeBatch.2.state = c.state := rfl
  unfold Conversation.batchesLeft
  rw [state, none, some]
  exact Nat.lt_succ_self _

theorem lighter_act (c : Connection α) (left : List Action) :
    Lighter (Task.act registries z left ⟨c, .acting left⟩).2 ⟨c, .acting left⟩ := by
  rcases left with _ | ⟨action, rest⟩
  · rw [act, conversation_mk]
    by_cases pending : c.conversation.session.hasPendingActions = true
    · rw [if_pos pending]
      exact .of_batches rfl (.inl (batchesLeft_takeBatch_lt pending))
    · rw [if_neg pending]
      exact .of_depth rfl rfl (Nat.le_succ 2)
  · rw [act, conversation_mk]
    rcases performed : c.conversation.perform z registries action with ⟨_ | _, d⟩ | ⟨fault, d⟩
    · exact .of_stage (Nat.lt_succ_self 4)
    · have fewer : d.batchesLeft ≤ c.conversation.batchesLeft := batchesLeft_le_of_perform performed
      refine .of_batches rfl ?_
      rcases Nat.lt_or_eq_of_le fewer with fewer | same
      · exact .inl fewer
      · exact .inr ⟨same, Nat.lt_succ_self _⟩
    · exact .of_fault _ rfl _ _

theorem lighter_encode (c : Connection α) (packet : Bytes) (fresh : Bool) :
    Lighter (Task.encode z packet fresh ⟨c, .posting packet fresh⟩).2 ⟨c, .posting packet fresh⟩ := by
  rw [encode, conversation_mk]
  rcases c.conversation.feed z packet with ⟨_, d⟩ | ⟨fault, d⟩
  · exact .of_depth rfl rfl (Nat.lt_succ_self 2)
  · exact .of_fault _ rfl _ _

/-! ## All of it -/

/-- **A task that goes on by itself has less left to do than before.** -/
theorem lighter_proceed (t : Task α) (busy : t.moment.isAtRest = false) :
    Lighter (t.proceed registries z).2 t := by
  obtain ⟨c, moment⟩ := t
  cases moment with
  | waiting fresh =>
    cases fresh with
    | true => exact lighter_look c
    | false => cases busy
  | hearing payload => exact lighter_hear c payload
  | acting left => exact lighter_act c left
  | posting packet fresh => exact lighter_encode c packet fresh
  | writing fresh =>
    cases fresh with
    | true => exact .of_depth rfl rfl (Nat.lt_succ_self 1)
    | false => exact .of_depth rfl rfl (Nat.le_succ 1)
  | ending result =>
    rcases result with fault | ⟨⟨⟩⟩ <;> exact .of_stage (Nat.lt_succ_self 2)
  | ended result => cases busy
  | accepted => exact .of_stage (Nat.lt_succ_self 6)
  | entering => exact .of_stage (Nat.lt_succ_self 5)
  | closing => exact .of_stage (Nat.lt_succ_self 3)
  | leaving result => exact .of_stage (Nat.lt_succ_self 1)
  | left result => exact .of_stage (Nat.lt_succ_self 0)

/-- Steps that leave less to do each time lead to rest, also if they are not all alike. -/
theorem exists_rest_of_lighter (next : Nat → Task α → Task α)
    (lighter : ∀ place t, t.moment.isAtRest = false → Lighter (next place t) t) (t : Task α) :
    ∃ count, ((List.range count).foldl (fun t place => next place t) t).moment.isAtRest := by
  cases busy : t.moment.isAtRest with
  | true => exact ⟨0, busy⟩
  | false =>
    have first : Lighter (next 0 t) t := lighter 0 t busy
    obtain ⟨count, rest⟩ := exists_rest_of_lighter (fun place => next (place + 1))
      (fun place => lighter (place + 1)) (next 0 t)
    refine ⟨count + 1, ?_⟩
    rw [List.range_succ_eq_map, List.foldl_cons, List.foldl_map]
    exact rest
termination_by t.work
decreasing_by exact first

/-- **A task left to itself comes to rest.** -/
theorem exists_rest (registries : StateRegistries (Session α)) (z : Zlib.Library) (t : Task α) :
    ∃ count, (t.run registries z (List.replicate count .proceed)).moment.isAtRest := by
  obtain ⟨count, rest⟩ := exists_rest_of_lighter (fun _ t => (t.proceed registries z).2)
    (fun _ t busy => lighter_proceed t busy) t
  refine ⟨count, ?_⟩
  have same : List.replicate count .proceed = (List.range count).map fun _ => Move.proceed := by
    rw [List.map_const', List.length_range]
  rw [same, run, List.foldl_map]
  exact rest

end Task

end GameTransport
