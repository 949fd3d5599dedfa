import GameTransport.Proofs.Envelopes
import GameTransport.Proofs.Hooks
import GameTransport.Proofs.Ledgers

/-! # The work on a queue comes to an end

Hooks may queue whatever they like, further transitions too, and what they queue makes the next batch.
But hooks only run when a transition is carried out, a transition that the arrows do not allow ends the
work, and along the arrows a connection moves twice at most.  So there are at most three batches
(`Ledger.Bounded`), the hooks that run are those of the transitions carried out (`Ledger.Hooked`), and
the work is over as soon as the task has gone on often enough, whoever else gets to run in between
(`Task.exists_doneWithin`).

Nothing is assumed of the hooks.
-/

namespace GameTransport

variable {α : Type} {registries : StateRegistries (Session α)} {z : Zlib.Library}

/-- The state that an action moves to. -/
def Action.target? : Action → Option ConnectionState
  | transition target => some target
  | send _ | enableCompression _ _ | enableEncryption _ | disconnect => none

theorem Action.target?_eq_none {action : Action} (other : ∀ target, action ≠ .transition target) :
    action.target? = none := by
  cases action with
  | transition target => exact absurd rfl (other target)
  | _ => rfl

/-- The states that the actions carried out move to. -/
def Ledger.targets (ledger : Ledger) : List ConnectionState :=
  ledger.carried.filterMap Action.target?

theorem Ledger.targets_concat {ledger ledger' : Ledger} {action : Action}
    (carried : ledger'.carried = ledger.carried ++ [action]) :
    ledger'.targets = ledger.targets ++ action.target?.toList := by
  rw [targets, carried, List.filterMap_append]
  rcases found : action.target? with _ | target <;> simp [targets, found]

theorem ConnectionState.movesLeft_le_two (state : ConnectionState) : state.movesLeft ≤ 2 := by
  cases state <;> decide

namespace Conversation

variable {c d : Conversation α} {action : Action} {goesOn : Bool}

theorem batchesLeft_le (c : Conversation α) : c.batchesLeft ≤ c.state.movesLeft + 1 := by
  unfold batchesLeft
  split <;> omega

/-- A transition that is carried out uses up a move. -/
theorem movesLeft_of_perform (performed : perform z registries action c = .ok goesOn d) :
    action.target?.toList.length + d.state.movesLeft ≤ c.state.movesLeft := by
  rcases moved_or_kept_of_perform performed with ⟨target, rfl, allowed, rfl⟩ | ⟨other, state, -⟩
  · have fewer : target.movesLeft < c.state.movesLeft :=
      ConnectionState.movesLeft_lt_of_canMoveTo allowed
    change 1 + target.movesLeft ≤ c.state.movesLeft
    omega
  · rw [Action.target?_eq_none other, state]
    exact Nat.le_of_eq (Nat.zero_add _)

end Conversation

/-! ### What is left to do falls -/

namespace Ledger

variable {ledger ledger' : Ledger}

/-- Every batch taken and every transition carried out was still to come at the start. -/
structure Bounded (start : Conversation α) (ledger : Ledger) (t : Task α) : Prop where
  batches : ledger.batches.length + t.conversation.batchesLeft ≤ start.batchesLeft
  moves : ledger.targets.length + t.conversation.state.movesLeft ≤ start.state.movesLeft

theorem Bounded.stride {start : Conversation α} {t t' : Task α} (bounded : ledger.Bounded start t)
    (stride : Task.Stride registries z t ledger t' ledger') : ledger'.Bounded start t' := by
  obtain ⟨batches, moves⟩ := bounded
  cases stride with
  | elsewhere same =>
    simp only [Task.conversation_mk] at batches moves
    constructor <;> simpa only [Task.conversation_mk, same]
  | broken writes => exact ⟨batches, moves⟩
  | @batch c _ pending =>
    have fewer : c.conversation.takeBatch.2.batchesLeft < c.conversation.batchesLeft :=
      Task.batchesLeft_takeBatch_lt pending
    refine ⟨?_, moves⟩
    simp only [Task.conversation_mk, List.length_append, List.length_singleton] at batches ⊢
    omega
  | @carried c d action rest _ performed =>
    have fewer : d.batchesLeft ≤ c.conversation.batchesLeft := Task.batchesLeft_le_of_perform performed
    have used := Conversation.movesLeft_of_perform performed
    refine ⟨Nat.le_trans (Nat.add_le_add_left fewer _) batches, ?_⟩
    rw [targets_concat rfl, List.length_append]
    simp only [Task.conversation_mk] at moves ⊢
    omega
  | disconnected =>
    refine ⟨batches, ?_⟩
    rw [targets_concat rfl]
    simpa [Action.target?] using moves
  | @failed c d action rest _ fault performed =>
    obtain ⟨state, session⟩ := Conversation.kept_of_perform_error performed
    have same : d.batchesLeft = c.conversation.batchesLeft := by
      rw [Conversation.batchesLeft, state, session, Conversation.batchesLeft]
    exact ⟨same ▸ batches, state ▸ moves⟩
  | flushed idle => exact ⟨batches, moves⟩
  | closed => exact ⟨batches, moves⟩

/-- The callbacks called since the start are the hooks of the transitions carried out. -/
structure Hooked (start : Conversation (Recorded α)) (ledger : Ledger) (t : Task (Recorded α)) :
    Prop where
  last : (start.state :: ledger.targets).getLast? = some t.conversation.state
  hooks : ∃ made, t.conversation.session.app.2 = start.session.app.2 ++ made ∧
    made.map (fun call => (call.state, call.occasion)) = Path.moves start.state ledger.targets

section Hooked

variable {start : Conversation (Recorded α)} {t t' : Task (Recorded α)}

/-- Without a transition no callback is called. -/
theorem Hooked.of_same (hooked : ledger.Hooked start t) (targets : ledger'.targets = ledger.targets)
    (state : t'.conversation.state = t.conversation.state)
    (calls : t'.conversation.session.app.2 = t.conversation.session.app.2) :
    ledger'.Hooked start t' := by
  constructor
  · rw [targets, state]
    exact hooked.last
  · rw [targets, calls]
    exact hooked.hooks

theorem Hooked.move {c : Connection (Recorded α)} {moment moment' : Moment}
    {target : ConnectionState} (hooked : ledger.Hooked start ⟨c, moment⟩)
    (carried : ledger'.carried = ledger.carried ++ [.transition target]) :
    ledger'.Hooked start
      ⟨{ c with conversation := c.conversation.moved registries.recorded target }, moment'⟩ := by
  obtain ⟨last, made, calls, hooks⟩ := hooked
  have targets : ledger'.targets = ledger.targets ++ [target] := targets_concat carried
  constructor
  · rw [targets, ← List.cons_append, List.getLast?_concat]
    rfl
  · have more := Conversation.calls_moved_recorded registries target c.conversation
    rw [Task.conversation_mk] at calls
    rw [calls, List.append_assoc] at more
    refine ⟨_, more, ?_⟩
    rw [List.map_append, hooks, targets, Path.moves_concat last]
    rfl

theorem Hooked.stride (hooked : ledger.Hooked start t)
    (stride : Task.Stride registries.recorded z t ledger t' ledger') : ledger'.Hooked start t' := by
  cases stride with
  | elsewhere same =>
    refine hooked.of_same rfl (congrArg Conversation.state same) ?_
    exact congrArg (fun d => d.session.app.2) same
  | broken writes => exact hooked.of_same rfl rfl rfl
  | batch pending => exact hooked.of_same rfl rfl rfl
  | @carried c d action rest _ performed =>
    rcases Conversation.moved_or_kept_of_perform performed with
      ⟨target, rfl, -, rfl⟩ | ⟨other, state, change, session⟩
    · exact hooked.move rfl
    · refine hooked.of_same ?_ state (by rw [Task.conversation_mk, session]; rfl)
      rw [targets_concat rfl, Action.target?_eq_none other]
      exact List.append_nil _
  | disconnected =>
    refine hooked.of_same ?_ rfl rfl
    rw [targets_concat rfl]
    exact List.append_nil _
  | failed performed =>
    obtain ⟨state, session⟩ := Conversation.kept_of_perform_error performed
    exact hooked.of_same rfl state (congrArg (fun session => session.app.2) session)
  | flushed idle => exact hooked.of_same rfl rfl rfl
  | closed => exact hooked.of_same rfl rfl rfl

end Hooked

end Ledger

/-! ### The call returns -/

namespace Task

/-- The work is over when the task has gone on this often, whatever happens in between. -/
def DoneWithin (registries : StateRegistries (Session α)) (z : Zlib.Library) (count : Nat)
    (d : Conversation α) (moment : Moment) : Prop :=
  ∀ (c : Connection α) (moves : List Move) (ledger : Ledger), c.conversation = d →
    count ≤ moves.count .proceed →
      (carry registries z moves ⟨c, moment⟩ ledger).1.moment.carries = false

variable {d e : Conversation α} {moment moment' : Moment} {count : Nat}

theorem carry_of_finished {t : Task α} (finished : t.moment.carries = false) (moves : List Move)
    (ledger : Ledger) : carry registries z moves t ledger = (t, ledger) := by
  cases moves with
  | nil => rfl
  | cons move rest =>
    have idle : ¬ t.moment.carries = true := by simp [finished]
    rw [carry, if_neg idle]

theorem doneWithin_zero (finished : moment.carries = false) : DoneWithin registries z 0 d moment := by
  intro c moves ledger _ _
  rw [carry_of_finished finished]
  exact finished

/-- The task has to go on once more. -/
theorem DoneWithin.succ (finished : DoneWithin registries z count e moment')
    (goes : ∀ c : Connection α, c.conversation = d →
      step registries z ⟨c, moment⟩ .proceed = ⟨{ c with conversation := e }, moment'⟩) :
    DoneWithin registries z (count + 1) d moment := by
  intro c moves ledger same enough
  by_cases busy : moment.carries = true
  · -- The others keep the conversation and the moment, so they are passed over up to the next turn.
    induction moves generalizing c ledger with
    | nil => exact absurd enough (Nat.not_succ_le_zero count)
    | cons move rest ih =>
      rw [carry, if_pos busy]
      by_cases alone : move = .proceed
      · subst alone
        rw [List.count_cons_self] at enough
        rw [goes c same]
        exact finished _ rest _ rfl (Nat.le_of_succ_le_succ enough)
      · rw [List.count_cons_of_ne alone] at enough
        rcases step_of_ne_proceed (t := ⟨c, moment⟩) busy alone with
          ⟨c', moved, kept⟩ | ⟨-, cause, taken, broke⟩
        · rw [moved]
          exact ih c' _ (kept.trans same) enough
        · rw [broke, carry_of_finished rfl]
          rfl
  · rw [carry_of_finished (Bool.eq_false_iff.mpr busy)]
    exact Bool.eq_false_iff.mpr busy

/-- **The work on a queue comes to an end**, whatever the hooks queue. -/
theorem exists_doneWithin (registries : StateRegistries (Session α)) (z : Zlib.Library)
    (d : Conversation α) (left : List Action) :
    ∃ count, DoneWithin registries z count d (.acting left) := by
  match left with
  | [] =>
    by_cases pending : d.session.hasPendingActions = true
    · have fewer : d.takeBatch.2.batchesLeft < d.batchesLeft := batchesLeft_takeBatch_lt pending
      obtain ⟨count, finished⟩ := exists_doneWithin registries z d.takeBatch.2 d.takeBatch.1
      refine ⟨count + 1, finished.succ ?_⟩
      rintro c rfl
      exact step_batch pending
    · have finished : DoneWithin registries z 0 d.flush (.waiting true) := doneWithin_zero rfl
      refine ⟨1, finished.succ ?_⟩
      rintro c rfl
      exact step_flush pending
  | action :: rest =>
    rcases performed : d.perform z registries action with ⟨_ | _, e⟩ | ⟨fault, e⟩
    · have written : DoneWithin registries z 0 e.flush (.ending (.ok ())) := doneWithin_zero rfl
      have closed : DoneWithin registries z 1 e .closing := by
        refine written.succ ?_
        rintro c rfl
        rfl
      refine ⟨2, closed.succ ?_⟩
      rintro c rfl
      exact step_stopped rest performed
    · have fewer : e.batchesLeft ≤ d.batchesLeft := batchesLeft_le_of_perform performed
      obtain ⟨count, finished⟩ := exists_doneWithin registries z e rest
      refine ⟨count + 1, finished.succ ?_⟩
      rintro c rfl
      exact step_carried rest performed
    · have finished : DoneWithin registries z 0 e (.ending (.error fault)) := doneWithin_zero rfl
      refine ⟨1, finished.succ ?_⟩
      rintro c rfl
      exact step_failed rest performed
-- A batch that is taken was still to come.  An action leaves fewer actions of its batch, and more
-- batches to come it cannot leave: what hooks queue costs the move that ran them.
termination_by (d.batchesLeft, left.length)
decreasing_by
  · exact .left _ _ fewer
  · rcases Nat.lt_or_eq_of_le fewer with fewer | same
    · exact .left _ _ fewer
    · rw [same]
      exact .right _ (Nat.lt_succ_self _)

/-- What is left when the work is over: to wait for more, or the end of the connection. -/
def Returned (moment : Moment) : Prop := moment = .waiting true ∨ ∃ result, moment = .ending result

theorem returned_of_carry (c : Connection α) (moves : List Move) (ledger : Ledger)
    (finished : (carry registries z moves ⟨c, .acting []⟩ ledger).1.moment.carries = false) :
    Returned (carry registries z moves ⟨c, .acting []⟩ ledger).1.moment := by
  have either : (carry registries z moves ⟨c, .acting []⟩ ledger).1.moment.carries = true ∨
      Returned (carry registries z moves ⟨c, .acting []⟩ ledger).1.moment := by
    refine carry_induction (P := fun t _ => t.moment.carries = true ∨ Returned t.moment) ?_
      (.inl rfl) moves
    intro t ledger t' ledger' either stride
    cases stride with
    | elsewhere same => exact either
    | broken writes => exact .inr (.inr ⟨_, rfl⟩)
    | batch pending => exact .inl rfl
    | carried performed => exact .inl rfl
    | disconnected => exact .inl rfl
    | failed performed => exact .inr (.inr ⟨_, rfl⟩)
    | flushed idle => exact .inr (.inl rfl)
    | closed => exact .inr (.inr ⟨_, rfl⟩)
  rcases either with busy | returned
  · rw [finished] at busy
    cases busy
  · exact returned

/-! ### The moves of a connection -/

/-- The states that a task moves to. -/
def transitions (registries : StateRegistries (Session α)) (z : Zlib.Library) :
    List Move → Task α → List ConnectionState
  | [], _ => []
  | move :: rest, t =>
    ((t.carriedBy registries z move).bind Action.target?).toList ++
      transitions registries z rest (t.step registries z move)

/-- A step stays in the state, or follows an arrow. -/
theorem state_step (t : Task α) (move : Move) :
    (t.step registries z move).conversation.state = t.conversation.state ∨
      t.conversation.state.canMoveTo (t.step registries z move).conversation.state := by
  have step := @step_turn α registries z t move
  generalize t.step registries z move = t' at step
  generalize (t.turn registries z move).1 = deed? at step
  cases step with
  | moved allowed => exact .inr allowed
  | sent fed => exact .inl (Conversation.kept_of_feed_ok fed).1
  | pushed fed => exact .inl (Conversation.kept_of_feed_ok fed).1
  | unsent fed => exact .inl (Conversation.kept_of_feed_error fed).1
  | unpushed fed => exact .inl (Conversation.kept_of_feed_error fed).1
  | _ => exact .inl rfl

/-- An action that is carried out is performed. -/
theorem perform_of_carriedBy {t : Task α} {move : Move} {action : Action}
    (carried : t.carriedBy registries z move = some action) :
    ∃ goesOn, t.conversation.perform z registries action =
      .ok goesOn (t.step registries z move).conversation := by
  obtain ⟨c, moment⟩ := t
  cases move with
  | proceed =>
    cases moment with
    | acting left =>
      rcases left with _ | ⟨first, rest⟩
      · cases carried
      · rcases performed : c.conversation.perform z registries first with
          ⟨_ | _, d⟩ | ⟨fault, d⟩ <;> simp only [carriedBy, conversation_mk, performed] at carried <;>
          cases carried
        · exact ⟨false, by rw [step_stopped rest performed]; exact performed⟩
        · exact ⟨true, by rw [step_carried rest performed]; exact performed⟩
    | _ => cases carried
  | _ => cases carried

theorem movesLeft_step (t : Task α) (move : Move) :
    ((t.carriedBy registries z move).bind Action.target?).toList.length +
      (t.step registries z move).conversation.state.movesLeft ≤ t.conversation.state.movesLeft := by
  rcases carried : t.carriedBy registries z move with _ | action
  · have fewer : (t.step registries z move).conversation.state.movesLeft ≤
        t.conversation.state.movesLeft := by
      rcases state_step t move with same | allowed
      · exact Nat.le_of_eq (congrArg ConnectionState.movesLeft same)
      · exact Nat.le_of_lt (ConnectionState.movesLeft_lt_of_canMoveTo allowed)
    simpa using fewer
  · obtain ⟨goesOn, performed⟩ := perform_of_carriedBy carried
    exact Conversation.movesLeft_of_perform performed

/-- **A connection moves twice at most.** -/
theorem length_transitions_le (moves : List Move) (t : Task α) :
    (transitions registries z moves t).length +
      (t.run registries z moves).conversation.state.movesLeft ≤ t.conversation.state.movesLeft := by
  induction moves generalizing t with
  | nil => exact Nat.le_of_eq (Nat.zero_add _)
  | cons move rest ih =>
    have first := @movesLeft_step α registries z t move
    have later := ih (t.step registries z move)
    rw [transitions, List.length_append]
    change _ + ((t.step registries z move).run registries z rest).conversation.state.movesLeft ≤ _
    omega

/-- **The work on a queue takes three batches at most and returns**, whatever is queued and whatever
the hooks queue.  The callbacks that run are the hooks of the transitions carried out, one attached and
one detached for each, and a connection carries out two transitions at most in all its life. -/
theorem queue_worked_off_in_three_batches (registries : StateRegistries (Session α))
    (z : Zlib.Library) :
    (∀ (c : Connection α) (moves : List Move),
      let call := carry registries z moves ⟨c, .acting []⟩ {}
      call.2.batches.length ≤ c.conversation.state.movesLeft + 1 ∧ call.2.batches.length ≤ 3 ∧
        call.2.targets.length ≤ c.conversation.state.movesLeft) ∧
    (∀ c : Connection α, ∃ count, ∀ moves : List Move, count ≤ moves.count .proceed →
      Returned (carry registries z moves ⟨c, .acting []⟩ {}).1.moment) ∧
    (∀ (c : Connection (Recorded α)) (moves : List Move),
      let call := carry registries.recorded z moves ⟨c, .acting []⟩ {}
      ∃ made, call.1.conversation.session.app.2 = c.conversation.session.app.2 ++ made ∧
        made.map (fun call => (call.state, call.occasion)) =
          Path.moves c.conversation.state call.2.targets) ∧
    ∀ (t : Task α) (moves : List Move), (transitions registries z moves t).length ≤ 2 := by
  refine ⟨?_, ?_, ?_, ?_⟩
  · intro c moves call
    have start : ({} : Ledger).Bounded c.conversation ⟨c, .acting []⟩ :=
      ⟨Nat.le_of_eq (Nat.zero_add _), Nat.le_of_eq (Nat.zero_add _)⟩
    have bounded : call.2.Bounded c.conversation call.1 :=
      carry_induction (P := fun t ledger => ledger.Bounded c.conversation t)
        (fun _ _ _ _ bounded stride => bounded.stride stride) start moves
    have batches := bounded.batches
    have targets := bounded.moves
    have first := c.conversation.batchesLeft_le
    have two := c.conversation.state.movesLeft_le_two
    refine ⟨?_, ?_, ?_⟩ <;> omega
  · intro c
    obtain ⟨count, finished⟩ := exists_doneWithin registries z c.conversation []
    exact ⟨count, fun moves enough => returned_of_carry c moves {} (finished c moves {} rfl enough)⟩
  · intro c moves call
    have start : ({} : Ledger).Hooked c.conversation ⟨c, .acting []⟩ :=
      ⟨rfl, [], (List.append_nil _).symm, rfl⟩
    have hooked : call.2.Hooked c.conversation call.1 :=
      carry_induction (P := fun t ledger => ledger.Hooked c.conversation t)
        (fun _ _ _ _ hooked stride => hooked.stride stride) start moves
    exact hooked.hooks
  · intro t moves
    have left := @length_transitions_le α registries z moves t
    have two := t.conversation.state.movesLeft_le_two
    omega

/-- On coming to LOGIN a transition to PLAY is queued, and there one to STATUS. -/
def relay : StateRegistries (Session Unit) where
  handshaking := Registry.Builder.build { name := "HANDSHAKING" }
  status := Registry.Builder.build { name := "STATUS" }
  login := (Registry.Builder.onAttach { name := "LOGIN" } (·.requestTransition .play)).build
  play := (Registry.Builder.onAttach { name := "PLAY" } (·.requestTransition .status)).build

/-- Three batches are taken, and the last transition is refused. -/
example :
    let session : Session Unit :=
      { id := ⟨1⟩
        peer := none
        server := { config := {}, key := none }
        actions := [.transition .login]
        entropy := ⟨fun _ => 0, 0⟩
        app := () }
    let c : Connection Unit := { conversation := { session }, readTimeout := ⟨30⟩ }
    let call := carry relay .stored (List.replicate 6 .proceed) ⟨c, .acting []⟩ {}
    call.2.batches = [[.transition .login], [.transition .play], [.transition .status]] ∧
      call.2.targets = [.login, .play] := by
  decide +kernel

end Task

end GameTransport
