import GameTransport.Proofs.Rests

/-! # The work on a queue, on the books

When a payload has been dispatched, a task works off what is queued: it takes a batch, carries out one
action after another, takes the next batch, and in the end writes.  That takes many moves, and others
get to run between any two of them.  `Task.carry` makes the moves of somebody's choice until the work
is over, and keeps a ledger beside them: what has been queued, what has been carried out and which
batches were taken.  The ledger is written from outside, and the task knows nothing of it.

`Task.Stride` says once what one of these moves can do to the task and to the ledger.
-/

namespace GameTransport

/-- The work on a queue is under way. -/
def Moment.carries : Moment → Bool
  | acting _ | closing => true
  | _ => false

/-- What has become of a queue. -/
structure Ledger where
  /-- In the order in which they were queued. -/
  queued : List Action := []
  /-- In the order in which they were carried out. -/
  carried : List Action := []
  /-- In the order in which they were taken. -/
  batches : List (List Action) := []

namespace Task

variable {α : Type} (registries : StateRegistries (Session α)) (z : Zlib.Library)

/-- The action that a move carries out. -/
def carriedBy (t : Task α) (move : Move) : Option Action :=
  match move, t.moment with
  | .proceed, .acting (action :: _) =>
    match t.conversation.perform z registries action with
    | .ok _ _ => some action
    | .error _ _ => none
  | _, _ => none

/-- The batch that a move takes. -/
def takenBy (t : Task α) (move : Move) : Option (List Action) :=
  match move, t.moment with
  | .proceed, .acting [] =>
    if t.conversation.session.hasPendingActions then some t.conversation.takeBatch.1 else none
  | _, _ => none

/-- Enters a move. -/
def enter (t : Task α) (move : Move) (ledger : Ledger) : Ledger where
  queued := ledger.queued ++ (t.step registries z move).conversation.session.actions.drop
    t.conversation.session.actions.length
  carried := ledger.carried ++ (t.carriedBy registries z move).toList
  batches := ledger.batches ++ (t.takenBy move).toList

/-- Makes moves until the work on the queue is over. -/
def carry : List Move → Task α → Ledger → Task α × Ledger
  | [], t, ledger => (t, ledger)
  | move :: rest, t, ledger =>
    if t.moment.carries then
      carry rest (t.step registries z move) (t.enter registries z move ledger)
    else (t, ledger)

/-- What a move can do while the work on a queue is under way. -/
inductive Stride : Task α → Ledger → Task α → Ledger → Prop where
  /-- Somebody else was at work. -/
  | elsewhere {c c' : Connection α} {moment : Moment} {ledger : Ledger}
    (same : c'.conversation = c.conversation) : Stride ⟨c, moment⟩ ledger ⟨c', moment⟩ ledger
  /-- The stream failed. -/
  | broken {c : Connection α} {moment : Moment} {ledger : Ledger} {cause : StreamFault} {count : Nat}
    (writes : Task.writes ⟨c, moment⟩) :
    Stride ⟨c, moment⟩ ledger
      ⟨{ c with conversation := { c.conversation with
        outgoing := c.conversation.outgoing.drop count
        written := c.conversation.written ++ c.conversation.outgoing.take count } },
        .ending (.error (.stream cause))⟩ ledger
  | batch {c : Connection α} {ledger : Ledger}
    (pending : c.conversation.session.hasPendingActions) :
    Stride ⟨c, .acting []⟩ ledger
      ⟨{ c with conversation := c.conversation.takeBatch.2 }, .acting c.conversation.takeBatch.1⟩
      { ledger with batches := ledger.batches ++ [c.conversation.takeBatch.1] }
  | carried {c : Connection α} {d : Conversation α} {action : Action} {rest : List Action}
    {ledger : Ledger} (performed : c.conversation.perform z registries action = .ok true d) :
    Stride ⟨c, .acting (action :: rest)⟩ ledger ⟨{ c with conversation := d }, .acting rest⟩
      { ledger with
        queued := ledger.queued ++ d.session.actions.drop c.conversation.session.actions.length
        carried := ledger.carried ++ [action] }
  | disconnected {c : Connection α} {rest : List Action} {ledger : Ledger} :
    Stride ⟨c, .acting (.disconnect :: rest)⟩ ledger ⟨c, .closing⟩
      { ledger with carried := ledger.carried ++ [.disconnect] }
  | failed {c : Connection α} {d : Conversation α} {action : Action} {rest : List Action}
    {ledger : Ledger} {fault : Fault}
    (performed : c.conversation.perform z registries action = .error fault d) :
    Stride ⟨c, .acting (action :: rest)⟩ ledger
      ⟨{ c with conversation := d }, .ending (.error fault)⟩ ledger
  /-- Nothing is queued any more, and what was encoded is written. -/
  | flushed {c : Connection α} {ledger : Ledger} (idle : c.conversation.session.actions = []) :
    Stride ⟨c, .acting []⟩ ledger
      ⟨{ c with conversation := c.conversation.flush }, .waiting true⟩ ledger
  | closed {c : Connection α} {ledger : Ledger} :
    Stride ⟨c, .closing⟩ ledger
      ⟨{ c with conversation := c.conversation.flush }, .ending (.ok ())⟩ ledger

variable {registries : StateRegistries (Session α)} {z : Zlib.Library} {t : Task α} {ledger : Ledger}

/-! ### Every move is a stride -/

theorem enter_of_ne_proceed {move : Move} (other : move ≠ .proceed)
    (same : (t.step registries z move).conversation.session = t.conversation.session) :
    t.enter registries z move ledger = ledger := by
  have nothing : t.carriedBy registries z move = none := by
    cases move with
    | proceed => exact absurd rfl other
    | _ => rfl
  have nothing' : t.takenBy move = none := by
    cases move with
    | proceed => exact absurd rfl other
    | _ => rfl
  simp [enter, nothing, nothing', same]

/-- Others leave the work alone, unless the stream fails. -/
theorem step_of_ne_proceed (busy : t.moment.carries) {move : Move} (other : move ≠ .proceed) :
    (∃ c, t.step registries z move = ⟨c, t.moment⟩ ∧ c.conversation = t.conversation) ∨
      t.writes ∧ ∃ cause count, t.step registries z move = t.resume { t.conversation with
        outgoing := t.conversation.outgoing.drop count
        written := t.conversation.written ++ t.conversation.outgoing.take count }
        (.ending (.error (.stream cause))) := by
  obtain ⟨c, moment⟩ := t
  have kept (same : Task.step registries z ⟨c, moment⟩ move = ⟨c, moment⟩) :
      ∃ c', Task.step registries z ⟨c, moment⟩ move = ⟨c', moment⟩ ∧
        c'.conversation = c.conversation := ⟨c, same, rfl⟩
  cases move with
  | post message =>
    by_cases refused : (c.isClosed || Connection.mailboxSize ≤ c.mailbox.length) = true
    · exact .inl (kept (by simp [step, turn, post, Connection.post, refused]))
    · refine .inl ⟨{ c with mailbox := c.mailbox ++ [message] }, ?_, rfl⟩
      simp [step, turn, post, Connection.post, refused]
  | elapse time =>
    by_cases closed : c.isClosed = true
    · exact .inl (kept (by simp [step, turn, elapse, closed]))
    · refine .inl ⟨{ c with silence := ⟨c.silence.nanos + time.nanos⟩ }, ?_, rfl⟩
      simp [step, turn, elapse, closed]
  | cut cause count =>
    by_cases writes : Task.writes ⟨c, moment⟩ = true
    · refine .inr ⟨writes, cause, count, ?_⟩
      simp [step, turn, cut, writes]
    · exact .inl (kept (by cases moment <;> simp_all [step, turn, cut, Moment.carries]))
  | receive octets =>
    exact .inl (kept (by cases moment <;> simp_all [step, turn, receive, Moment.carries]))
  | finish => exact .inl (kept (by cases moment <;> simp_all [step, turn, finish, Moment.carries]))
  | expire => exact .inl (kept (by cases moment <;> simp_all [step, turn, expire, Moment.carries]))
  | deliver => exact .inl (kept (by cases moment <;> simp_all [step, turn, deliver, Moment.carries]))
  | proceed => exact absurd rfl other

theorem stride_of_ne_proceed (busy : t.moment.carries) {move : Move} (other : move ≠ .proceed)
    (ledger : Ledger) :
    Stride registries z t ledger (t.step registries z move)
      (t.enter registries z move ledger) := by
  have entered (same : (t.step registries z move).conversation.session = t.conversation.session) :
      t.enter registries z move ledger = ledger := enter_of_ne_proceed other same
  rcases step_of_ne_proceed busy other with ⟨c, moved, same⟩ | ⟨writes, cause, count, broke⟩
  · rw [entered (by rw [moved]; exact congrArg Conversation.session same), moved]
    exact .elsewhere same
  · rw [entered (by rw [broke]; rfl), broke]
    exact .broken writes

theorem step_batch {c : Connection α} (pending : c.conversation.session.hasPendingActions) :
    Task.step registries z ⟨c, .acting []⟩ .proceed =
      ⟨{ c with conversation := c.conversation.takeBatch.2 },
        .acting c.conversation.takeBatch.1⟩ := by
  simp [step, turn, proceed, act, pending, resume]

theorem step_flush {c : Connection α} (idle : ¬ c.conversation.session.hasPendingActions) :
    Task.step registries z ⟨c, .acting []⟩ .proceed =
      ⟨{ c with conversation := c.conversation.flush }, .waiting true⟩ := by
  simp [step, turn, proceed, act, idle, resume]

section Performed

variable {c : Connection α} {d : Conversation α} {action : Action} {fault : Fault}

theorem step_carried (rest : List Action)
    (performed : c.conversation.perform z registries action = .ok true d) :
    Task.step registries z ⟨c, .acting (action :: rest)⟩ .proceed =
      ⟨{ c with conversation := d }, .acting rest⟩ := by
  simp [step, turn, proceed, act, performed, resume]

theorem step_stopped (rest : List Action)
    (performed : c.conversation.perform z registries action = .ok false d) :
    Task.step registries z ⟨c, .acting (action :: rest)⟩ .proceed =
      ⟨{ c with conversation := d }, .closing⟩ := by
  simp [step, turn, proceed, act, performed, resume]

theorem step_failed (rest : List Action)
    (performed : c.conversation.perform z registries action = .error fault d) :
    Task.step registries z ⟨c, .acting (action :: rest)⟩ .proceed =
      ⟨{ c with conversation := d }, .ending (.error fault)⟩ := by
  simp [step, turn, proceed, act, performed, resume]

end Performed

theorem stride_batch (c : Connection α) (ledger : Ledger) :
    Stride registries z ⟨c, .acting []⟩ ledger
      (Task.step registries z ⟨c, .acting []⟩ .proceed)
      (Task.enter registries z ⟨c, .acting []⟩ .proceed ledger) := by
  by_cases pending : c.conversation.session.hasPendingActions = true
  · have empty : c.conversation.takeBatch.2.session.actions = [] := rfl
    have entered : Task.enter registries z ⟨c, .acting []⟩ .proceed ledger =
        { ledger with batches := ledger.batches ++ [c.conversation.takeBatch.1] } := by
      simp [enter, step_batch pending, empty, carriedBy, takenBy, pending]
    rw [step_batch pending, entered]
    exact .batch pending
  · have same : c.conversation.flush.session = c.conversation.session := rfl
    have entered : Task.enter registries z ⟨c, .acting []⟩ .proceed ledger = ledger := by
      simp [enter, step_flush pending, same, carriedBy, takenBy, pending]
    rw [step_flush pending, entered]
    exact .flushed (by simpa [Session.hasPendingActions] using pending)

theorem stride_act (c : Connection α) (action : Action) (rest : List Action) (ledger : Ledger) :
    Stride registries z ⟨c, .acting (action :: rest)⟩ ledger
      (Task.step registries z ⟨c, .acting (action :: rest)⟩ .proceed)
      (Task.enter registries z ⟨c, .acting (action :: rest)⟩ .proceed ledger) := by
  rcases performed : c.conversation.perform z registries action with ⟨_ | _, d⟩ | ⟨fault, d⟩
  · obtain ⟨rfl, rfl⟩ := Conversation.eq_of_perform_false performed
    have entered : Task.enter registries z ⟨c, .acting (.disconnect :: rest)⟩ .proceed ledger =
        { ledger with carried := ledger.carried ++ [.disconnect] } := by
      simp [enter, step_stopped rest performed, carriedBy, performed, takenBy]
    rw [step_stopped rest performed, entered]
    exact .disconnected
  · have entered : Task.enter registries z ⟨c, .acting (action :: rest)⟩ .proceed ledger =
        { ledger with
          queued := ledger.queued ++
            d.session.actions.drop c.conversation.session.actions.length
          carried := ledger.carried ++ [action] } := by
      simp [enter, step_carried rest performed, carriedBy, performed, takenBy]
    rw [step_carried rest performed, entered]
    exact .carried performed
  · have same : d.session = c.conversation.session := (Conversation.kept_of_perform_error performed).2
    have entered : Task.enter registries z ⟨c, .acting (action :: rest)⟩ .proceed ledger =
        ledger := by
      simp [enter, step_failed rest performed, carriedBy, performed, takenBy, same]
    rw [step_failed rest performed, entered]
    exact .failed performed

theorem stride_close (c : Connection α) (ledger : Ledger) :
    Stride registries z ⟨c, .closing⟩ ledger (Task.step registries z ⟨c, .closing⟩ .proceed)
      (Task.enter registries z ⟨c, .closing⟩ .proceed ledger) := by
  have stepped : Task.step registries z ⟨c, .closing⟩ .proceed =
      ⟨{ c with conversation := c.conversation.flush }, .ending (.ok ())⟩ := rfl
  have same : c.conversation.flush.session = c.conversation.session := rfl
  have entered : Task.enter registries z ⟨c, .closing⟩ .proceed ledger = ledger := by
    simp [enter, stepped, same, carriedBy, takenBy]
  rw [stepped, entered]
  exact .closed

/-- **Every move is a stride.** -/
theorem stride_step (busy : t.moment.carries) (move : Move) (ledger : Ledger) :
    Stride registries z t ledger (t.step registries z move) (t.enter registries z move ledger) := by
  by_cases alone : move = .proceed
  · subst alone
    obtain ⟨c, moment⟩ := t
    cases moment with
    | acting left =>
      cases left with
      | nil => exact stride_batch c ledger
      | cons action rest => exact stride_act c action rest ledger
    | closing => exact stride_close c ledger
    | _ => cases busy
  · exact stride_of_ne_proceed busy alone ledger

/-- What holds at first and through every stride holds at last. -/
theorem carry_induction {P : Task α → Ledger → Prop}
    (kept : ∀ t ledger t' ledger', P t ledger → Stride registries z t ledger t' ledger' →
      P t' ledger') (start : P t ledger) (moves : List Move) :
    P (carry registries z moves t ledger).1 (carry registries z moves t ledger).2 := by
  induction moves generalizing t ledger with
  | nil => exact start
  | cons move rest ih =>
    by_cases busy : t.moment.carries = true
    · rw [carry, if_pos busy]
      exact ih (kept t ledger _ _ start (stride_step busy move ledger))
    · rw [carry, if_neg busy]
      exact start

end Task

end GameTransport
