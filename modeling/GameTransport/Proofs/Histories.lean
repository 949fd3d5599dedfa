import GameTransport.Proofs.Conversations
import GameTransport.Proofs.Written

/-! # What has happened in a conversation

The history of a conversation is the list of the payloads that it has heard and of the actions that
it has carried out, each with the conversation that it found.  It is read off the same functions that
run the connection, one for each of them (`historyAll` for `performAll`, and so on), so there is one
history for every course of events (`Connection.history`).

An `Invariant` says what a history and the conversation after it have in common: between two
payloads, amid a batch, and once the conversation is over.  It has to be shown for each kind of step
alone (`Invariant.Kept`); every course of events has it then (`Invariant.Kept.run`).  That a fault or
a `disconnect` leads to `past` is the point of the three parts: nothing is heard after it.
-/

namespace GameTransport

variable {α : Type}

/-- Something that happens in a conversation, and the conversation that it finds. -/
inductive Happening (α : Type) where
  /-- A payload is handed to the active registry. -/
  | heard (payload : Bytes) (c : Conversation α)
  /-- An action is carried out. -/
  | carried (action : Action) (c : Conversation α)

/-- The conversation as it was when something happened. -/
def Happening.conversation : Happening α → Conversation α
  | heard _ c | carried _ c => c

/-! ## Histories -/

namespace Conversation

variable (z : Zlib.Library) (registries : StateRegistries (Session α))

/-- The actions of a batch that are carried out. -/
def historyAll : List Action → Conversation α → List (Happening α)
  | [], _ => []
  | action :: rest, c =>
    match perform z registries action c with
    | .ok true d => .carried action c :: historyAll rest d
    | .ok false _ => [.carried action c]
    | .error _ _ => []

/-- The actions of all batches that are carried out. -/
def historyOut (c : Conversation α) : List (Happening α) :=
  if _pending : c.session.hasPendingActions then
    historyAll z registries c.takeBatch.1 c.takeBatch.2 ++
      match _performed : performAll z registries c.takeBatch.1 c.takeBatch.2 with
      | .ok true d => historyOut d
      | .ok false _ | .error _ _ => []
  else []
termination_by c.batchesLeft
decreasing_by exact batchesLeft_lt_of_performAll z registries _pending _performed

/-- A payload and what is carried out in answer to it. -/
def historyIn (payload : Bytes) (c : Conversation α) : List (Happening α) :=
  .heard payload (c.count Metrics.received) ::
    match dispatch registries payload (c.count Metrics.received) with
    | .ok _ d => historyOut z registries d
    | .error _ _ => []

/-- The same for the payloads of a buffer. -/
def history (buffer : Bytes) (c : Conversation α) : List (Happening α) :=
  match _decoded : Codec.decode z ⟨c.codec, buffer⟩ with
  | .ok (some payload) inlet =>
    historyIn z registries payload { c with codec := inlet.codec } ++
      match answer z registries payload { c with codec := inlet.codec } with
      | .ok true d => history inlet.buffer d
      | .ok false _ | .error _ _ => []
  | .ok none _ | .error _ _ => []
termination_by buffer.length
decreasing_by exact Codec.length_lt_of_decode _decoded

variable {z registries} {c : Conversation α} {buffer payload : Bytes} {inlet : Codec.Inlet}
  {fault : Fault}

theorem historyOut_of_pending (pending : c.session.hasPendingActions) :
    historyOut z registries c =
      historyAll z registries c.takeBatch.1 c.takeBatch.2 ++
        match performAll z registries c.takeBatch.1 c.takeBatch.2 with
        | .ok true d => historyOut z registries d
        | .ok false _ | .error _ _ => [] := by
  rw [historyOut, dif_pos pending]
  congr 1
  split <;> rename_i performed <;> rw [performed]

theorem historyOut_of_idle (idle : ¬ c.session.hasPendingActions) :
    historyOut z registries c = [] := by
  rw [historyOut, dif_neg idle]

theorem history_of_some (decoded : Codec.decode z ⟨c.codec, buffer⟩ = .ok (some payload) inlet) :
    history z registries buffer c =
      historyIn z registries payload { c with codec := inlet.codec } ++
        match answer z registries payload { c with codec := inlet.codec } with
        | .ok true d => history z registries inlet.buffer d
        | .ok false _ | .error _ _ => [] := by
  rw [history]
  split <;> rename_i other <;> rw [decoded] at other <;> cases other
  rfl

theorem history_of_none (idle : Codec.decode z ⟨c.codec, buffer⟩ = .ok none inlet) :
    history z registries buffer c = [] := by
  rw [history]
  split <;> rename_i other <;> rw [idle] at other
  cases other

theorem history_of_error (failed : Codec.decode z ⟨c.codec, buffer⟩ = .error fault inlet) :
    history z registries buffer c = [] := by
  rw [history]
  split <;> rename_i other <;> rw [failed] at other
  cases other

end Conversation

namespace Connection

variable (registries : StateRegistries (Session α)) (z : Zlib.Library)

/-- What happens on an event.  Only octets lead to anything. -/
def happenings (event : Event) (c : Connection α) : List (Happening α) :=
  match event, c.phase with
  | .received (first :: rest), .opening =>
    if first = LegacyPing.opening then []
    else c.conversation.history z registries (first :: rest)
  | .received (first :: rest), .serving =>
    c.conversation.history z registries (c.buffer ++ first :: rest)
  | _, _ => []

/-- What happens in a course of events. -/
def history : List Event → Connection α → List (Happening α)
  | [], _ => []
  | event :: rest, c =>
    c.happenings registries z event ++ history rest (c.step registries z event)

variable {registries} {z}

theorem history_append (first rest : List Event) (c : Connection α) :
    c.history registries z (first ++ rest) =
      c.history registries z first ++ (c.run registries z first).history registries z rest := by
  induction first generalizing c with
  | nil => rfl
  | cons event more ih =>
    rw [List.cons_append, history, history, ih, List.append_assoc]
    rfl

end Connection

/-! ## Invariants -/

/-- What a history and the conversation after it have in common. -/
structure Invariant (α : Type) where
  /-- Between two payloads. -/
  between : List (Happening α) → Conversation α → Prop
  /-- Amid a batch, of which these actions are left. -/
  amid : List (Happening α) → List Action → Conversation α → Prop
  /-- Once nothing more is heard. -/
  past : List (Happening α) → Conversation α → Prop

/-- What holds of a history and the conversation after it at all times. -/
def Invariant.always (P : List (Happening α) → Conversation α → Prop) : Invariant α where
  between := P
  amid h _ := P h
  past := P

/-- Steps that touch neither the state nor the session, its counters apart. -/
inductive Conversation.Quiet (z : Zlib.Library) (c : Conversation α) : Conversation α → Prop where
  | counted (change : Metrics → Metrics) : Quiet z c (c.count change)
  | wrote (outgoing written : Bytes) : Quiet z c { c with outgoing, written }
  | decoded (buffer : Bytes) :
    Quiet z c { c with codec := (stateOf (Codec.decode z ⟨c.codec, buffer⟩)).codec }
  | fed (packet : Bytes) : Quiet z c (stateOf (c.feed z packet))

namespace Conversation

variable {z : Zlib.Library} {registries : StateRegistries (Session α)} {c d : Conversation α}

theorem feed_keeps (packet : Bytes) (c : Conversation α) :
    (stateOf (feed z packet c)).state = c.state ∧ (stateOf (feed z packet c)).session = c.session := by
  have kept : (if highWater ≤ c.outgoing.length then c.flush else c).state = c.state ∧
      (if highWater ≤ c.outgoing.length then c.flush else c).session = c.session := by
    split <;> exact ⟨rfl, rfl⟩
  rw [feed]
  split <;> exact kept

namespace Quiet

theorem state (quiet : Quiet z c d) : d.state = c.state := by
  cases quiet with
  | fed packet => exact (feed_keeps packet c).1
  | counted change => rfl
  | wrote outgoing written => rfl
  | decoded buffer => rfl

theorem session (quiet : Quiet z c d) : ∃ change, d.session = c.session.count change := by
  cases quiet with
  | fed packet => exact ⟨id, (feed_keeps packet c).2⟩
  | counted change => exact ⟨change, rfl⟩
  | wrote outgoing written => exact ⟨id, rfl⟩
  | decoded buffer => exact ⟨id, rfl⟩

end Quiet

/-- The conversation after a transition. -/
def moved (registries : StateRegistries (Session α)) (target : ConnectionState)
    (c : Conversation α) : Conversation α :=
  let session := (registries.active c.state).detach ((registries.active target).attach c.session)
  { c with session := { session with state := target }, state := target }

theorem perform_transition_of_canMoveTo {target : ConnectionState}
    (allowed : c.state.canMoveTo target) :
    perform z registries (.transition target) c = .ok true (c.moved registries target) := by
  rw [perform, move, StateRegistries.transition, if_pos allowed]
  rfl

/-- A transition that may not be made is not begun. -/
theorem perform_transition_of_not_canMoveTo {target : ConnectionState}
    (refused : ¬ c.state.canMoveTo target) :
    perform z registries (.transition target) c =
      .error (.invalidTransition c.state.name target.name) c := by
  rw [perform, move, StateRegistries.transition, if_neg refused]

/-- An action is a transition, or it touches neither the state nor the session, its counters
apart. -/
theorem moved_or_kept_of_perform {action : Action} {goesOn : Bool}
    (performed : perform z registries action c = .ok goesOn d) :
    (∃ target, action = .transition target ∧ c.state.canMoveTo target ∧
      d = c.moved registries target) ∨
    ((∀ target, action ≠ .transition target) ∧ d.state = c.state ∧
      ∃ change, d.session = c.session.count change) := by
  cases action with
  | transition target =>
    by_cases allowed : c.state.canMoveTo target
    · rw [perform_transition_of_canMoveTo allowed] at performed
      cases performed
      exact .inl ⟨target, rfl, allowed, rfl⟩
    · rw [perform_transition_of_not_canMoveTo allowed] at performed
      cases performed
  | send packet =>
    have kept := feed_keeps (z := z) packet c
    rw [perform] at performed
    rcases fed : feed z packet c with ⟨_, e⟩ | ⟨fault, e⟩ <;> rw [fed] at performed kept <;>
      cases performed
    exact .inr ⟨fun _ => Action.noConfusion, kept.1, Metrics.sent,
      congrArg (Session.count · Metrics.sent) kept.2⟩
  | enableCompression threshold level =>
    cases performed
    exact .inr ⟨fun _ => Action.noConfusion, rfl, id, rfl⟩
  | enableEncryption secret =>
    cases performed
    exact .inr ⟨fun _ => Action.noConfusion, rfl, id, rfl⟩
  | disconnect =>
    cases performed
    exact .inr ⟨fun _ => Action.noConfusion, rfl, id, rfl⟩

theorem kept_of_perform_error {action : Action} {fault : Fault}
    (failed : perform z registries action c = .error fault d) :
    d.state = c.state ∧ d.session = c.session := by
  cases action with
  | transition target =>
    by_cases allowed : c.state.canMoveTo target
    · rw [perform_transition_of_canMoveTo allowed] at failed
      cases failed
    · rw [perform_transition_of_not_canMoveTo allowed] at failed
      cases failed
      exact ⟨rfl, rfl⟩
  | send packet =>
    have kept := feed_keeps (z := z) packet c
    rw [perform] at failed
    rcases fed : feed z packet c with ⟨_, e⟩ | ⟨fault, e⟩ <;> rw [fed] at failed kept <;>
      cases failed
    exact kept
  | enableCompression threshold level => cases failed
  | enableEncryption secret => cases failed
  | disconnect => cases failed

/-- The only action that ends a conversation without a fault is `disconnect`. -/
theorem eq_of_perform_false {action : Action} (performed : perform z registries action c = .ok false d) :
    action = .disconnect ∧ d = c := by
  cases action with
  | transition target =>
    by_cases allowed : c.state.canMoveTo target
    · rw [perform_transition_of_canMoveTo allowed] at performed
      cases performed
    · rw [perform_transition_of_not_canMoveTo allowed] at performed
      cases performed
  | send packet =>
    rw [perform] at performed
    rcases fed : feed z packet c with ⟨_, e⟩ | ⟨fault, e⟩ <;> rw [fed] at performed <;>
      cases performed
  | enableCompression threshold level => cases performed
  | enableEncryption secret => cases performed
  | disconnect => cases performed; exact ⟨rfl, rfl⟩

end Conversation

namespace Invariant

open Conversation (Quiet perform performAll carryOut dispatch answer)

/-- What each kind of step does to an invariant. -/
structure Kept (z : Zlib.Library) (registries : StateRegistries (Session α)) (I : Invariant α) :
    Prop where
  quiet : ∀ {h c d}, I.between h c → Quiet z c d → I.between h d
  quiet_past : ∀ {h c d}, I.past h c → Quiet z c d → I.past h d
  past : ∀ {h c}, I.between h c → I.past h c
  heard : ∀ {h c d payload outcome}, I.between h c → dispatch registries payload c = .ok outcome d →
    I.amid (h ++ [.heard payload c]) [] d
  refused : ∀ {h c d payload fault}, I.between h c →
    dispatch registries payload c = .error fault d → I.past (h ++ [.heard payload c]) d
  taken : ∀ {h c}, I.amid h [] c → I.amid h c.takeBatch.1 c.takeBatch.2
  carried : ∀ {h action rest c d}, I.amid h (action :: rest) c →
    perform z registries action c = .ok true d → I.amid (h ++ [.carried action c]) rest d
  ended : ∀ {h action rest c d}, I.amid h (action :: rest) c →
    perform z registries action c = .ok false d → I.past (h ++ [.carried action c]) d
  failed : ∀ {h action rest c d fault}, I.amid h (action :: rest) c →
    perform z registries action c = .error fault d → I.past h d
  settled : ∀ {h c}, I.amid h [] c → c.session.actions = [] → I.between h c

/-- What an invariant says of a result. -/
def Holds (I : Invariant α) (h : List (Happening α)) :
    EStateM.Result Fault (Conversation α) Bool → Prop
  | .ok true d => I.between h d
  | .ok false d | .error _ d => I.past h d

variable {z : Zlib.Library} {registries : StateRegistries (Session α)} {I : Invariant α}
  {h : List (Happening α)}

/-- What holds at all times is kept if each kind of step keeps it. -/
theorem Kept.always {P : List (Happening α) → Conversation α → Prop}
    (quiet : ∀ {h c d}, P h c → Quiet z c d → P h d)
    (heard : ∀ {h c} (payload : Bytes), P h c →
      P (h ++ [.heard payload c]) (stateOf (dispatch registries payload c)))
    (taken : ∀ {h c}, P h c → P h c.takeBatch.2)
    (carried : ∀ {h action c d goesOn}, P h c → perform z registries action c = .ok goesOn d →
      P (h ++ [.carried action c]) d)
    (failed : ∀ {h action c d fault}, P h c → perform z registries action c = .error fault d →
      P h d) : (Invariant.always P).Kept z registries where
  quiet := quiet
  quiet_past := quiet
  past holds := holds
  heard {h c d payload outcome} holds dispatched := by
    have after := heard payload holds
    rw [dispatched] at after
    exact after
  refused {h c d payload fault} holds dispatched := by
    have after := heard payload holds
    rw [dispatched] at after
    exact after
  taken := taken
  carried := carried
  ended := carried
  failed := failed
  settled holds _ := holds

/-! ### One payload after another -/

namespace Kept

theorem performAll (kept : I.Kept z registries) {batch : List Action} {c : Conversation α}
    (amid : I.amid h batch c) :
    match performAll z registries batch c with
    | .ok true d => I.amid (h ++ c.historyAll z registries batch) [] d
    | .ok false d | .error _ d => I.past (h ++ c.historyAll z registries batch) d := by
  induction batch generalizing h c with
  | nil => simpa only [Conversation.performAll, Conversation.historyAll, List.append_nil] using amid
  | cons action rest ih =>
    rw [Conversation.performAll, Conversation.historyAll]
    rcases performed : perform z registries action c with ⟨_ | _, d⟩ | ⟨fault, d⟩
    · exact kept.ended amid performed
    · have later := ih (kept.carried amid performed)
      simpa only [List.append_assoc, List.singleton_append] using later
    · simpa only [List.append_nil] using kept.failed amid performed

theorem carryOut (kept : I.Kept z registries) {c : Conversation α} (amid : I.amid h [] c) :
    I.Holds (h ++ c.historyOut z registries) (carryOut z registries c) := by
  fun_induction Conversation.carryOut z registries c generalizing h with
  | case1 c pending d performed ih =>
    have batch := kept.performAll (kept.taken amid)
    rw [performed] at batch
    rw [Conversation.historyOut_of_pending pending, performed, ← List.append_assoc]
    exact ih batch
  | case2 c pending d performed =>
    have batch := kept.performAll (kept.taken amid)
    rw [performed] at batch
    rw [Conversation.historyOut_of_pending pending, performed, List.append_nil]
    exact batch
  | case3 c pending fault d performed =>
    have batch := kept.performAll (kept.taken amid)
    rw [performed] at batch
    rw [Conversation.historyOut_of_pending pending, performed, List.append_nil]
    exact batch
  | case4 c idle =>
    have empty : c.session.actions = [] := by
      simpa [Session.hasPendingActions] using idle
    rw [Conversation.historyOut_of_idle idle, List.append_nil]
    exact kept.settled amid empty

theorem answer (kept : I.Kept z registries) {c : Conversation α} (between : I.between h c)
    (payload : Bytes) :
    I.Holds (h ++ c.historyIn z registries payload) (answer z registries payload c) := by
  have counted := kept.quiet between (.counted Metrics.received)
  rw [Conversation.answer, Conversation.historyIn]
  rcases dispatched : dispatch registries payload (c.count Metrics.received) with
    ⟨outcome, d⟩ | ⟨fault, d⟩
  · have carried := kept.carryOut (kept.heard counted dispatched)
    rw [List.append_cons]
    dsimp only
    rcases out : Conversation.carryOut z registries d with ⟨_ | _, e⟩ | ⟨fault, e⟩ <;> rw [out] at carried
    · exact kept.quiet_past carried (.wrote [] (e.written ++ e.outgoing))
    · exact kept.quiet carried (.wrote [] (e.written ++ e.outgoing))
    · exact carried
  · exact kept.refused counted dispatched

/-- Decoding is a quiet step, whatever it comes to. -/
theorem decoded (kept : I.Kept z registries) {buffer : Bytes} {inlet : Codec.Inlet}
    {c : Conversation α} (between : I.between h c)
    (came : stateOf (Codec.decode z ⟨c.codec, buffer⟩) = inlet) :
    I.between h { c with codec := inlet.codec } := by
  subst came
  exact kept.quiet between (.decoded buffer)

theorem drain (kept : I.Kept z registries) {c : Conversation α} (between : I.between h c)
    (buffer : Bytes) :
    match Conversation.drain z registries buffer c with
    | .ok (some _) d => I.between (h ++ c.history z registries buffer) d
    | .ok none d | .error _ d => I.past (h ++ c.history z registries buffer) d := by
  fun_induction Conversation.drain z registries buffer c generalizing h with
  | case1 buffer c fault inlet failed =>
    have decoded := kept.decoded between (congrArg stateOf failed)
    rw [Conversation.history_of_error failed, List.append_nil]
    exact kept.past (kept.quiet decoded (.counted Metrics.received))
  | case2 buffer c inlet idle =>
    have decoded := kept.decoded between (congrArg stateOf idle)
    rw [Conversation.history_of_none idle, List.append_nil]
    exact decoded
  | case3 buffer c payload inlet whole d answered ih =>
    have decoded : I.between h { c with codec := inlet.codec } :=
      kept.decoded between (congrArg stateOf whole)
    have given := kept.answer decoded payload
    rw [answered] at given
    rw [Conversation.history_of_some whole, answered, ← List.append_assoc]
    exact ih given
  | case4 buffer c payload inlet whole d answered =>
    have decoded : I.between h { c with codec := inlet.codec } :=
      kept.decoded between (congrArg stateOf whole)
    have given := kept.answer decoded payload
    rw [answered] at given
    rw [Conversation.history_of_some whole, answered, List.append_nil]
    exact given
  | case5 buffer c payload inlet whole fault d answered =>
    have decoded : I.between h { c with codec := inlet.codec } :=
      kept.decoded between (congrArg stateOf whole)
    have given := kept.answer decoded payload
    rw [answered] at given
    rw [Conversation.history_of_some whole, answered, List.append_nil]
    exact given

end Kept

end Invariant

/-! ### One event after another -/

/-- The conversation once it has been closed: the active registry is told of a fault, and left. -/
def Conversation.closed (registries : StateRegistries (Session α)) (result : Except Fault Unit)
    (c : Conversation α) : Conversation α :=
  match result with
  | .ok () => c.leave registries
  | .error fault => (c.caught registries fault).leave registries

namespace Connection

variable {registries : StateRegistries (Session α)} {z : Zlib.Library} {I : Invariant α}
  {h : List (Happening α)} {c : Connection α} {d : Conversation α} {result : Except Fault Unit}

theorem phase_close : (c.close registries result d).phase = .closed result := by
  cases result <;> rfl

theorem result?_close (result : Except Fault Unit) (d : Conversation α) (c : Connection α) :
    (c.close registries result d).result? = some result := by
  rw [result?, phase_close]

theorem conversation_close : (c.close registries result d).conversation = d.closed registries result := by
  cases result <;> rfl

theorem mailbox_close : (c.close registries result d).mailbox = [] := by
  cases result <;> rfl

/-- What an invariant says of a connection.  A connection that has closed was over before. -/
def Obeys (registries : StateRegistries (Session α)) (I : Invariant α) (h : List (Happening α))
    (c : Connection α) : Prop :=
  match c.phase with
  | .opening | .serving => I.between h c.conversation
  | .closed result => ∃ d, I.past h d ∧ c.conversation = d.closed registries result

namespace Obeys

theorem of_open (obeys : Obeys registries I h c) (stays : c.isClosed = false) :
    I.between h c.conversation := by
  obtain ⟨conversation, readTimeout, phase, buffer, mailbox, silence, notes⟩ := c
  cases phase with
  | opening => exact obeys
  | serving => exact obeys
  | closed result => cases stays

/-- A connection is open, or it was over and has been closed. -/
theorem open_or_closed (obeys : Obeys registries I h c) :
    (c.result? = none ∧ I.between h c.conversation) ∨
    ∃ result d, c.result? = some result ∧ I.past h d ∧ c.conversation = d.closed registries result := by
  obtain ⟨conversation, readTimeout, phase, buffer, mailbox, silence, notes⟩ := c
  cases phase with
  | opening => exact .inl ⟨rfl, obeys⟩
  | serving => exact .inl ⟨rfl, obeys⟩
  | closed result =>
    obtain ⟨d, past, closed⟩ := obeys
    exact .inr ⟨result, d, rfl, past, closed⟩

theorem close (past : I.past h d) : Obeys registries I h (c.close registries result d) := by
  rw [Obeys, phase_close]
  exact ⟨d, past, conversation_close⟩

theorem drain (kept : I.Kept z registries) (serving : c.phase = .serving)
    (between : I.between h c.conversation) :
    Obeys registries I (h ++ c.conversation.history z registries c.buffer) (c.drain registries z) := by
  have drained := kept.drain between c.buffer
  rw [Connection.drain]
  rcases out : c.conversation.drain z registries c.buffer with ⟨_ | buffer, d⟩ | ⟨fault, d⟩ <;>
    rw [out] at drained
  · exact close drained
  · rw [Obeys]
    dsimp only
    rw [serving]
    exact drained
  · exact close drained

theorem answerLegacy (kept : I.Kept z registries) (between : I.between h c.conversation) :
    Obeys registries I h (c.answerLegacy registries) := by
  have told := kept.quiet between (.wrote c.conversation.outgoing
    (c.conversation.written ++ c.session.server.legacyStatus.encode))
  rw [Connection.answerLegacy]
  exact close (kept.past told)

theorem receive (kept : I.Kept z registries) {octets : Bytes} (obeys : Obeys registries I h c) :
    Obeys registries I (h ++ c.happenings registries z (.received octets))
      (c.receive registries z octets) := by
  obtain ⟨conversation, readTimeout, phase, buffer, mailbox, silence, notes⟩ := c
  rcases octets with _ | ⟨first, rest⟩
  · cases phase <;> simpa only [happenings, Connection.receive, List.append_nil] using obeys
  · cases phase with
    | opening =>
      by_cases old : first = LegacyPing.opening
      · simp only [happenings, Connection.receive, if_pos old, List.append_nil]
        exact answerLegacy kept obeys
      · simp only [happenings, Connection.receive, if_neg old]
        exact drain kept rfl obeys
    | serving => exact drain kept rfl obeys
    | closed result => simpa only [happenings, Connection.receive, List.append_nil] using obeys

theorem finish (kept : I.Kept z registries) (obeys : Obeys registries I h c) :
    Obeys registries I h (c.finish registries) := by
  rw [Connection.finish]
  cases phase : c.phase with
  | opening => exact close (kept.past (obeys.of_open (by rw [isClosed, phase]; rfl)))
  | serving =>
    have between := obeys.of_open (by rw [isClosed, phase]; rfl)
    dsimp only
    split
    · exact close (kept.past between)
    · exact close (kept.past (kept.quiet between (.counted Metrics.received)))
  | closed result => exact obeys

theorem elapse (kept : I.Kept z registries) {time : Duration} (obeys : Obeys registries I h c) :
    Obeys registries I h (c.elapse registries time) := by
  rw [Connection.elapse]
  by_cases closed : c.isClosed
  · rw [if_pos closed]
    exact obeys
  · have between := obeys.of_open (by simpa using closed)
    rw [if_neg closed]
    dsimp only
    split
    · exact close (kept.past between)
    · exact obeys

theorem deliverMessage (kept : I.Kept z registries) {message : Message} (serving : c.phase = .serving)
    (between : I.between h c.conversation) :
    Obeys registries I h (c.deliverMessage registries z message) := by
  cases message with
  | packet packet =>
    have fed := kept.quiet between (.fed packet)
    simp only [Connection.deliverMessage, Conversation.push]
    rcases out : c.conversation.feed z packet with ⟨_, d⟩ | ⟨fault, d⟩ <;> rw [out] at fed
    · have flushed := kept.quiet fed (.wrote [] (d.written ++ d.outgoing))
      rw [Obeys]
      dsimp only
      rw [serving]
      exact kept.quiet flushed (.counted Metrics.sent)
    · exact close (kept.past fed)
  | disconnect =>
    have flushed := kept.quiet between
      (.wrote [] (c.conversation.written ++ c.conversation.outgoing))
    rw [Connection.deliverMessage]
    exact close (kept.past flushed)

theorem deliverAll (kept : I.Kept z registries) {messages : List Message}
    (obeys : Obeys registries I h c) : Obeys registries I h (c.deliverAll registries z messages) := by
  induction messages generalizing c with
  | nil => exact obeys
  | cons message rest ih =>
    rw [Connection.deliverAll]
    cases phase : c.phase with
    | opening => exact obeys
    | serving =>
      have between := obeys.of_open (by rw [isClosed, phase]; rfl)
      exact ih (deliverMessage kept phase between)
    | closed result => exact obeys

theorem step (kept : I.Kept z registries) {event : Event} (obeys : Obeys registries I h c) :
    Obeys registries I (h ++ c.happenings registries z event) (c.step registries z event) := by
  cases event with
  | received octets => exact receive kept obeys
  | finished =>
    rw [happenings, List.append_nil]
    · exact finish kept obeys
    all_goals exact nofun
  | elapsed time =>
    rw [happenings, List.append_nil]
    · exact elapse kept obeys
    all_goals exact nofun
  | posted message =>
    rw [happenings, List.append_nil]
    · simp only [Connection.step, Connection.post]
      split <;> exact obeys
    all_goals exact nofun
  | delivered =>
    rw [happenings, List.append_nil]
    · simp only [Connection.step, Connection.deliver]
      split
      · exact deliverAll kept obeys
      · exact obeys
      · exact obeys
    all_goals exact nofun

end Obeys

end Connection

namespace Invariant.Kept

variable {registries : StateRegistries (Session α)} {z : Zlib.Library} {I : Invariant α}
  {h : List (Happening α)} {c : Connection α}

/-- **What every step keeps, every course of events keeps.** -/
theorem run (kept : I.Kept z registries) (obeys : c.Obeys registries I h) (events : List Event) :
    (c.run registries z events).Obeys registries I (h ++ c.history registries z events) := by
  induction events generalizing h c with
  | nil =>
    rw [Connection.history, List.append_nil]
    exact obeys
  | cons event rest ih =>
    rw [Connection.history, ← List.append_assoc]
    exact ih (obeys.step kept)

/-- A connection that has just been accepted has no history. -/
theorem start (kept : I.Kept z registries) {session : Session α}
    (entered : I.between [] (({ session : Conversation α }).enter registries)) :
    (Connection.start registries session).Obeys registries I [] :=
  Connection.Obeys.elapse kept entered

end Invariant.Kept

end GameTransport
