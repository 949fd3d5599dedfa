import GameTransport.Proofs.Hooks
import GameTransport.Proofs.Login
import GameTransport.Proofs.Tables

/-! # The state that callbacks see

A session knows a state, and only a transition that has been carried out changes it.  So handlers,
detach hooks and exception hooks find the state whose registry they belong to.  An attach hook does
not: the session is told of a transition after both hooks, and the hook of the new registry finds the
state that is left.

`disconnectWith` goes by the state of the session (`goodbye`).  Called from an attach hook, it queues
the packet of the state that is left, which is sent in the state that is entered
(`Connection.attach_sees_state_left`).
-/

namespace GameTransport

variable {α : Type} {registries : StateRegistries (Session α)} {z : Zlib.Library}

/-! ## Callbacks that leave the state alone -/

/-- The callbacks of a registry leave the state of the session alone.  Setting it is left to the
connection. -/
structure Registry.LeavesState (registry : Registry (Session α)) : Prop where
  attach : ∀ session, (registry.attach session).state = session.state
  detach : ∀ session, (registry.detach session).state = session.state
  caught : ∀ fault session, (registry.caught fault session).state = session.state
  handler : ∀ id entry handler, registry.entry? id = some entry → entry.handler = some handler →
    ∀ packet session, (stateOf (handler packet session)).state = session.state

/-- All callbacks leave the state of the session alone. -/
def StateRegistries.LeaveState (registries : StateRegistries (Session α)) : Prop :=
  ∀ state, (registries.active state).LeavesState

theorem stateOf_withState {ε σ τ β : Type} (f : σ → τ) (result : EStateM.Result ε σ β) :
    stateOf (withState f result) = f (stateOf result) := by
  cases result <;> rfl

/-- So a dispatch leaves it alone. -/
theorem Conversation.state_dispatch (leave : registries.LeaveState) (payload : Bytes)
    (c : Conversation α) :
    (stateOf (dispatch registries payload c)).session.state = c.session.state := by
  have kept : (stateOf ((c.active registries).dispatch payload c.session)).state =
      c.session.state := by
    refine Registry.stateOf_dispatch (P := fun after : Session α => after.state = c.session.state) rfl ?_ payload
    intro id entry handler known takes packet
    exact (leave c.state).handler id entry handler known takes packet c.session
  rw [dispatch]
  rcases outcome : (c.active registries).dispatch payload c.session with
    ⟨given, after⟩ | ⟨fault, after⟩ <;> rw [outcome] at kept <;> exact kept

/-! ## Calls -/

/-- What a callback called during a course of events finds: the state of its registry, or, if it
attaches the registry, the state that is left for it. -/
def Call.Sees (call : Call α) : Prop :=
  match call.occasion with
  | .attach => call.session.state.canMoveTo call.state
  | .packet _ | .detach | .caught _ => call.session.state = call.state

/-- The first registry is attached to a session, and every later callback finds its state. -/
def Seen (session : Session α) (calls : List (Call α)) : Prop :=
  ∃ rest, calls = ⟨.handshaking, .attach, session.count Metrics.opened⟩ :: rest ∧
    ∀ call ∈ rest, call.Sees

theorem Seen.append {session : Session α} {calls more : List (Call α)} (seen : Seen session calls)
    (sees : ∀ call ∈ more, call.Sees) : Seen session (calls ++ more) := by
  obtain ⟨rest, rfl, earlier⟩ := seen
  refine ⟨rest ++ more, rfl, ?_⟩
  intro call member
  rcases List.mem_append.mp member with member | member
  · exact earlier call member
  · exact sees call member

namespace Conversation

/-- The session knows the state of the conversation, and so did the callbacks. -/
structure Informed (session : Session α) (c : Conversation (Recorded α)) : Prop where
  state : c.session.state = c.state
  seen : Seen session c.session.app.2

variable {session : Session α}

theorem informed_kept (leave : registries.LeaveState) :
    (Invariant.always fun _ (c : Conversation (Recorded α)) => c.Informed session).Kept z
      registries.recorded := by
  apply Invariant.Kept.always
  case quiet =>
    rintro h c d ⟨state, seen⟩ quiet
    obtain ⟨change, same⟩ := quiet.session
    constructor
    · rw [same, quiet.state]
      exact state
    · rw [same]
      exact seen
  case heard =>
    rintro h c payload ⟨state, seen⟩
    have unrecorded := congrArg stateOf (@dispatch_recorded α registries c payload)
    rw [stateOf_withState] at unrecorded
    have told := state_dispatch leave payload c.plain
    rw [← unrecorded] at told
    obtain ⟨same, calls | ⟨packet, calls⟩⟩ := @calls_dispatch_recorded α registries c payload
    · refine ⟨(told.trans state).trans same.symm, ?_⟩
      rw [calls]
      exact seen
    · refine ⟨(told.trans state).trans same.symm, ?_⟩
      rw [calls]
      apply seen.append
      have found : c.session.plain.state = c.state := state
      simpa [Call.Sees] using found
  case taken => exact fun informed => ⟨informed.state, informed.seen⟩
  case carried =>
    rintro h action c d goesOn ⟨state, seen⟩ performed
    rcases moved_or_kept_of_perform performed with
      ⟨target, rfl, allowed, rfl⟩ | ⟨-, same, change, session⟩
    · refine ⟨rfl, ?_⟩
      rw [calls_moved_recorded]
      apply seen.append
      have attaching : c.session.plain.state.canMoveTo target := by
        rw [← state] at allowed
        exact allowed
      have detaching : ((registries.active target).attach c.session.plain).state = c.state :=
        ((leave target).attach c.session.plain).trans state
      simpa [Call.Sees] using ⟨attaching, detaching⟩
    · refine ⟨?_, ?_⟩
      · rw [same, session]
        exact state
      · rw [session]
        exact seen
  case failed =>
    rintro h action c d fault ⟨state, seen⟩ failed
    obtain ⟨same, session⟩ := kept_of_perform_error failed
    constructor
    · rw [session, same]
      exact state
    · rw [session]
      exact seen

/-- The hooks at the end find the last state. -/
theorem Informed.closed {c : Conversation (Recorded α)} (leave : registries.LeaveState)
    (informed : c.Informed session) (result : Except Fault Unit) :
    Seen session (c.closed registries.recorded result).session.app.2 := by
  obtain ⟨state, seen⟩ := informed
  have found : c.session.plain.state = c.state := state
  rcases result with fault | ⟨⟨⟩⟩
  · have told : (caught registries.recorded fault c).session.plain.state = c.state := by
      change (caught registries.recorded fault c).plain.session.state = c.state
      rw [caught_recorded, ← state]
      simp only [caught]
      split <;> exact (leave c.state).caught fault c.session.plain
    rw [Conversation.closed, calls_leave_recorded, calls_caught_recorded, state_caught,
      ← List.append_cons]
    apply seen.append
    simpa [Call.Sees] using ⟨found, told⟩
  · rw [Conversation.closed, calls_leave_recorded]
    apply seen.append
    simpa [Call.Sees] using found

end Conversation

namespace Connection

/-- Every callback but the first finds what it is to find. -/
theorem seen_calls (leave : registries.LeaveState) {session : Session α}
    (fresh : session.state = .handshaking) (events : List Event) :
    Seen session (calls registries z session events) := by
  have kept := @Conversation.informed_kept α registries z session leave
  have entered : (({ session := session.withRecord [] : Conversation (Recorded α) }).enter
      registries.recorded).Informed session := by
    constructor
    · simp only [Conversation.enter, Conversation.active]
      rw [StateRegistries.active_recorded]
      exact ((leave .handshaking).attach (session.count Metrics.opened)).trans fresh
    · rw [Conversation.calls_enter_recorded]
      exact ⟨[], rfl, List.forall_mem_nil _⟩
  have obeys := kept.run (kept.start entered) events
  rw [calls]
  rcases obeys.open_or_closed with ⟨-, informed⟩ | ⟨result, d, -, informed, closed⟩
  · exact informed.seen
  · have seen := informed.closed leave result
    rw [← closed] at seen
    exact seen

end Connection

/-! ## The default callbacks -/

namespace Handlers

theorem state_loginStart (packet : LoginStart) (session : Session α) :
    (stateOf (loginStart packet session)).state = session.state := by
  rcases loginStart_cases packet session with ⟨fault, -, refused⟩ | ⟨-, -, done⟩
  · rw [refused]
    rfl
  · rw [done]
    cases session.server.key with
    | none => exact (finishLogin_keeps _).1
    | some key => rfl

theorem state_encryptionResponse (packet : EncryptionResponse) (session : Session α) :
    (stateOf (encryptionResponse packet session)).state = session.state := by
  rcases encryptionResponse_cases packet session with
    ⟨fault, -, refused⟩ | ⟨_, _, secret, -, -, -, done⟩
  · rw [refused]
    rfl
  · rw [done]
    exact (finishLogin_keeps _).1

/-- The default callbacks leave the state of the session to the connection. -/
theorem leaveState_registries :
    StateRegistries.LeaveState (Handlers.registries : StateRegistries (Session α)) := by
  intro state
  cases state with
  | handshaking =>
    refine ⟨fun _ => rfl, fun _ => rfl, fun _ _ => rfl, ?_⟩
    intro id entry handler known takes packet session
    cases eq_of_entry?_handshaking known
    cases takes
    rfl
  | status =>
    refine ⟨fun _ => rfl, fun _ => rfl, fun _ _ => rfl, ?_⟩
    intro id entry handler known takes packet session
    rcases eq_of_entry?_status known with rfl | rfl <;> cases takes <;> rfl
  | login =>
    refine ⟨fun _ => rfl, fun _ => rfl, fun _ _ => rfl, ?_⟩
    intro id entry handler known takes packet session
    rcases eq_of_entry?_login known with rfl | rfl <;> cases takes
    · exact state_loginStart packet session
    · exact state_encryptionResponse packet session
  | play =>
    refine ⟨fun _ => rfl, fun _ => rfl, fun _ _ => rfl, ?_⟩
    intro id entry handler known takes packet session
    cases eq_of_entry?_play known
    cases takes
    rfl

end Handlers

/-! ## Saying goodbye -/

/-- What is queued by way of goodbye in a state. -/
def goodbye (state : ConnectionState) (reason : String) : List Action :=
  match state with
  | .login => [.send (Packet.encode (LoginDisconnect.mk (Session.reasonJson reason))), .disconnect]
  | .play => [.send (Packet.encode (Disconnect.mk (Session.reasonJson reason))), .disconnect]
  | .handshaking | .status => [.disconnect]

theorem actions_disconnectWith (session : Session α) (reason : String) :
    (session.disconnectWith reason).actions = session.actions ++ goodbye session.state reason := by
  simp only [Session.disconnectWith, goodbye]
  cases session.state with
  | handshaking => rfl
  | status => rfl
  | login => exact List.append_assoc _ [_] [_]
  | play => exact List.append_assoc _ [_] [_]

namespace Connection

/-- **A callback sees the state whose registry it belongs to, unless it is the attach hook of a
transition**: that one sees the state that is left.  What a callback says by way of goodbye is what
the state it sees has for it. -/
theorem calls_see_states (registries : StateRegistries (Session α)) (z : Zlib.Library)
    (session : Session α) (leave : registries.LeaveState) (fresh : session.state = .handshaking)
    (events : List Event) :
    ∃ rest, calls registries z session events =
        ⟨.handshaking, .attach, session.count Metrics.opened⟩ :: rest ∧
      ∀ call ∈ calls registries z session events,
        (call.session.state = call.state ∨
          call ∈ rest ∧ call.occasion = .attach ∧ call.session.state.canMoveTo call.state) ∧
        (call.occasion ≠ .attach → call.session.state = call.state) ∧
        ∀ (within : Session α) (reason : String), within.state = call.session.state →
          (within.disconnectWith reason).actions =
            within.actions ++ goodbye call.session.state reason := by
  obtain ⟨rest, first, sees⟩ := @seen_calls α registries z leave session fresh events
  refine ⟨rest, first, ?_⟩
  intro call member
  rw [first, List.mem_cons] at member
  refine ⟨?_, ?_, ?_⟩
  · rcases member with rfl | member
    · exact .inl fresh
    · have saw := sees call member
      rw [Call.Sees] at saw
      split at saw
      · exact .inr ⟨member, ‹_›, saw⟩
      all_goals exact .inl saw
  · intro other
    rcases member with rfl | member
    · exact fresh
    · have saw := sees call member
      rw [Call.Sees] at saw
      split at saw
      · exact absurd ‹_› other
      all_goals exact saw
  · intro within reason same
    rw [actions_disconnectWith, same]

/-- The default callbacks, called on the handshake of a client that asks for LOGIN. -/
theorem calls_see_states_handshake :
    let events : List Event := [.received (16 :: Packet.encode Login.firstPlayer.handshake)]
    StateRegistries.LeaveState (Handlers.registries : StateRegistries (Session Unit)) ∧
      firstSession.state = .handshaking ∧
      ∃ rest, calls Handlers.registries .stored firstSession events =
          ⟨.handshaking, .attach, firstSession.count Metrics.opened⟩ :: rest ∧
        ∀ call ∈ calls Handlers.registries .stored firstSession events,
          call.occasion ≠ .attach → call.session.state = call.state := by
  intro events
  obtain ⟨rest, first, sees⟩ := calls_see_states Handlers.registries .stored firstSession
    Handlers.leaveState_registries rfl events
  exact ⟨Handlers.leaveState_registries, rfl, rest, first, fun call member => (sees call member).2.1⟩

/-- Moves to another state on any packet. -/
def moveOn (target : ConnectionState) : Handler (Session α) StatusRequest :=
  fun _ => modify (·.requestTransition target)

/-- Registries that lead to PLAY and say goodbye there at once. -/
def refusing : StateRegistries (Session α) :=
  let empty : Registry.Builder (Session α) := { name := "" }
  { handshaking := (empty.addWith (moveOn .login)).build
    status := empty.build
    login := (empty.addWith (moveOn .play)).build
    play := (empty.onAttach (·.disconnectWith "full")).build }

/-- The attach hook of PLAY sees LOGIN, so its goodbye is a LoginDisconnect in PLAY, where the number
of that packet is another's. -/
theorem attach_sees_state_left :
    (∃ call ∈ calls refusing .stored firstSession [.received [1, 0, 1, 0]],
      call.state = .play ∧ call.occasion = .attach ∧ call.session.state = .login) ∧
    ((start refusing firstSession).run refusing .stored [.received [1, 0, 1, 0]]).conversation.written
      = 17 :: Packet.encode (LoginDisconnect.mk (Session.reasonJson "full")) := by
  decide +kernel

end Connection

end GameTransport
