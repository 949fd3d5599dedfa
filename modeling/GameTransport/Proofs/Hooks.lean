import GameTransport.ProtocolState
import GameTransport.Proofs.Callbacks
import GameTransport.Proofs.Histories

/-! # Attached and detached in pairs

The hooks called on a connection spell out the states that it comes to (`Path`): the first registry is
attached, with every transition the next one is attached and the last one detached, and the end
detaches the one that is left.  A fault is told to that one first.  So the record of the hooks can be
written down from the states and the result alone (`Connection.hooks_paired`), whatever handlers and
hooks do.

The registry that is active is kept beside the state.  `ProtocolState.follow` carries the transitions
of a history out on both, and finds at every moment the registry that belongs to the state.
-/

namespace GameTransport

variable {α : Type}

/-! ## Protocol states along a history -/

namespace ProtocolState

/-- The protocol state in which the active registry is the one that belongs to the state. -/
def settled {σ : Type} (registries : StateRegistries σ) (state : ConnectionState) :
    ProtocolState σ where
  registries
  state
  active := registries.active state

theorem transition_settled {σ : Type} {registries : StateRegistries σ}
    {source target : ConnectionState} (allowed : source.canMoveTo target) (context : σ) :
    (settled registries source).transition target context =
      (.ok (), settled registries target,
        (registries.active source).detach ((registries.active target).attach context)) := by
  rw [transition, if_pos (by exact allowed)]
  rfl

/-- A move that the arrows do not allow changes nothing and runs no hook. -/
theorem transition_of_not_canMoveTo {σ : Type} {protocol : ProtocolState σ}
    {target : ConnectionState} (refused : ¬ protocol.state.canMoveTo target) (context : σ) :
    protocol.transition target context =
      (.error (.invalidTransition protocol.state.name target.name), protocol, context) := by
  rw [transition, if_neg refused]

/-- The protocol state after something has happened: only transitions concern it. -/
def observe (protocol : ProtocolState (Session α)) : Happening α → ProtocolState (Session α)
  | .carried (.transition target) c => (protocol.transition target c.session).2.1
  | .carried _ _ | .heard _ _ => protocol

/-- The protocol state after a history. -/
def follow (protocol : ProtocolState (Session α)) (h : List (Happening α)) :
    ProtocolState (Session α) :=
  h.foldl observe protocol

variable {registries : StateRegistries (Session α)} {z : Zlib.Library}

/-- At every moment of a history the active registry is the one of the conversation's state. -/
def Follows (registries : StateRegistries (Session α)) (h : List (Happening α))
    (c : Conversation α) : Prop :=
  (∀ before happening, before ++ [happening] <+: h →
    (start registries).follow before = settled registries happening.conversation.state) ∧
  (start registries).follow h = settled registries c.state

theorem Follows.concat {h : List (Happening α)} {c d : Conversation α} {happening : Happening α}
    (follows : Follows registries h c) (found : happening.conversation.state = c.state)
    (left : (settled registries c.state).observe happening = settled registries d.state) :
    Follows registries (h ++ [happening]) d := by
  obtain ⟨moments, last⟩ := follows
  constructor
  · intro before other within
    rcases List.prefix_concat_iff.mp within with whole | earlier
    · obtain ⟨rfl, same⟩ := List.append_inj' whole rfl
      cases same
      rw [last, found]
    · exact moments before other earlier
  · rw [follow, List.foldl_append, List.foldl_cons, List.foldl_nil]
    exact (congrArg (observe · happening) last).trans left

theorem follows_kept : (Invariant.always (Follows registries)).Kept z registries := by
  apply Invariant.Kept.always
  case quiet =>
    intro h c d follows quiet
    rw [Follows, quiet.state]
    exact follows
  case heard =>
    intro h c payload follows
    refine follows.concat rfl ?_
    rw [Conversation.dispatch]
    split <;> rfl
  case taken => exact fun follows => follows
  case carried =>
    intro h action c d goesOn follows performed
    refine follows.concat rfl ?_
    rcases Conversation.moved_or_kept_of_perform performed with
      ⟨target, rfl, allowed, rfl⟩ | ⟨other, same, -⟩
    · rw [observe, transition_settled allowed]
      rfl
    · rw [same]
      cases action with
      | transition target => exact absurd rfl (other target)
      | send packet => rfl
      | enableCompression threshold level => rfl
      | enableEncryption secret => rfl
      | disconnect => rfl
  case failed =>
    intro h action c d fault follows failed
    rw [Follows, (Conversation.kept_of_perform_error failed).1]
    exact follows

end ProtocolState

/-! ## Hooks on record -/

/-- The states that a connection comes to, in their order. -/
abbrev Path : Type := List ConnectionState

/-- A call of a hook: of which state's registry, and what for. -/
abbrev HookCall : Type := ConnectionState × Occasion

namespace Path

/-- Along the arrows, from the first state on. -/
def IsLegal (path : Path) : Prop :=
  path <+: [.handshaking, .status] ∨ path <+: [.handshaking, .login, .play]

instance (path : Path) : Decidable (IsLegal path) := inferInstanceAs (Decidable (_ ∨ _))

/-- The hooks called in moves from a state through others. -/
def moves : ConnectionState → Path → List HookCall
  | _, [] => []
  | source, target :: rest => (target, .attach) :: (source, .detach) :: moves target rest

/-- The hooks called on a connection that has come to these states. -/
def hooks : Path → List HookCall
  | [] => []
  | first :: rest => (first, .attach) :: moves first rest

/-- The hooks called on a connection that ends. -/
def farewell (last : ConnectionState) : Option (Except Fault Unit) → List HookCall
  | none => []
  | some (.ok ()) => [(last, .detach)]
  | some (.error fault) => [(last, .caught fault), (last, .detach)]

/-- The fault that a connection ends with, and the state whose hook is told. -/
def raised (last : ConnectionState) : Option (Except Fault Unit) → List (ConnectionState × Fault)
  | some (.error fault) => [(last, fault)]
  | some (.ok ()) | none => []

variable {path : Path} {source target : ConnectionState}

theorem nodup_of_isLegal (legal : IsLegal path) : path.Nodup := by
  rcases legal with within | within <;> exact within.sublist.nodup (by decide)

theorem isLegal_cases (legal : IsLegal path) :
    path = [] ∨ path = [.handshaking] ∨ path = [.handshaking, .status] ∨
      path = [.handshaking, .login] ∨ path = [.handshaking, .login, .play] := by
  simp only [IsLegal, List.prefix_cons_iff, List.prefix_nil] at legal
  rcases legal with (rfl | ⟨_, rfl, rfl | ⟨_, rfl, rfl⟩⟩) |
    (rfl | ⟨_, rfl, rfl | ⟨_, rfl, rfl | ⟨_, rfl, rfl⟩⟩⟩) <;> simp

theorem isLegal_concat (legal : IsLegal path) (last : path.getLast? = some source)
    (allowed : source.canMoveTo target) : IsLegal (path ++ [target]) := by
  rcases isLegal_cases legal with rfl | rfl | rfl | rfl | rfl <;> cases last <;> cases target <;>
    revert allowed <;> decide

theorem moves_concat (last : (source :: path).getLast? = some target) (next : ConnectionState) :
    moves source (path ++ [next]) = moves source path ++ [(next, .attach), (target, .detach)] := by
  induction path generalizing source with
  | nil => cases last; rfl
  | cons first rest ih =>
    rw [List.getLast?_cons_cons] at last
    rw [List.cons_append, moves, moves, ih last, List.cons_append, List.cons_append]

theorem hooks_concat (last : path.getLast? = some source) (target : ConnectionState) :
    hooks (path ++ [target]) = hooks path ++ [(target, .attach), (source, .detach)] := by
  cases path with
  | nil => cases last
  | cons first rest => rw [List.cons_append, hooks, hooks, moves_concat last, List.cons_append]

end Path

/-- The calls of hooks among calls. -/
def hooksOf (calls : List (Call α)) : List HookCall :=
  calls.filterMap fun call =>
    match call.occasion with
    | .packet _ => none
    | occasion => some (call.state, occasion)

/-- The states whose hooks are called for an occasion. -/
def statesOf (occasion : Occasion) (hooks : List HookCall) : List ConnectionState :=
  (hooks.filter (·.2 = occasion)).map (·.1)

/-- The faults that hooks are told of, each with the state of the registry. -/
def faultsOf (hooks : List HookCall) : List (ConnectionState × Fault) :=
  hooks.filterMap fun (state, occasion) =>
    match occasion with
    | .caught fault => some (state, fault)
    | _ => none

theorem hooksOf_append (calls more : List (Call α)) :
    hooksOf (calls ++ more) = hooksOf calls ++ hooksOf more := List.filterMap_append

theorem statesOf_append (occasion : Occasion) (hooks more : List HookCall) :
    statesOf occasion (hooks ++ more) = statesOf occasion hooks ++ statesOf occasion more := by
  rw [statesOf, List.filter_append, List.map_append]
  rfl

theorem faultsOf_append (hooks more : List HookCall) :
    faultsOf (hooks ++ more) = faultsOf hooks ++ faultsOf more := List.filterMap_append

namespace Path

theorem statesOf_attach_moves (source : ConnectionState) (path : Path) :
    statesOf .attach (moves source path) = path := by
  induction path generalizing source with
  | nil => rfl
  | cons target rest ih =>
    change target :: statesOf .attach (moves target rest) = target :: rest
    rw [ih]

theorem statesOf_detach_moves (source : ConnectionState) (path : Path) :
    statesOf .detach (moves source path) = (source :: path).dropLast := by
  induction path generalizing source with
  | nil => rfl
  | cons target rest ih =>
    change source :: statesOf .detach (moves target rest) = source :: (target :: rest).dropLast
    rw [ih]

theorem faultsOf_moves (source : ConnectionState) (path : Path) :
    faultsOf (moves source path) = [] := by
  induction path generalizing source with
  | nil => rfl
  | cons target rest ih => exact ih target

theorem statesOf_attach_hooks (path : Path) : statesOf .attach path.hooks = path := by
  cases path with
  | nil => rfl
  | cons first rest => exact congrArg (first :: ·) (statesOf_attach_moves first rest)

theorem statesOf_detach_hooks (path : Path) : statesOf .detach path.hooks = path.dropLast := by
  cases path with
  | nil => rfl
  | cons first rest => exact statesOf_detach_moves first rest

theorem faultsOf_hooks (path : Path) : faultsOf path.hooks = [] := by
  cases path with
  | nil => rfl
  | cons first rest => exact faultsOf_moves first rest

end Path

/-! ## The record of a connection -/

/-- The calls of a connection that has come to the states of a path.  All hooks that are called are
those that the path and the result tell. -/
structure Paired (state : ConnectionState) (result? : Option (Except Fault Unit)) (path : Path)
    (calls : List (Call α)) : Prop where
  legal : path.IsLegal
  last : path.getLast? = some state
  hooks : hooksOf calls = path.hooks ++ Path.farewell state result?
  /-- What is neither attached nor detached is the registry that was attached last. -/
  active : ∀ before call, before ++ [call] <+: calls → call.occasion ≠ .attach →
    call.occasion ≠ .detach → (statesOf .attach (hooksOf before)).getLast? = some call.state

namespace Paired

variable {state target : ConnectionState} {result? : Option (Except Fault Unit)} {path : Path}
  {calls : List (Call α)}

theorem attached (paired : Paired state result? path calls) :
    statesOf .attach (hooksOf calls) = path := by
  rw [paired.hooks, statesOf_append, Path.statesOf_attach_hooks]
  rcases result? with _ | ⟨fault⟩ | ⟨⟨⟩⟩ <;> exact List.append_nil path

theorem detached {result : Except Fault Unit} (paired : Paired state (some result) path calls) :
    statesOf .detach (hooksOf calls) = path := by
  have whole : path.dropLast ++ [state] = path := by
    obtain ⟨before, rfl⟩ := List.getLast?_eq_some_iff.mp paired.last
    rw [List.dropLast_concat]
  rw [paired.hooks, statesOf_append, Path.statesOf_detach_hooks]
  rcases result with ⟨fault⟩ | ⟨⟨⟩⟩ <;> exact whole

theorem faults (paired : Paired state result? path calls) :
    faultsOf (hooksOf calls) = Path.raised state result? := by
  rw [paired.hooks, faultsOf_append, Path.faultsOf_hooks, List.nil_append]
  rcases result? with _ | ⟨fault⟩ | ⟨⟨⟩⟩ <;> rfl

/-- One more call, of the registry attached last. -/
theorem active_concat (paired : Paired state result? path calls) {call : Call α}
    (served : call.occasion ≠ .attach → call.occasion ≠ .detach → call.state = state) :
    ∀ before other, before ++ [other] <+: calls ++ [call] → other.occasion ≠ .attach →
      other.occasion ≠ .detach →
        (statesOf .attach (hooksOf before)).getLast? = some other.state := by
  intro before other within raised raised'
  rcases List.prefix_concat_iff.mp within with whole | earlier
  · obtain ⟨rfl, same⟩ := List.append_inj' whole rfl
    cases same
    rw [paired.attached, paired.last, served raised raised']
  · exact paired.active before other earlier raised raised'

theorem start (session : Session α) :
    Paired .handshaking none [.handshaking] [⟨.handshaking, .attach, session⟩] where
  legal := by decide
  last := rfl
  hooks := rfl
  active := by
    rintro before call ⟨after, whole⟩ raised
    cases before with
    | nil => cases whole; exact absurd rfl raised
    | cons first rest => simp at whole

theorem packet (paired : Paired state none path calls) (packet : Bytes) (session : Session α) :
    Paired state none path (calls ++ [⟨state, .packet packet, session⟩]) where
  legal := paired.legal
  last := paired.last
  hooks := by
    rw [hooksOf_append, ← paired.hooks]
    exact List.append_nil _
  active := paired.active_concat fun _ _ => rfl

theorem move (paired : Paired state none path calls) (allowed : state.canMoveTo target)
    (attaching detaching : Session α) :
    Paired target none (path ++ [target])
      (calls ++ [⟨target, .attach, attaching⟩, ⟨state, .detach, detaching⟩]) where
  legal := Path.isLegal_concat paired.legal paired.last allowed
  last := List.getLast?_concat
  hooks := by
    rw [Path.hooks_concat paired.last, hooksOf_append, paired.hooks]
    simp only [Path.farewell, List.append_nil]
    rfl
  active := by
    intro before call within raised raised'
    rw [List.append_cons calls] at within
    rcases List.prefix_concat_iff.mp within with whole | earlier
    · obtain ⟨-, same⟩ := List.append_inj' whole rfl
      cases same
      exact absurd rfl raised'
    · exact paired.active_concat (fun raised => absurd rfl raised) before call earlier raised raised'

/-- The end without a fault. -/
theorem leave (paired : Paired state none path calls) (session : Session α) :
    Paired state (some (.ok ())) path (calls ++ [⟨state, .detach, session⟩]) where
  legal := paired.legal
  last := paired.last
  hooks := by
    rw [hooksOf_append, paired.hooks]
    simp only [Path.farewell, List.append_nil]
    rfl
  active := paired.active_concat fun _ raised => absurd rfl raised

/-- The end with a fault. -/
theorem fail (paired : Paired state none path calls) (fault : Fault) (told detaching : Session α) :
    Paired state (some (.error fault)) path
      (calls ++ [⟨state, .caught fault, told⟩, ⟨state, .detach, detaching⟩]) where
  legal := paired.legal
  last := paired.last
  hooks := by
    rw [hooksOf_append, paired.hooks]
    simp only [Path.farewell, List.append_nil]
    rfl
  active := by
    intro before call within raised raised'
    rw [List.append_cons calls] at within
    rcases List.prefix_concat_iff.mp within with whole | earlier
    · obtain ⟨-, same⟩ := List.append_inj' whole rfl
      cases same
      exact absurd rfl raised'
    · exact paired.active_concat (fun _ _ => rfl) before call earlier raised raised'

end Paired

namespace Conversation

variable {registries : StateRegistries (Session α)} {z : Zlib.Library}

/-- The calls of a conversation are those of one that has come to the states of a path. -/
def IsPaired (c : Conversation (Recorded α)) : Prop :=
  ∃ path, Paired c.state none path c.session.app.2

variable (registries) in
theorem calls_moved_recorded (target : ConnectionState) (c : Conversation (Recorded α)) :
    (c.moved registries.recorded target).session.app.2 =
      c.session.app.2 ++ [⟨target, .attach, c.session.plain⟩,
        ⟨c.state, .detach, (registries.active target).attach c.session.plain⟩] := by
  rw [moved, StateRegistries.active_recorded, StateRegistries.active_recorded]
  exact List.append_assoc _ _ _

variable (registries) in
theorem calls_enter_recorded (c : Conversation (Recorded α)) :
    (c.enter registries.recorded).session.app.2 =
      c.session.app.2 ++ [⟨c.state, .attach, (c.count Metrics.opened).session.plain⟩] := by
  simp only [enter, active]
  rw [StateRegistries.active_recorded]
  rfl

theorem state_caught (fault : Fault) (c : Conversation α) :
    (caught registries fault c).state = c.state := by
  simp only [caught]
  split <;> rfl

variable (registries) in
theorem calls_caught_recorded (fault : Fault) (c : Conversation (Recorded α)) :
    (caught registries.recorded fault c).session.app.2 =
      c.session.app.2 ++ [⟨c.state, .caught fault, c.session.plain⟩] := by
  simp only [caught, active]
  rw [StateRegistries.active_recorded]
  split <;> rfl

variable (registries) in
theorem calls_leave_recorded (c : Conversation (Recorded α)) :
    (c.leave registries.recorded).session.app.2 =
      c.session.app.2 ++ [⟨c.state, .detach, c.session.plain⟩] := by
  simp only [leave, active]
  rw [StateRegistries.active_recorded]
  rfl

theorem isPaired_kept :
    (Invariant.always fun _ (c : Conversation (Recorded α)) => c.IsPaired).Kept z
      registries.recorded := by
  apply Invariant.Kept.always
  case quiet =>
    intro h c d paired quiet
    obtain ⟨change, same⟩ := quiet.session
    rw [IsPaired, quiet.state, same]
    exact paired
  case heard =>
    intro h c payload paired
    obtain ⟨path, paired⟩ := paired
    obtain ⟨same, calls | ⟨packet, calls⟩⟩ := @calls_dispatch_recorded α registries c payload
    · refine ⟨path, ?_⟩
      rw [same, calls]
      exact paired
    · refine ⟨path, ?_⟩
      rw [same, calls]
      exact paired.packet packet c.session.plain
  case taken => exact fun paired => paired
  case carried =>
    intro h action c d goesOn paired performed
    rcases moved_or_kept_of_perform performed with
      ⟨target, rfl, allowed, rfl⟩ | ⟨-, same, change, session⟩
    · obtain ⟨path, paired⟩ := paired
      refine ⟨path ++ [target], ?_⟩
      rw [calls_moved_recorded]
      exact paired.move allowed _ _
    · rw [IsPaired, same, session]
      exact paired
  case failed =>
    intro h action c d fault paired failed
    obtain ⟨state, session⟩ := kept_of_perform_error failed
    rw [IsPaired, state, session]
    exact paired

theorem state_closed (result : Except Fault Unit) (c : Conversation α) :
    (c.closed registries result).state = c.state := by
  rcases result with fault | ⟨⟨⟩⟩
  · exact state_caught fault c
  · rfl

variable (registries) in
/-- The end of a conversation concludes its calls. -/
theorem IsPaired.closed {c : Conversation (Recorded α)} (paired : c.IsPaired)
    (result : Except Fault Unit) :
    ∃ path, Paired c.state (some result) path
      (c.closed registries.recorded result).session.app.2 := by
  obtain ⟨path, paired⟩ := paired
  refine ⟨path, ?_⟩
  rcases result with fault | ⟨⟨⟩⟩
  · rw [Conversation.closed, calls_leave_recorded, calls_caught_recorded, state_caught,
      ← List.append_cons]
    exact paired.fail fault _ _
  · rw [Conversation.closed, calls_leave_recorded]
    exact paired.leave _

end Conversation

namespace Connection

section

variable (registries : StateRegistries (Session α)) (z : Zlib.Library) (session : Session α)
  (events : List Event)

theorem exists_result_of_isClosed {c : Connection α} (closed : c.isClosed) :
    ∃ result, c.result? = some result := by
  obtain ⟨conversation, readTimeout, phase, buffer, mailbox, silence, notes⟩ := c
  cases phase with
  | opening => cases closed
  | serving => cases closed
  | closed result => exact ⟨result, rfl⟩

/-- The calls of a course of events belong to the states that the connection comes to. -/
theorem exists_paired :
    ∃ path, Paired ((start registries session).run registries z events).conversation.state
      ((start registries session).run registries z events).result? path
      (calls registries z session events) := by
  have kept := @Conversation.isPaired_kept α registries z
  have entered : (({ session := session.withRecord [] : Conversation (Recorded α) }).enter
      registries.recorded).IsPaired := by
    refine ⟨[.handshaking], ?_⟩
    rw [Conversation.calls_enter_recorded]
    exact Paired.start _
  have obeys := kept.run (kept.start entered) events
  rw [← start_recorded, ← run_recorded, calls]
  rcases obeys.open_or_closed with ⟨unended, path, paired⟩ | ⟨result, d, ended, past, closed⟩
  · refine ⟨path, ?_⟩
    rw [← unended] at paired
    exact paired
  · obtain ⟨path, paired⟩ := Conversation.IsPaired.closed registries past result
    refine ⟨path, ?_⟩
    rw [← ended, ← Conversation.state_closed result d, ← closed] at paired
    exact paired

theorem follows_run :
    ProtocolState.Follows registries ((start registries session).history registries z events)
      ((start registries session).run registries z events).conversation := by
  have kept := @ProtocolState.follows_kept α registries z
  have entered : ProtocolState.Follows registries []
      (({ session : Conversation α }).enter registries) := by
    refine ⟨?_, rfl⟩
    intro before happening within
    exact absurd (List.prefix_nil.mp within) (by simp)
  have obeys := kept.run (kept.start entered) events
  rcases obeys.open_or_closed with ⟨-, follows⟩ | ⟨result, d, -, follows, closed⟩
  · exact follows
  · rw [closed, ProtocolState.Follows, Conversation.state_closed]
    exact follows

end

/-- **Every registry that is attached is detached once, and no other is.**  The hooks called on a
connection are those that the states it comes to and its result tell, whatever the handlers and the
hooks do, and in whichever way the connection ends. -/
theorem hooks_paired (registries : StateRegistries (Session α)) (z : Zlib.Library)
    (session : Session α) (events : List Event) :
    let c := (start registries session).run registries z events
    let hooks := hooksOf (calls registries z session events)
    (∃ path : Path, path.IsLegal ∧ path.getLast? = some c.conversation.state ∧
      hooks = path.hooks ++ Path.farewell c.conversation.state c.result? ∧
      path.Nodup ∧ statesOf .attach hooks = path ∧
      (c.isClosed → statesOf .detach hooks = path)) ∧
    faultsOf hooks = Path.raised c.conversation.state c.result? ∧
    (∀ before call, before ++ [call] <+: calls registries z session events →
      call.occasion ≠ .attach → call.occasion ≠ .detach →
      (statesOf .attach (hooksOf before)).getLast? = some call.state) ∧
    (∀ before happening,
      before ++ [happening] <+: (start registries session).history registries z events →
      (ProtocolState.start registries).follow before =
        .settled registries happening.conversation.state) ∧
    (ProtocolState.start registries).follow
        ((start registries session).history registries z events) =
      .settled registries c.conversation.state ∧
    (∀ (d : Conversation (Recorded α)) (target : ConnectionState), ¬ d.state.canMoveTo target →
      Conversation.perform z registries.recorded (.transition target) d =
        .error (.invalidTransition d.state.name target.name) d) ∧
    (∀ (protocol : ProtocolState (Session α)) (target : ConnectionState) (context : Session α),
      ¬ protocol.state.canMoveTo target →
      protocol.transition target context =
        (.error (.invalidTransition protocol.state.name target.name), protocol, context)) := by
  intro c hooks
  obtain ⟨path, paired⟩ := exists_paired registries z session events
  obtain ⟨moments, last⟩ := follows_run registries z session events
  refine ⟨⟨path, paired.legal, paired.last, paired.hooks, Path.nodup_of_isLegal paired.legal,
    paired.attached, ?_⟩, paired.faults, paired.active, moments, last, ?_, ?_⟩
  · intro closed
    obtain ⟨result, ended⟩ := exists_result_of_isClosed closed
    rw [show result? _ = some result from ended] at paired
    exact paired.detached
  · intro d target refused
    exact Conversation.perform_transition_of_not_canMoveTo refused
  · intro protocol target context refused
    exact ProtocolState.transition_of_not_canMoveTo refused context

end Connection

end GameTransport
