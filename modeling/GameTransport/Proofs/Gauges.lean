import GameTransport.Proofs.Crowds
import GameTransport.Proofs.Effects
import GameTransport.Proofs.Hooks

/-! # Gauges that are exact

Each of the four gauges goes with a standing: it changes as the number of the tasks of that standing
does (`Gauge`).  A task that makes a move changes both alike, and nobody else's standing.  So whatever
the order of turns, a gauge is the number of the tasks of its standing, and what is taken off a gauge
was on it (`Crowd.gauges_exact`).

Which tasks play is read off the record of hooks: the registry of PLAY has been attached and not yet
detached.
-/

namespace GameTransport

variable {α : Type} {registries : StateRegistries (Session α)} {z : Zlib.Library}

/-! ## PLAY on record -/

/-- The hook of a state's registry has been called this often for an occasion. -/
def callsOf (occasion : Occasion) (state : ConnectionState) (calls : List (Call α)) : Nat :=
  (statesOf occasion (hooksOf calls)).count state

theorem callsOf_append (occasion : Occasion) (state : ConnectionState) (calls more : List (Call α)) :
    callsOf occasion state (calls ++ more) =
      callsOf occasion state calls + callsOf occasion state more := by
  rw [callsOf, hooksOf_append, statesOf_append, List.count_append]
  rfl

/-- What the record says of PLAY. -/
structure Placed (calls : List (Call α)) (state : ConnectionState) (moment : Moment) : Prop where
  early : moment.isEarly → state = .handshaking
  attached : callsOf .attach .play calls = if state = .play then 1 else 0
  detached : callsOf .detach .play calls = if state = .play ∧ moment.isGone then 1 else 0

namespace Placed

variable {calls more : List (Call α)} {state target : ConnectionState} {moment moment' : Moment}

/-- The work goes on, and no hook of PLAY is called. -/
theorem next (placed : Placed calls state moment) (early : moment'.isEarly → moment.isEarly)
    (gone : moment'.isGone = moment.isGone) (attached : callsOf .attach .play more = 0)
    (detached : callsOf .detach .play more = 0) : Placed (calls ++ more) state moment' where
  early begun := placed.early (early begun)
  attached := by
    rw [callsOf_append, attached]
    exact placed.attached
  detached := by
    rw [callsOf_append, detached, gone]
    exact placed.detached

/-- The work goes on, and no hook is called. -/
theorem goOn (placed : Placed calls state moment) (early : moment'.isEarly → moment.isEarly)
    (gone : moment'.isGone = moment.isGone) : Placed calls state moment' := by
  have same : Placed (calls ++ []) state moment' := placed.next early gone rfl rfl
  rwa [List.append_nil] at same

/-- The same for another conversation with the session and the state of the one before. -/
theorem kept {c d : Conversation (Recorded α)} (placed : Placed c.session.app.2 c.state moment)
    (kept : d.state = c.state ∧ d.session = c.session) (early : moment'.isEarly → moment.isEarly)
    (gone : moment'.isGone = moment.isGone) : Placed d.session.app.2 d.state moment' := by
  rw [kept.1, kept.2]
  exact placed.goOn early gone

/-- Nothing is said of a moment that is not early. -/
theorem late (late : moment'.isEarly = false) : moment'.isEarly → moment.isEarly :=
  fun early => Bool.noConfusion (late.symm.trans early)

theorem move (placed : Placed calls state moment) (allowed : state.canMoveTo target)
    (attaching detaching : Session α) (gone : moment.isGone = false)
    (early' : moment'.isEarly = false) (gone' : moment'.isGone = false) :
    Placed (calls ++ [⟨target, .attach, attaching⟩, ⟨state, .detach, detaching⟩]) target moment' where
  early begun := by
    rw [early'] at begun
    cases begun
  attached := by
    rw [callsOf_append, placed.attached, if_neg (ConnectionState.ne_play_of_canMoveTo allowed)]
    cases target <;> rfl
  detached := by
    rw [callsOf_append, placed.detached, gone, gone']
    cases state <;> cases target <;> first | rfl | cases allowed

theorem leave (placed : Placed calls state moment) (detaching : Session α)
    (gone : moment.isGone = false) (early' : moment'.isEarly = false)
    (gone' : moment'.isGone = true) :
    Placed (calls ++ [⟨state, .detach, detaching⟩]) state moment' where
  early begun := by
    rw [early'] at begun
    cases begun
  attached := by
    rw [callsOf_append, placed.attached]
    rfl
  detached := by
    rw [callsOf_append, placed.detached, gone, gone']
    cases state <;> rfl

end Placed

namespace Task

/-- The registry of a state has been attached and not yet detached. -/
def isAttached (state : ConnectionState) (t : Task (Recorded α)) : Bool :=
  let calls := t.conversation.session.app.2
  callsOf .detach state calls < callsOf .attach state calls

/-- What the record says of PLAY is so. -/
def IsPlaced (t : Task (Recorded α)) : Prop :=
  Placed t.conversation.session.app.2 t.conversation.state t.moment

/-- So it says who plays. -/
theorem IsPlaced.isAttached {t : Task (Recorded α)} (placed : t.IsPlaced) :
    t.isAttached .play = t.standing.playing := by
  rw [Task.isAttached, standing, placed.attached, placed.detached]
  by_cases plays : t.conversation.state = .play <;> cases gone : t.moment.isGone <;>
    simp [plays]

/-- Only a task at work plays. -/
theorem IsPlaced.not_isAttached {t : Task (Recorded α)} (placed : t.IsPlaced)
    (idle : t.moment.isRunning = false) : t.isAttached .play = false := by
  rw [placed.isAttached, standing]
  cases moment : t.moment with
  | accepted =>
    have first : t.conversation.state = .handshaking := placed.early (congrArg Moment.isEarly moment)
    rw [first]
    rfl
  | ended result => exact Bool.and_false _
  | _ =>
    rw [moment] at idle
    cases idle

theorem isPlaced_start (session : Session (Recorded α)) (fresh : session.app.2 = []) :
    (start session).IsPlaced := by
  rw [IsPlaced, start, conversation_mk, fresh]
  exact ⟨fun _ => rfl, rfl, rfl⟩

variable {t t' : Task (Recorded α)} {deed? : Option Deed}

/-- A payload that is dispatched has no hook called. -/
theorem exists_calls_of_served {state : ConnectionState} {payload : Bytes}
    {session : Session (Recorded α)} {result : EStateM.Result Fault (Session (Recorded α)) Dispatched}
    (served : (registries.recorded.active state).dispatch payload session = result) :
    ∃ more, (stateOf result).app.2 = session.app.2 ++ more ∧ callsOf .attach .play more = 0 ∧
      callsOf .detach .play more = 0 := by
  rw [StateRegistries.active_recorded] at served
  rw [← served]
  rcases Registry.calls_dispatch_recorded (registries.active state) payload session with
    same | ⟨packet, called⟩
  · exact ⟨[], same.trans (List.append_nil _).symm, rfl, rfl⟩
  · exact ⟨[_], called, rfl, rfl⟩

theorem isPlaced_step (placed : t.IsPlaced) (step : Step registries.recorded z t deed? t') :
    t'.IsPlaced := by
  cases step
  case idle | accepted | elapsed => exact placed
  case opened => exact placed.goOn (fun _ => rfl) rfl
  case replied | read | finished | lost | spoiled | looked | decoded | batch | flushed | switched |
      disconnected | denied | taken | called_off | confirmed | closed | settled | ended =>
    exact placed.goOn (Placed.late rfl) rfl
  case broken c moment count cause writes =>
    -- A task that writes has not been detached yet.
    refine placed.goOn (Placed.late rfl) ?_
    cases moment <;> first | rfl | cases writes
  case sent c d packet rest fed =>
    have kept : Placed d.session.app.2 d.state (.acting rest) :=
      placed.kept (Conversation.kept_of_feed_ok fed) (Placed.late rfl) rfl
    exact kept
  case pushed c d packet fresh fed => exact placed.kept (Conversation.kept_of_feed_ok fed) (Placed.late rfl) rfl
  case unsent c d packet rest fault fed =>
    exact placed.kept (Conversation.kept_of_feed_error fed) (Placed.late rfl) rfl
  case unpushed c d packet fresh fault fed =>
    exact placed.kept (Conversation.kept_of_feed_error fed) (Placed.late rfl) rfl
  case entered c session attached =>
    subst attached
    have first : c.conversation.state = .handshaking := placed.early rfl
    have next : Placed (c.conversation.session.app.2 ++
        [⟨.handshaking, .attach, c.conversation.session.plain⟩]) c.conversation.state
        (.waiting false) := placed.next (Placed.late rfl) rfl rfl rfl
    rw [first] at next
    rw [IsPlaced, conversation_mk, Conversation.active, StateRegistries.active_recorded, first]
    exact next
  case heard c session payload outcome served =>
    obtain ⟨more, calls, attached, detached⟩ := exists_calls_of_served served
    rw [IsPlaced, conversation_mk, show session.app.2 = _ from calls]
    exact placed.next (Placed.late rfl) rfl attached detached
  case refused c session payload fault served =>
    obtain ⟨more, calls, attached, detached⟩ := exists_calls_of_served served
    rw [IsPlaced, conversation_mk, show session.app.2 = _ from calls]
    exact placed.next (Placed.late rfl) rfl attached detached
  case moved c target rest allowed =>
    rw [IsPlaced, conversation_mk, Conversation.calls_moved_recorded]
    exact placed.move allowed _ _ rfl rfl rfl
  case caught c session fault notes told =>
    subst told
    have told := Conversation.calls_caught_recorded registries fault c.conversation
    rw [caught_eq] at told
    rw [IsPlaced, conversation_mk, told]
    exact placed.next (Placed.late rfl) rfl rfl rfl
  case detached c session result detached =>
    subst detached
    rw [IsPlaced, conversation_mk, Conversation.active, StateRegistries.active_recorded]
    exact placed.leave _ rfl rfl rfl

end Task

/-! ## Gauges and standings -/

/-- A counter that goes with a standing. -/
structure Gauge (read : Metrics → UInt64) (holds : Standing → Bool) : Prop where
  zero : read {} = 0
  /-- A task that has not begun does not count. -/
  fresh : holds ⟨false, false, false, false⟩ = false
  /-- What a move adds to the counter it adds to the standing. -/
  balance : ∀ m standing m' standing', Task.Effect m standing m' standing' →
    read m' + UInt64.ofNat (holds standing).toNat = read m + UInt64.ofNat (holds standing').toNat

theorem gauge_players : Gauge Metrics.playersOnline Standing.playing where
  zero := rfl
  fresh := rfl
  balance m standing m' standing' effect := by
    cases effect with
    | none players active total errors stays => rw [players, stays]
    | left => exact (UInt64.sub_add_cancel _ 1).trans (UInt64.add_zero _).symm
    | joined => exact UInt64.add_zero _
    | opened => rfl
    | failed => rfl
    | closed => rfl

theorem gauge_active : Gauge Metrics.connectionsActive Standing.running where
  zero := rfl
  fresh := rfl
  balance m standing m' standing' effect := by
    cases effect with
    | none players active total errors stays => rw [active, stays]
    | closed => exact (UInt64.sub_add_cancel _ 1).trans (UInt64.add_zero _).symm
    | opened => exact UInt64.add_zero _
    | joined => rfl
    | left => rfl
    | failed => rfl

theorem gauge_total : Gauge Metrics.connectionsTotal Standing.started where
  zero := rfl
  fresh := rfl
  balance m standing m' standing' effect := by
    cases effect with
    | none players active total errors stays => rw [total, stays]
    | opened => exact UInt64.add_zero _
    | joined => rfl
    | left => rfl
    | failed => rfl
    | closed => rfl

theorem gauge_errors : Gauge Metrics.protocolErrors Standing.erred where
  zero := rfl
  fresh := rfl
  balance m standing m' standing' effect := by
    cases effect with
    | none players active total errors stays => rw [errors, stays]
    | failed => exact UInt64.add_zero _
    | opened => rfl
    | joined => rfl
    | left => rfl
    | closed => rfl

namespace Crowd

/-- How many tasks are like that. -/
def number (p : Task α → Bool) (crowd : Crowd α) : Nat := crowd.tasks.countP p

/-- The record says what is so, and every gauge is the number of the tasks of its standing. -/
structure Sound (crowd : Crowd (Recorded α)) : Prop where
  placed : ∀ t ∈ crowd.tasks, t.IsPlaced
  gauged : ∀ read holds, Gauge read holds →
    read crowd.metrics = .ofNat (crowd.number fun t => holds t.standing)

variable {crowd : Crowd (Recorded α)}

theorem sound_start (config : ServerConfig) (key : Option ServerKey) :
    (start config key : Crowd (Recorded α)).Sound where
  placed := List.forall_mem_nil _
  gauged _ _ gauge := gauge.zero

/-- A task is replaced, and the counter follows. -/
theorem counted_set {p : Task α → Bool} {tasks : List (Task α)} {place : Nat} {t : Task α}
    (found : tasks[place]? = some t) (t' : Task α) {counter counter' : UInt64}
    (before : counter = .ofNat (tasks.countP p))
    (balance : counter' + UInt64.ofNat (p t).toNat = counter + UInt64.ofNat (p t').toNat) :
    counter' = .ofNat ((tasks.set place t').countP p) := by
  obtain ⟨within, rfl⟩ := List.getElem?_eq_some_iff.mp found
  have counted : (tasks.set place t').countP p + (p tasks[place]).toNat =
      tasks.countP p + (p t').toNat := by
    have positive : p tasks[place] → 0 < tasks.countP p := fun holds =>
      List.countP_pos_iff.mpr ⟨_, List.getElem_mem within, holds⟩
    rw [List.countP_set within]
    cases holds : p tasks[place] with
    | false => cases p t' <;> rfl
    | true =>
      have one := positive holds
      cases p t' <;> simp <;> omega
  have sum := congrArg UInt64.ofNat counted
  rw [UInt64.ofNat_add, UInt64.ofNat_add, ← before, ← balance] at sum
  exact (UInt64.add_left_inj _).mp sum.symm

theorem Sound.move (metered : registries.Metered) (sound : crowd.Sound) (place : Nat) (move : Move) :
    (crowd.move registries.recorded z place move).Sound := by
  unfold Crowd.move
  rcases found : crowd.tasks[place]? with _ | t
  · exact sound
  · have placed : t.IsPlaced := sound.placed t (List.mem_of_getElem? found)
    have lent : (t.lend crowd.metrics).IsPlaced := placed
    have step := @Task.step_turn _ registries.recorded z (t.lend crowd.metrics) move
    have effect := Task.effect_step metered.recorded step lent.early
    constructor
    · intro other member
      rcases List.mem_or_eq_of_mem_set member with member | rfl
      · exact sound.placed other member
      · exact Task.isPlaced_step lent step
    · intro read holds gauge
      exact counted_set found _ (sound.gauged read holds gauge) (gauge.balance _ _ _ _ effect)

theorem Sound.step (metered : registries.Metered) (sound : crowd.Sound) (turn : Turn α) :
    (crowd.step registries.recorded z turn.recorded).Sound := by
  cases turn with
  | accept id peer entropy app =>
    constructor
    · intro t member
      rcases List.mem_append.mp member with member | member
      · exact sound.placed t member
      · cases List.mem_singleton.mp member
        exact Task.isPlaced_start _ rfl
    · intro read holds gauge
      have fresh (session : Session (Recorded α)) : holds (Task.start session).standing = false :=
        gauge.fresh
      refine (sound.gauged read holds gauge).trans (congrArg UInt64.ofNat ?_)
      simp [number, Crowd.step, Turn.recorded, List.countP_append, fresh]
  | move place move => exact sound.move metered place move

theorem Sound.run (metered : registries.Metered) (sound : crowd.Sound) (turns : List (Turn α)) :
    (crowd.run registries.recorded z (turns.map Turn.recorded)).Sound := by
  unfold Crowd.run
  induction turns generalizing crowd with
  | nil => exact sound
  | cons turn rest ih => exact ih (sound.step metered turn)

end Crowd

/-! ## The gauges of a server -/

/-- A counter of 64 bits shows a number, and is the number if that is small enough. -/
structure Shows (counter : UInt64) (number : Nat) : Prop where
  modular : counter = .ofNat number
  small : number < 2 ^ 64 → counter.toNat = number

theorem shows_of_eq {counter : UInt64} {number : Nat} (modular : counter = .ofNat number) :
    Shows counter number := by
  refine ⟨modular, fun small => ?_⟩
  rw [modular]
  exact UInt64.toNat_ofNat_of_lt' small

/-- Nothing is taken off a counter that shows zero, if the number grows by one at most. -/
theorem Shows.pos_of_sub {counter counter' : UInt64} {number number' : Nat}
    (before : Shows counter number) (after : Shows counter' number') (slow : number' ≤ number + 1)
    (taken : counter' = counter - 1) : 0 < number := by
  by_contra none
  obtain rfl : number = 0 := Nat.eq_zero_of_not_pos none
  rw [before.modular, after.modular] at taken
  obtain rfl | rfl : number' = 0 ∨ number' = 1 := by omega
  · exact absurd taken (by decide)
  · exact absurd taken (by decide)

namespace Crowd

variable {crowd : Crowd (Recorded α)}

/-- The gauges show how many tasks are what they count. -/
structure Exact (crowd : Crowd (Recorded α)) : Prop where
  players : Shows crowd.metrics.playersOnline (crowd.number (Task.isAttached .play))
  active : Shows crowd.metrics.connectionsActive (crowd.number (·.moment.isRunning))
  total : Shows crowd.metrics.connectionsTotal (crowd.number (·.moment.hasStarted))
  errors : Shows crowd.metrics.protocolErrors (crowd.number (·.moment.hasErred))

theorem Sound.exact (sound : crowd.Sound) : crowd.Exact where
  players := by
    have attached : crowd.number (Task.isAttached .play) = crowd.number (·.standing.playing) :=
      List.countP_congr fun t member => by rw [(sound.placed t member).isAttached]
    rw [attached]
    exact shows_of_eq (sound.gauged _ _ gauge_players)
  active := shows_of_eq (sound.gauged _ _ gauge_active)
  total := shows_of_eq (sound.gauged _ _ gauge_total)
  errors := shows_of_eq (sound.gauged _ _ gauge_errors)

/-- Nobody at work, nobody counted as at work. -/
theorem Sound.idle (sound : crowd.Sound) (idle : ∀ t ∈ crowd.tasks, t.moment.isRunning = false) :
    crowd.metrics.playersOnline = 0 ∧ crowd.metrics.connectionsActive = 0 := by
  have away : crowd.number (Task.isAttached .play) = 0 := List.countP_eq_zero.mpr fun t member =>
    Bool.eq_false_iff.mp ((sound.placed t member).not_isAttached (idle t member))
  have rest : crowd.number (·.moment.isRunning) = 0 := List.countP_eq_zero.mpr fun t member =>
    Bool.eq_false_iff.mp (idle t member)
  have players := sound.exact.players.modular
  have active := sound.exact.active.modular
  rw [away] at players
  rw [rest] at active
  exact ⟨players, active⟩

/-- A turn makes at most one more task be like that. -/
theorem number_step_le (p : Task α → Bool) (registries : StateRegistries (Session α))
    (z : Zlib.Library) (crowd : Crowd α) (turn : Turn α) :
    (crowd.step registries z turn).number p ≤ crowd.number p + 1 := by
  cases turn with
  | accept id peer entropy app =>
    rw [number, step, List.countP_append]
    exact Nat.add_le_add_left (List.countP_le_length) _
  | move place move =>
    rw [number, step, Crowd.move]
    rcases found : crowd.tasks[place]? with _ | t
    · exact Nat.le_succ _
    · obtain ⟨within, -⟩ := List.getElem?_eq_some_iff.mp found
      dsimp only
      rw [List.countP_set within, number]
      split <;> split <;> omega

/-- What is taken off a gauge by the next turn is on it. -/
structure Covers (crowd next : Crowd (Recorded α)) : Prop where
  players : next.metrics.playersOnline = crowd.metrics.playersOnline - 1 →
    0 < crowd.number (Task.isAttached .play)
  active : next.metrics.connectionsActive = crowd.metrics.connectionsActive - 1 →
    0 < crowd.number (·.moment.isRunning)

/-- The gauges are exact, and so they cannot be drawn below zero and end at zero. -/
structure Gauged (z : Zlib.Library) (crowd : Crowd (Recorded α)) : Prop where
  exact : crowd.Exact
  covers : ∀ turn : Turn α, crowd.Covers (crowd.step Handlers.registries.recorded z turn.recorded)
  idle : (∀ t ∈ crowd.tasks, t.moment.isRunning = false) →
    crowd.metrics.playersOnline = 0 ∧ crowd.metrics.connectionsActive = 0

/-- **Whatever clients send and in which order tasks get to run, the gauges are exact.** -/
theorem gauges_exact (config : ServerConfig) (key : Option ServerKey) (z : Zlib.Library)
    (turns : List (Turn α)) :
    let crowd := (start config key).run Handlers.registries.recorded z (turns.map Turn.recorded)
    crowd.plain = (start config key).run Handlers.registries z turns ∧ crowd.Gauged z := by
  intro crowd
  have metered : (Handlers.registries : StateRegistries (Session α)).Metered :=
    Handlers.metered_registries
  have sound : crowd.Sound := (sound_start config key).run metered turns
  refine ⟨run_recorded z _ turns, sound.exact, fun turn => ?_, sound.idle⟩
  · have after := (sound.step (z := z) metered turn).exact
    constructor
    · exact sound.exact.players.pos_of_sub after.players (number_step_le _ _ _ _ _)
    · exact sound.exact.active.pos_of_sub after.active (number_step_le _ _ _ _ _)

end Crowd

end GameTransport
