import GameTransport.Proofs.Vigils

/-! # The end of a silence

A connection is closed for a silence at one instant only: as long after the last arrival of octets as
the client may be silent (`Vigil.timeout_exact`).  It does not matter when the timer was set, what was
dispatched or written meanwhile, or how much of a frame has arrived.
-/

namespace GameTransport

variable {α : Type} {registries : StateRegistries (Session α)} {z : Zlib.Library}

/-- Nobody but the server and the clock does anything. -/
def Tick.isQuiet : Tick → Bool
  | pass _ => true
  | tick => tick.isOwn

namespace Vigil

variable {s : Vigil α} {timeout : Duration} {since : Nat}

/-! ## What is seen from outside -/

section

variable (registries : StateRegistries (Session α)) (z : Zlib.Library)

/-- When octets have arrived last, after some ticks. -/
def lastArrival : Vigil α → Nat → List Tick → Nat
  | _, since, [] => since
  | s, since, tick :: rest => lastArrival (s.step registries z tick) (s.sinceAfter since tick) rest

/-- No octets arrive just as the silence has lasted for too long. -/
def OffDeadline (timeout : Duration) : Vigil α → Nat → List Tick → Prop
  | _, _, [] => True
  | s, since, tick :: rest =>
    (∀ first more, tick = .arrive (first :: more) → s.task.result? = none →
      s.now ≠ since + timeout.nanos) ∧
      OffDeadline timeout (s.step registries z tick) (s.sinceAfter since tick) rest

/-- Octets arrive again and again before the client has been silent for too long: each gap between
arrivals is short, and so is the time that has gone by since the last. -/
def Brisk (timeout : Duration) : Vigil α → Nat → List Tick → Prop
  | s, since, [] => s.now < since + timeout.nanos
  | s, since, .arrive (first :: more) :: rest =>
    s.now < since + timeout.nanos ∧
      Brisk timeout (s.step registries z (.arrive (first :: more))) s.now rest
  | s, since, tick :: rest => Brisk timeout (s.step registries z tick) since rest

/-- When the connection was closed, and how, if it was. -/
def closing? : Vigil α → List Tick → Option (Nat × Except Fault Unit)
  | s, [] => s.task.result?.map (s.now, ·)
  | s, tick :: rest =>
    match s.task.result? with
    | some result => some (s.now, result)
    | none => closing? (s.step registries z tick) rest

end

/-! ## Runs -/

theorem run_append (s : Vigil α) (ticks more : List Tick) :
    s.run registries z (ticks ++ more) = (s.run registries z ticks).run registries z more :=
  List.foldl_append

theorem now_le_step (s : Vigil α) (tick : Tick) : s.now ≤ (s.step registries z tick).now := by
  cases tick with
  | pass time =>
    rw [step, Vigil.pass]
    split
    · exact Nat.le_add_right _ _
    · exact Nat.le_refl _
  | read count =>
    rw [step, Vigil.read]
    split
    · split <;> exact Nat.le_refl _
    · split <;> exact Nat.le_refl _
    · exact Nat.le_refl _
  | ring =>
    rw [step, Vigil.ring]
    split
    · split
      · split <;> exact Nat.le_refl _
      · split <;> exact Nat.le_refl _
      · exact Nat.le_refl _
    · exact Nat.le_refl _
  | _ => exact Nat.le_refl _

theorem now_le_run (s : Vigil α) (ticks : List Tick) : s.now ≤ (s.run registries z ticks).now := by
  induction ticks generalizing s with
  | nil => exact Nat.le_refl _
  | cons tick rest ih => exact Nat.le_trans (now_le_step s tick) (ih _)

/-! ### After the end -/

/-- All is over. -/
structure Ended (s : Vigil α) (result : Except Fault Unit) : Prop where
  moment : s.task.moment = .ended result
  closed : s.task.connection.isClosed

namespace Ended

variable {result : Except Fault Unit}

theorem work {t : Task α} {deed? : Option Deed} (ended : s.Ended result)
    (step : Task.Step registries z s.task deed? t) :
    ({ s with task := t } : Vigil α).Ended result := by
  have finished : s.task.moment.isOver := by
    rw [ended.moment]
    rfl
  rw [(Task.eq_of_isOver step (ended.closed.trans finished.symm) finished).2]
  exact ended

theorem step (ended : s.Ended result) (tick : Tick) : (s.step registries z tick).Ended result := by
  cases tick with
  | arrive octets => exact { ended with }
  | hangUp => exact { ended with }
  | lend metrics => exact { ended with }
  | post message => exact ended.work (Task.step_turn s.task (.post message))
  | cut cause count => exact ended.work (Task.step_turn s.task (.cut cause count))
  | deliver => exact ended.work (Task.step_turn s.task .deliver)
  | proceed => exact ended.work (Task.step_turn s.task .proceed)
  | pass time =>
    rw [Vigil.step, Vigil.pass, Task.elapse, if_pos ended.closed]
    split
    · exact { ended with }
    · exact ended
  | read count =>
    rw [Vigil.step, Vigil.read]
    split
    · rename_i waits _
      rw [ended.moment] at waits
      cases waits
    · rename_i waits _
      rw [ended.moment] at waits
      cases waits
    · exact ended
  | ring =>
    rw [Vigil.step, Vigil.ring]
    split
    · split
      · rename_i waits _
        rw [ended.moment] at waits
        cases waits
      · rename_i waits _
        rw [ended.moment] at waits
        cases waits
      · exact ended
    · exact ended

theorem run (ended : s.Ended result) (ticks : List Tick) :
    (s.run registries z ticks).Ended result := by
  induction ticks generalizing s with
  | nil => exact ended
  | cons tick rest ih => exact ih (ended.step tick)

theorem result? (ended : s.Ended result) : s.task.result? = some result :=
  Task.result?_eq_some.mpr ended.moment

theorem lastArrival (ended : s.Ended result) (since : Nat) (ticks : List Tick) :
    s.lastArrival registries z since ticks = since := by
  induction ticks generalizing s with
  | nil => rfl
  | cons tick rest ih =>
    have same : s.sinceAfter since tick = since := by
      cases tick with
      | arrive octets =>
        cases octets with
        | nil => rfl
        | cons first more =>
          rw [sinceAfter, ended.result?]
          rfl
      | _ => rfl
    rw [Vigil.lastArrival, same]
    exact ih (ended.step tick)

theorem closing? (ended : s.Ended result) (ticks : List Tick) :
    s.closing? registries z ticks = some (s.now, result) := by
  cases ticks with
  | nil =>
    rw [Vigil.closing?, ended.result?]
    rfl
  | cons tick rest => rw [Vigil.closing?, ended.result?]

end Ended

/-! ### How a run turns out -/

/-- A connection is closed by the end of the silence, and for a silence only then; or it is open, and
watched. -/
inductive Verdict (timeout : Duration) (since : Nat) (after : Vigil α) :
    Option (Nat × Except Fault Unit) → Prop where
  | closed {time : Nat} {result : Except Fault Unit} (ended : after.Ended result)
    (past : time ≤ after.now) (prompt : time ≤ since + timeout.nanos)
    (due : ∀ silence, result = .error (.timeout silence) →
      silence = timeout ∧ time = since + timeout.nanos) :
    Verdict timeout since after (some (time, result))
  | lasting (watched : after.Watched timeout since) (going : after.task.moment.isOver = false) :
    Verdict timeout since after none

theorem Verdict.over_or_lasting {after : Vigil α} {closing : Option (Nat × Except Fault Unit)}
    (verdict : Verdict timeout since after closing) :
    (∃ result, after.Ended result) ∨
      after.Watched timeout since ∧ after.task.moment.isOver = false := by
  cases verdict with
  | closed ended => exact .inl ⟨_, ended⟩
  | lasting watched going => exact .inr ⟨watched, going⟩

/-- A connection that ends under the watch. -/
theorem Watched.verdict_of_ended (watched : s.Watched timeout since) {result : Except Fault Unit}
    (finished : s.task.result? = some result) (ticks : List Tick) :
    Verdict timeout (s.lastArrival registries z since ticks) (s.run registries z ticks)
      (s.closing? registries z ticks) := by
  have moment := Task.result?_eq_some.mp finished
  have ended : s.Ended result := ⟨moment, watched.closed.trans (by rw [moment]; rfl)⟩
  rw [ended.closing?, ended.lastArrival]
  refine .closed (ended.run ticks) (now_le_run s ticks) watched.now_le fun silence silent => ?_
  refine watched.silenced silence ?_
  rw [moment, silent]
  rfl

theorem Watched.verdict (keep : registries.KeepTime) (watched : s.Watched timeout since)
    {ticks : List Tick} (off : s.OffDeadline registries z timeout since ticks) :
    Verdict timeout (s.lastArrival registries z since ticks) (s.run registries z ticks)
      (s.closing? registries z ticks) := by
  cases finished : s.task.result? with
  | some result => exact watched.verdict_of_ended finished ticks
  | none =>
    have going := Task.result?_eq_none.mp finished
    induction ticks generalizing s since with
    | nil =>
      rw [closing?, finished]
      exact .lasting watched going
    | cons tick rest ih =>
      obtain ⟨here, later⟩ := off
      have next : (s.step registries z tick).Watched timeout (s.sinceAfter since tick) :=
        watched.step keep going tick fun first more arrives => here first more arrives finished
      rw [closing?, finished]
      cases finished' : (s.step registries z tick).task.result? with
      | some result => exact next.verdict_of_ended finished' rest
      | none => exact ih next later finished' (Task.result?_eq_none.mp finished')

/-! ### A client that is never silent for long -/

/-- As long as a client is brisk, its silence has not lasted for too long. -/
theorem now_lt_of_brisk {ticks : List Tick} (brisk : s.Brisk registries z timeout since ticks) :
    s.now < since + timeout.nanos := by
  induction ticks generalizing s with
  | nil => exact brisk
  | cons tick rest ih =>
    have soon (next : (s.step registries z tick).Brisk registries z timeout since rest) :
        s.now < since + timeout.nanos := Nat.lt_of_le_of_lt (now_le_step s tick) (ih next)
    cases tick with
    | arrive octets =>
      cases octets with
      | nil => exact soon brisk
      | cons first more => exact brisk.1
    | _ => exact soon brisk

/-- A brisk client goes on being brisk as long as its connection is open. -/
theorem brisk_step {tick : Tick} {rest : List Tick} (going : s.task.result? = none)
    (brisk : s.Brisk registries z timeout since (tick :: rest)) :
    (s.step registries z tick).Brisk registries z timeout (s.sinceAfter since tick) rest := by
  cases tick with
  | arrive octets =>
    cases octets with
    | nil => exact brisk
    | cons first more =>
      rw [sinceAfter, going]
      exact brisk.2
  | _ => exact brisk

/-- Who ends before the silence has lasted for too long does not end for it. -/
theorem Watched.ne_timeout_of_ended (watched : s.Watched timeout since)
    (soon : s.now < since + timeout.nanos) {result : Except Fault Unit}
    (finished : s.task.result? = some result) (silence : Duration) :
    result ≠ .error (.timeout silence) := by
  rintro rfl
  have moment := Task.result?_eq_some.mp finished
  have due := watched.silenced silence (by rw [moment]; rfl)
  omega

/-- **A brisk client is not told that it has been silent.** -/
theorem Watched.ne_timeout_of_brisk (keep : registries.KeepTime) (watched : s.Watched timeout since)
    {ticks : List Tick} (brisk : s.Brisk registries z timeout since ticks) (time : Nat)
    (silence : Duration) :
    s.closing? registries z ticks ≠ some (time, .error (.timeout silence)) := by
  induction ticks generalizing s since with
  | nil =>
    rw [closing?]
    cases finished : s.task.result? with
    | some result =>
      have other := watched.ne_timeout_of_ended (now_lt_of_brisk brisk) finished silence
      exact fun closing => other (congrArg Prod.snd (Option.some.inj closing))
    | none => exact nofun
  | cons tick rest ih =>
    have soon := now_lt_of_brisk brisk
    rw [closing?]
    cases finished : s.task.result? with
    | some result =>
      have other := watched.ne_timeout_of_ended soon finished silence
      exact fun closing => other (congrArg Prod.snd (Option.some.inj closing))
    | none =>
      have going := Task.result?_eq_none.mp finished
      have next : (s.step registries z tick).Watched timeout (s.sinceAfter since tick) :=
        watched.step keep going tick fun _ _ _ => Nat.ne_of_lt soon
      exact ih next (brisk_step finished brisk)

/-! ## The server gets its work done -/

theorem now_step_of_isOwn {tick : Tick} (own : tick.isOwn) (s : Vigil α) :
    (s.step registries z tick).now = s.now := by
  cases tick with
  | read count =>
    rw [step, Vigil.read]
    split
    · split <;> rfl
    · split <;> rfl
    · rfl
  | ring =>
    rw [step, Vigil.ring]
    split
    · split
      · split <;> rfl
      · split <;> rfl
      · rfl
    · rfl
  | deliver => rfl
  | proceed => rfl
  | _ => cases own

/-- What is left to do at once: of these numbers, an earlier one counts for more. -/
def load (s : Vigil α) : Nat × Nat × Nat × Nat × Nat × Nat × Nat × Nat :=
  (s.inbox.length, s.task.connection.mailbox.length, if s.alarm ≤ s.now then 1 else 0, s.task.work)

/-- One vigil has less left to do at once than another. -/
def Lighter (s' s : Vigil α) : Prop :=
  Prod.Lex Nat.lt (Prod.Lex Nat.lt (Prod.Lex Nat.lt (Prod.Lex Nat.lt (Prod.Lex Nat.lt
    (Prod.Lex Nat.lt (Prod.Lex Nat.lt Nat.lt)))))) s'.load s.load

/-- The task has come on. -/
theorem Lighter.of_task {t : Task α} (mailbox : t.connection.mailbox.length ≤
      s.task.connection.mailbox.length) (lighter : t.Lighter s.task) :
    Lighter { s with task := t } s := by
  exact .right _ (.right' _ mailbox (.right _ lighter))

theorem lighter_proceed (keep : registries.KeepTime) (busy : s.task.moment.isAtRest = false) :
    Lighter (s.step registries z .proceed) s :=
  .of_task (Task.goesOn_proceed keep s.task).mailbox (Task.lighter_proceed s.task busy)

/-- A task that waits and is given up has only the end before it. -/
theorem Lighter.of_ending {t : Task α} {fresh : Bool} {result : Except Fault Unit}
    (waits : s.task.moment = .waiting fresh) (ending : t.moment = .ending result)
    (mailbox : t.connection.mailbox.length ≤ s.task.connection.mailbox.length) :
    Lighter { s with task := t } s := by
  refine .of_task mailbox (.of_stage ?_)
  rw [ending, waits]
  exact Nat.le_succ 4

theorem lighter_ring (waits : s.task.moment = .waiting false)
    (running : s.task.connection.isClosed = false) (empty : s.inbox = []) (hears : s.hungUp = false)
    (due : s.alarm ≤ s.now) : Lighter s.ring s := by
  have gives : Lighter { s with task := s.task.timeOut } s := .of_ending waits rfl (Nat.le_refl _)
  rw [ring, if_pos due, waits]
  cases phase : s.task.connection.phase with
  | opening =>
    have nothing : (s.inbox.isEmpty && !s.hungUp) = true := by
      rw [empty, hears]
      rfl
    dsimp only
    rw [if_pos nothing]
    exact gives
  | serving =>
    by_cases late : s.lastRead + s.limit ≤ s.now
    · dsimp only
      rw [if_pos late]
      exact gives
    · dsimp only
      rw [if_neg late, Lighter, load, load, if_pos due, if_neg late]
      exact .right _ (.right _ (.left _ _ Nat.one_pos))
  | closed result =>
    rw [Connection.isClosed, phase] at running
    cases running

theorem lighter_read (waits : s.task.moment = .waiting false) {first : UInt8} {more : Bytes}
    (arrived : s.inbox = first :: more) : Lighter (s.read s.inbox.length) s := by
  have taken : s.inbox.take s.inbox.length = first :: more := by rw [List.take_length, arrived]
  have left : (s.read s.inbox.length).inbox = [] := by
    unfold read
    simp only [waits, arrived]
    simp
  rw [Lighter, load, load, left, arrived]
  exact .left _ _ (Nat.succ_pos _)

theorem lighter_finish (waits : s.task.moment = .waiting false)
    (running : s.task.connection.isClosed = false) (empty : s.inbox = []) (hangs : s.hungUp) :
    Lighter (s.read 0) s := by
  have given : ∃ result, s.task.finish.2.moment = .ending result := by
    rw [Task.finish, waits]
    cases phase : s.task.connection.phase with
    | opening => exact ⟨_, rfl⟩
    | serving =>
      dsimp only
      split <;> exact ⟨_, rfl⟩
    | closed result =>
      rw [Connection.isClosed, phase] at running
      cases running
  obtain ⟨result, ending⟩ := given
  have read : s.read 0 = { s with task := s.task.finish.2 } := by
    unfold Vigil.read
    simp only [waits, empty, hangs, if_true]
  rw [read]
  exact .of_ending waits ending (Task.goesOn_finish s.task).mailbox

theorem lighter_deliver (waits : s.task.moment = .waiting false)
    (serving : s.task.connection.phase = .serving) {message : Message} {rest : List Message}
    (mail : s.task.connection.mailbox = message :: rest) :
    Lighter (s.step registries z .deliver) s := by
  have shorter : s.task.deliver.2.connection.mailbox = rest := by
    unfold Task.deliver
    cases message <;> simp only [waits, serving, mail]
  rw [Lighter, load, load, mail]
  refine .right _ (.left _ _ ?_)
  change s.task.deliver.2.connection.mailbox.length < rest.length + 1
  rw [shorter]
  exact Nat.lt_succ_self _

/-- Unless there is nothing to do, the server can do something. -/
theorem exists_lighter (keep : registries.KeepTime) (z : Zlib.Library)
    (closed : s.task.connection.isClosed = s.task.moment.isOver) (busy : s.isIdle = false) :
    ∃ tick, tick.isOwn ∧ Lighter (s.step registries z tick) s := by
  cases rests : s.task.moment.isAtRest with
  | false => exact ⟨.proceed, rfl, lighter_proceed keep rests⟩
  | true =>
    have waits : s.task.moment = .waiting false := by
      cases moment : s.task.moment with
      | waiting fresh =>
        cases fresh with
        | true => rw [moment] at rests; cases rests
        | false => rfl
      | ended result => rw [isIdle, moment] at busy; cases busy
      | _ => rw [moment] at rests; cases rests
    have running : s.task.connection.isClosed = false := by
      rw [closed, waits]
      rfl
    cases arrived : s.inbox with
    | cons first more => exact ⟨.read s.inbox.length, rfl, lighter_read waits arrived⟩
    | nil =>
      cases hangs : s.hungUp with
      | true => exact ⟨.read 0, rfl, lighter_finish waits running arrived hangs⟩
      | false =>
        by_cases due : s.alarm ≤ s.now
        · exact ⟨.ring, rfl, lighter_ring waits running arrived hangs due⟩
        · -- All that can be left to do is to take a message.
          have early : s.now < s.alarm := Nat.lt_of_not_le due
          cases phase : s.task.connection.phase with
          | opening =>
            rw [isIdle, waits] at busy
            simp [early, arrived, hangs, phase] at busy
          | serving =>
            cases mail : s.task.connection.mailbox with
            | nil =>
              rw [isIdle, waits] at busy
              simp [early, arrived, hangs, phase, mail] at busy
            | cons message rest => exact ⟨.deliver, rfl, lighter_deliver waits phase mail⟩
          | closed result =>
            rw [Connection.isClosed, phase] at running
            cases running

theorem closed_step (closed : s.task.connection.isClosed = s.task.moment.isOver) (tick : Tick) :
    (s.step registries z tick).task.connection.isClosed =
      (s.step registries z tick).task.moment.isOver := by
  have work (move : Move) : (s.task.step registries z move).connection.isClosed =
      (s.task.step registries z move).moment.isOver :=
    Task.isClosed_step (Task.step_turn s.task move) closed
  cases tick with
  | pass time =>
    rw [step, Vigil.pass]
    split
    · exact work (.elapse time)
    · exact closed
  | read count =>
    rw [step, Vigil.read]
    split
    · split
      · exact work .finish
      · exact closed
    · split
      · exact closed
      · exact work (.receive _)
    · exact closed
  | ring =>
    have gives {fresh : Bool} (waits : s.task.moment = .waiting fresh) :
        s.task.connection.isClosed = false := by
      rw [closed, waits]
      rfl
    rw [step, Vigil.ring]
    split
    · split
      · split
        · exact gives ‹_›
        · exact closed
      · split
        · exact gives ‹_›
        · exact closed
      · exact closed
    · exact closed
  | post message => exact work (.post message)
  | cut cause count => exact work (.cut cause count)
  | deliver => exact work .deliver
  | proceed => exact work .proceed
  | arrive octets => exact closed
  | hangUp => exact closed
  | lend metrics => exact closed

theorem closed_run (closed : s.task.connection.isClosed = s.task.moment.isOver) (ticks : List Tick) :
    (s.run registries z ticks).task.connection.isClosed =
      (s.run registries z ticks).task.moment.isOver := by
  induction ticks generalizing s with
  | nil => exact closed
  | cons tick rest ih => exact ih (closed_step closed tick)

/-- **The server gets its work done.** -/
theorem exists_isIdle (keep : registries.KeepTime) (z : Zlib.Library) (s : Vigil α)
    (closed : s.task.connection.isClosed = s.task.moment.isOver) :
    ∃ own : List Tick, (∀ tick ∈ own, tick.isOwn) ∧ (s.run registries z own).isIdle := by
  cases busy : s.isIdle with
  | true => exact ⟨[], nofun, busy⟩
  | false =>
    obtain ⟨tick, own, lighter⟩ := exists_lighter keep z closed busy
    have closed' : (s.step registries z tick).task.connection.isClosed =
        (s.step registries z tick).task.moment.isOver := closed_step closed tick
    obtain ⟨rest, owned, idle⟩ := exists_isIdle keep z (s.step registries z tick) closed'
    exact ⟨tick :: rest, List.forall_mem_cons.mpr ⟨own, owned⟩, idle⟩
termination_by s.load
decreasing_by exact lighter

theorem now_run_of_isOwn {own : List Tick} (owned : ∀ tick ∈ own, tick.isOwn) (s : Vigil α) :
    (s.run registries z own).now = s.now := by
  induction own generalizing s with
  | nil => rfl
  | cons tick rest ih =>
    have first : (s.step registries z tick).now = s.now :=
      now_step_of_isOwn (owned tick List.mem_cons_self) s
    exact (ih (fun tick among => owned tick (List.mem_cons_of_mem _ among)) _).trans first

/-! ## A connection left to itself -/

/-- As long as nothing arrives, nothing arrives at a wrong time. -/
theorem offDeadline_of_isQuiet {ticks : List Tick} (quiet : ∀ tick ∈ ticks, tick.isQuiet)
    (s : Vigil α) (since : Nat) : s.OffDeadline registries z timeout since ticks ∧
      s.lastArrival registries z since ticks = since := by
  induction ticks generalizing s with
  | nil => exact ⟨trivial, rfl⟩
  | cons tick rest ih =>
    have first : tick.isQuiet := quiet tick List.mem_cons_self
    have same : s.sinceAfter since tick = since := by
      cases tick with
      | arrive octets => cases first
      | _ => rfl
    have later := ih (fun tick among => quiet tick (List.mem_cons_of_mem _ among))
      (s.step registries z tick)
    rw [OffDeadline, lastArrival, same]
    refine ⟨⟨fun octet more arrives => ?_, later.1⟩, later.2⟩
    rw [arrives] at first
    cases first

theorem isQuiet_of_isOwn {tick : Tick} (own : tick.isOwn) : tick.isQuiet := by
  cases tick <;> first | rfl | cases own

/-- The clock can move on to the alarm. -/
theorem now_pass_of_isIdle (idle : s.isIdle) (early : s.now < s.alarm) :
    (s.pass ⟨s.alarm - s.now⟩).now = s.alarm := by
  have reaches : s.now + (s.alarm - s.now) = s.alarm := Nat.add_sub_cancel' (Nat.le_of_lt early)
  rw [Vigil.pass, reaches, idle, decide_eq_true (Nat.le_refl s.alarm), Bool.or_true]
  rfl

/-- **A client that falls silent for good is let go.** -/
theorem Watched.exists_closing (keep : registries.KeepTime) (z : Zlib.Library)
    (watched : s.Watched timeout since) : ∃ more : List Tick, (∀ tick ∈ more, tick.isQuiet) ∧
      (s.run registries z more).task.result?.isSome := by
  -- The clock gets from alarm to alarm, and nearer to the end of the silence each time.
  induction left : since + timeout.nanos - s.now using Nat.strongRecOn generalizing s with
  | ind left ih =>
    obtain ⟨own, owned, idle⟩ := exists_isIdle keep z s watched.closed
    have quiet : ∀ tick ∈ own, tick.isQuiet := fun tick among => isQuiet_of_isOwn (owned tick among)
    have alone : s.OffDeadline registries z timeout since own ∧
      s.lastArrival registries z since own = since := offDeadline_of_isQuiet quiet s since
    have verdict := watched.verdict keep alone.1
    rw [alone.2] at verdict
    have sooner : s.now ≤ (s.run registries z own).now := now_le_run s own
    rcases verdict.over_or_lasting with ⟨result, ended⟩ | ⟨next, going⟩
    · exact ⟨own, quiet, by rw [ended.result?]; rfl⟩
    · generalize settled : s.run registries z own = r at idle sooner next going
      have early := (Watched.waits_of_isIdle going idle).2.1
      have passed := now_pass_of_isIdle idle early
      have later : (r.pass ⟨r.alarm - r.now⟩).Watched timeout since := next.pass going _
      have bound := later.now_le
      obtain ⟨rest, still, finished⟩ := ih _ (by omega) later rfl
      refine ⟨own ++ .pass ⟨r.alarm - r.now⟩ :: rest, fun tick among => ?_, ?_⟩
      · rcases List.mem_append.mp among with first | among
        · exact quiet tick first
        · rcases List.mem_cons.mp among with rfl | among
          · rfl
          · exact still tick among
      · rw [run_append, settled]
        exact finished

/-! ## The theorem -/

theorem isSome_closing? {ticks : List Tick}
    (finished : (s.run registries z ticks).task.result?.isSome) :
    (s.closing? registries z ticks).isSome := by
  induction ticks generalizing s with
  | nil =>
    rw [closing?, Option.isSome_map]
    exact finished
  | cons tick rest ih =>
    rw [closing?]
    cases s.task.result? with
    | some result => rfl
    | none => exact ih finished

/-- When the silence will have lasted for too long, after some ticks. -/
def deadline (registries : StateRegistries (Session α)) (z : Zlib.Library) (session : Session α)
    (begun : Nat) (ticks : List Tick) : Nat :=
  (start session begun).lastArrival registries z begun ticks +
    session.server.config.readTimeout.nanos

/-- What can be said of the end of a silence after some ticks, for a connection that was accepted at
some time. -/
structure Punctual (registries : StateRegistries (Session α)) (z : Zlib.Library)
    (session : Session α) (begun : Nat) (ticks : List Tick) : Prop where
  /-- Once there is nothing left to do, the connection has been closed for a silence just if its end
  has come and nothing else has closed the connection. -/
  exact : ((start session begun).run registries z ticks).isIdle → ∀ time,
    (start session begun).closing? registries z ticks =
        some (time, .error (.timeout session.server.config.readTimeout)) ↔
      time = deadline registries z session begun ticks ∧
        time ≤ ((start session begun).run registries z ticks).now ∧
        ∀ other result, (start session begun).closing? registries z ticks = some (other, result) →
          result = .error (.timeout session.server.config.readTimeout)
  /-- At no time has it been closed for a silence but at the end of one. -/
  due : ∀ time silence,
    (start session begun).closing? registries z ticks = some (time, .error (.timeout silence)) →
      silence = session.server.config.readTimeout ∧
        time = deadline registries z session begun ticks
  /-- Whatever has closed it has done so by then. -/
  prompt : ∀ time result, (start session begun).closing? registries z ticks = some (time, result) →
    time ≤ deadline registries z session begun ticks
  /-- All there is to do can be done while the clock stands still. -/
  works : ∃ own, (∀ tick ∈ own, Tick.isOwn tick) ∧
    ((start session begun).run registries z (ticks ++ own)).isIdle ∧
      ((start session begun).run registries z (ticks ++ own)).now =
        ((start session begun).run registries z ticks).now
  /-- If nobody else does anything any more, the connection is closed in the end. -/
  ends : ∃ more, (∀ tick ∈ more, Tick.isQuiet tick) ∧
    ((start session begun).closing? registries z (ticks ++ more)).isSome
  /-- If no gap was long, it has not been closed for a silence. -/
  brisk : (start session begun).Brisk registries z session.server.config.readTimeout begun ticks →
    ∀ time silence,
      (start session begun).closing? registries z ticks ≠ some (time, .error (.timeout silence))

/-- **The end of a silence is kept to the instant.**  Let octets arrive in whatever pieces and at whatever
times, messages be posted, and the stream fail; let the server do its work in any order as long as the
clock waits for it.  If no octets arrive just at the end of a silence, the connection is closed for a
silence at the time at which the last arrival, or the beginning, is as long ago as the client may be
silent, unless something else has closed it. -/
theorem timeout_exact (keep : registries.KeepTime) (z : Zlib.Library) (session : Session α)
    (begun : Nat) (ticks : List Tick) (off : (start session begun).OffDeadline registries z
      session.server.config.readTimeout begun ticks) :
    Punctual registries z session begun ticks := by
  have watched := watched_start session begun
  have verdict := watched.verdict keep off
  have closed : ((start session begun).run registries z ticks).task.connection.isClosed =
      ((start session begun).run registries z ticks).task.moment.isOver := closed_run rfl ticks
  constructor
  case exact =>
    intro idle time
    generalize (start session begun).closing? registries z ticks = closing at verdict
    cases verdict with
    | @closed time' result ended past prompt due =>
      constructor
      · intro closing
        cases closing
        exact ⟨(due _ rfl).2, past, fun other result same => by cases same; rfl⟩
      · rintro ⟨reached, -, only⟩
        have silent := only time' result rfl
        rw [silent, reached, (due _ silent).2]
        rfl
    | lasting next going =>
      refine ⟨nofun, fun ⟨reached, past, _⟩ => ?_⟩
      obtain ⟨-, early, empty, -⟩ := Watched.waits_of_isIdle going idle
      have alarm := next.alarm
      have heard := next.heard empty
      rw [deadline] at reached
      omega
  case due =>
    intro time silence closing
    rw [closing] at verdict
    cases verdict with
    | closed ended past prompt due => exact due silence rfl
  case prompt =>
    intro time result closing
    rw [closing] at verdict
    cases verdict with
    | closed ended past prompt due => exact prompt
  case works =>
    obtain ⟨own, owned, idle⟩ := exists_isIdle keep z _ closed
    refine ⟨own, owned, ?_, ?_⟩
    · rw [run_append]
      exact idle
    · rw [run_append]
      exact now_run_of_isOwn owned _
  case ends =>
    rcases verdict.over_or_lasting with ⟨result, ended⟩ | ⟨next, -⟩
    · refine ⟨[], nofun, isSome_closing? ?_⟩
      rw [List.append_nil, ended.result?]
      rfl
    · obtain ⟨more, quiet, finished⟩ := next.exists_closing keep z
      exact ⟨more, quiet, isSome_closing? (by rw [run_append]; exact finished)⟩
  case brisk =>
    intro brisk
    exact watched.ne_timeout_of_brisk keep brisk

/-- A session with a server that waits for thirty nanoseconds. -/
def hastySession : Session Unit where
  id := ⟨1⟩
  peer := none
  server := { config := { readTimeout := ⟨30⟩ }, key := none }
  entropy := ⟨fun _ => 0, 0⟩
  app := ()

/-- Two octets of a frame of three, twenty nanoseconds apart.  The timer that was set for the first goes
off at thirty. -/
def slowFrame : List Tick :=
  [.proceed, .proceed, .arrive [2], .read 1, .proceed, .pass ⟨20⟩, .arrive [0], .read 1, .proceed,
    .pass ⟨10⟩, .ring, .pass ⟨20⟩, .ring, .proceed, .proceed, .proceed]

/-- The connection is closed thirty nanoseconds after the second octet. -/
example : (start hastySession 0).closing? Handlers.registries .stored slowFrame =
    some (50, .error (.timeout ⟨30⟩)) := by
  rfl

theorem timeout_exact_slowFrame :
    (Handlers.registries : StateRegistries (Session Unit)).KeepTime ∧
    (start hastySession 0).OffDeadline Handlers.registries .stored ⟨30⟩ 0 slowFrame ∧
      Punctual Handlers.registries .stored hastySession 0 slowFrame := by
  have off : (start hastySession 0).OffDeadline Handlers.registries .stored ⟨30⟩ 0 slowFrame := by
    refine ⟨nofun, nofun, ?_, nofun, nofun, nofun, ?_, nofun, nofun, nofun, nofun, nofun, nofun, nofun,
      nofun, nofun, trivial⟩
    · exact fun _ _ _ _ => by decide
    · exact fun _ _ _ _ => by decide
  exact ⟨Handlers.keepTime, off, timeout_exact Handlers.keepTime .stored hastySession 0 slowFrame off⟩

end Vigil

end GameTransport
