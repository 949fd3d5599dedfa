import GameTransport.Proofs.Silences

/-! # What ties the timer to the silence

The timer of a vigil lags behind: it was set for some earlier read.  Still, the clock is never past the
alarm, and the alarm never past the end of the silence that began with the last read.  What was read last
had just arrived, unless there is something to read now; and then the last arrival is now, since the
clock does not move on before that is read.  All this is `Vigil.Watched`, and every tick keeps it
(`Vigil.Watched.step`).  So whatever the alarm was set for, it goes off in time, and is set anew if that
was too early.
-/

namespace GameTransport

variable {α : Type} {registries : StateRegistries (Session α)} {z : Zlib.Library}

namespace Task

variable {t : Task α} {result : Except Fault Unit}

theorem result?_eq_some : t.result? = some result ↔ t.moment = .ended result := by
  rw [result?]
  constructor
  · intro ended
    split at ended <;> cases ended
    assumption
  · intro ended
    rw [ended]

theorem result?_eq_none : t.result? = none ↔ t.moment.isOver = false := by
  rw [result?]
  cases t.moment <;> simp [Moment.isOver]

theorem isSome_result? : t.result?.isSome = t.moment.isOver := by
  rw [result?]
  cases t.moment <;> rfl

end Task

namespace Vigil

variable {s : Vigil α} {timeout : Duration} {since : Nat}

/-- When octets arrived last, after a tick.  Nothing arrives at a connection that is over. -/
def sinceAfter (s : Vigil α) (since : Nat) : Tick → Nat
  | .arrive (_ :: _) => if s.task.result?.isSome then since else s.now
  | _ => since

/-! ## The watch -/

/-- What ties the timer, the reads and the clock together as long as the connection is open, and in
the instant in which it ends. -/
structure Watched (timeout : Duration) (since : Nat) (s : Vigil α) : Prop where
  limit : s.task.connection.readTimeout = timeout
  closed : s.task.connection.isClosed = s.task.moment.isOver
  /-- Until the first read, the timer is set for the end of the silence. -/
  early : s.task.connection.phase = .opening → s.alarm = s.lastRead + timeout.nanos
  /-- The alarm does not come too late. -/
  alarm : s.alarm ≤ s.lastRead + timeout.nanos
  now : s.now ≤ s.alarm
  past : s.lastRead ≤ s.now
  /-- What was read last was all there was. -/
  heard : s.inbox = [] → s.lastRead = since
  /-- What is unread has just arrived. -/
  unread : s.inbox ≠ [] → since = s.now ∧ s.now < s.lastRead + timeout.nanos
  /-- Whoever speaks of a silence does so at its end. -/
  silenced : ∀ silence, s.task.moment.silenced? = some silence →
    silence = timeout ∧ s.now = since + timeout.nanos
  /-- The silence that the task itself knows of is the one since the last read. -/
  silence : s.task.moment.isOpen → s.now = s.lastRead + s.task.connection.silence.nanos

theorem limit_eq (watched : s.Watched timeout since) : s.limit = timeout.nanos :=
  congrArg Duration.nanos watched.limit

theorem watched_start (session : Session α) (begun : Nat) :
    (start session begun).Watched session.server.config.readTimeout begun where
  limit := rfl
  closed := rfl
  early _ := rfl
  alarm := Nat.le_refl _
  now := Nat.le_add_right _ _
  past := Nat.le_refl _
  heard _ := rfl
  unread some := absurd rfl some
  silenced := nofun
  silence _ := rfl

namespace Watched

/-- The clock does not get past the end of the silence. -/
theorem now_le (watched : s.Watched timeout since) : s.now ≤ since + timeout.nanos := by
  have now := watched.now
  have alarm := watched.alarm
  by_cases empty : s.inbox = []
  · have read := watched.heard empty
    omega
  · have unread := watched.unread empty
    omega

/-! ### The work of the task -/

/-- Whatever the task does that takes no notice of a silence. -/
theorem work {t : Task α} {deed? : Option Deed} (watched : s.Watched timeout since)
    (step : Task.Step registries z s.task deed? t) (goesOn : s.task.GoesOn t) :
    ({ s with task := t } : Vigil α).Watched timeout since where
  limit := (Task.readTimeout_step step).trans watched.limit
  closed := Task.isClosed_step step watched.closed
  early opening := watched.early (Task.opening_of_step step opening)
  alarm := watched.alarm
  now := watched.now
  past := watched.past
  heard := watched.heard
  unread := watched.unread
  silenced silence speaks := watched.silenced silence (goesOn.silenced ▸ speaks)
  silence stays := by
    have silence := watched.silence (Task.isOpen_of_step step stays)
    rw [← goesOn.silence] at silence
    exact silence

theorem post (watched : s.Watched timeout since) (message : Message) :
    (s.step registries z (.post message)).Watched timeout since := by
  change ({ s with task := (s.task.post message).2 } : Vigil α).Watched timeout since
  rw [Task.post, Connection.post]
  by_cases refused : (s.task.connection.isClosed ||
      Connection.mailboxSize ≤ s.task.connection.mailbox.length) = true
  · rw [if_pos refused]
    exact watched
  · rw [if_neg refused]
    exact { watched with }

theorem lend (watched : s.Watched timeout since) (metrics : Metrics) :
    (s.step registries z (.lend metrics)).Watched timeout since := { watched with }

theorem cut (watched : s.Watched timeout since) (cause : StreamFault) (count : Nat) :
    (s.step registries z (.cut cause count)).Watched timeout since :=
  watched.work (Task.step_turn s.task (.cut cause count)) (Task.goesOn_cut s.task cause count)

theorem deliver (watched : s.Watched timeout since) :
    (s.step registries z .deliver).Watched timeout since :=
  watched.work (Task.step_turn s.task .deliver) (Task.goesOn_deliver s.task)

theorem proceed (keep : registries.KeepTime) (watched : s.Watched timeout since) :
    (s.step registries z .proceed).Watched timeout since :=
  watched.work (Task.step_proceed s.task) (Task.goesOn_proceed keep s.task)

/-! ### Arrivals, reads and the clock -/

theorem arrive (watched : s.Watched timeout since) (off : s.now ≠ since + timeout.nanos)
    (first : UInt8) (more : Bytes) :
    ({ s with inbox := s.inbox ++ first :: more } : Vigil α).Watched timeout s.now where
  limit := watched.limit
  closed := watched.closed
  early := watched.early
  alarm := watched.alarm
  now := watched.now
  past := watched.past
  heard empty := absurd empty (by simp)
  unread _ := by
    refine ⟨rfl, ?_⟩
    by_cases empty : s.inbox = []
    · have latest := watched.now_le
      rw [watched.heard empty]
      exact Nat.lt_of_le_of_ne latest off
    · exact (watched.unread empty).2
  silenced silence speaks := absurd (watched.silenced silence speaks).2 off
  silence := watched.silence

/-- Who has nothing to do but to wait. -/
theorem waits_of_isIdle (going : s.task.moment.isOver = false) (idle : s.isIdle) :
    s.task.moment = .waiting false ∧ s.now < s.alarm ∧ s.inbox = [] ∧ s.hungUp = false := by
  rw [isIdle] at idle
  split at idle
  · rename_i finished
    rw [finished] at going
    cases going
  · rename_i waits
    simp only [Bool.and_eq_true, decide_eq_true_eq, List.isEmpty_iff, Bool.not_eq_true'] at idle
    exact ⟨waits, idle.1.1.1, idle.1.1.2, idle.1.2⟩
  · cases idle

theorem pass (watched : s.Watched timeout since) (going : s.task.moment.isOver = false)
    (time : Duration) : (s.pass time).Watched timeout since := by
  rw [Vigil.pass]
  split
  · rename_i passes
    rw [Bool.and_eq_true, Bool.or_eq_true, Task.isSome_result?, going, decide_eq_true_eq] at passes
    obtain ⟨idle, finished | inTime⟩ := passes
    · cases finished
    obtain ⟨waits, -, empty, -⟩ := waits_of_isIdle going idle
    have runs : s.task.connection.isClosed = false := watched.closed.trans going
    rw [Task.elapse, if_neg (by rw [runs]; exact Bool.false_ne_true)]
    refine { watched with now := inTime, past := ?_, unread := ?_, silenced := ?_, silence := ?_ }
    · exact Nat.le_trans watched.past (Nat.le_add_right _ _)
    · exact fun some => absurd empty some
    · intro silence speaks
      have mute : s.task.moment.silenced? = some silence := speaks
      rw [waits] at mute
      cases mute
    · intro stays
      have silence := watched.silence stays
      dsimp only
      omega
  · exact watched

/-- The end of the silence itself. -/
theorem timeOut (watched : s.Watched timeout since) (going : s.task.moment.isOver = false)
    (due : s.now = since + timeout.nanos) :
    ({ s with task := s.task.timeOut } : Vigil α).Watched timeout since where
  limit := watched.limit
  closed := watched.closed.trans going
  early := watched.early
  alarm := watched.alarm
  now := watched.now
  past := watched.past
  heard := watched.heard
  unread := watched.unread
  silenced silence speaks := by
    cases speaks
    exact ⟨watched.limit, due⟩
  silence := nofun

/-- When the timer has gone off, the silence has come to its end, or the timer is set for that. -/
theorem ring (watched : s.Watched timeout since) : s.ring.Watched timeout since := by
  have limit := limit_eq watched
  rw [Vigil.ring]
  split
  · rename_i due
    have now := watched.now
    have alarm := watched.alarm
    split
    · rename_i fresh waits opening
      split
      · rename_i nothing
        simp only [Bool.and_eq_true, List.isEmpty_iff, Bool.not_eq_true'] at nothing
        have read := watched.heard nothing.1
        have early := watched.early opening
        exact watched.timeOut (by rw [waits]; rfl) (by omega)
      · exact watched
    · rename_i fresh waits serving
      split
      · rename_i late
        rw [limit] at late
        have empty : s.inbox = [] := by
          refine Classical.byContradiction fun some => ?_
          have unread := watched.unread some
          omega
        have read := watched.heard empty
        exact watched.timeOut (by rw [waits]; rfl) (by omega)
      · rename_i early
        rw [limit] at early ⊢
        refine { watched with early := ?_, alarm := Nat.le_refl _, now := ?_ }
        · exact fun _ => rfl
        · exact Nat.le_of_not_le early
    · exact watched
  · exact watched

/-- Octets that are read are no silence, and end the one there was. -/
theorem receive {t : Task α} (waits : t.moment = .waiting false)
    (running : t.connection.isClosed = false) (first : UInt8) (more : Bytes) :
    (t.receive (first :: more)).2.moment.silenced? = none ∧
      ((t.receive (first :: more)).2.moment.isOpen →
        (t.receive (first :: more)).2.connection.silence.nanos = 0) := by
  obtain ⟨⟨conversation, readTimeout, phase, buffer, mailbox, silence, notes⟩, moment⟩ := t
  cases waits
  cases phase with
  | opening =>
    by_cases old : first = LegacyPing.opening
    · unfold Task.receive
      dsimp only
      rw [if_pos old]
      exact ⟨rfl, nofun⟩
    · unfold Task.receive
      dsimp only
      rw [if_neg old]
      exact ⟨rfl, fun _ => rfl⟩
  | serving => exact ⟨rfl, fun _ => rfl⟩
  | closed result => cases running

theorem read (watched : s.Watched timeout since) (count : Nat) :
    (s.step registries z (.read count)).Watched timeout since := by
  change (s.read count).Watched timeout since
  rw [Vigil.read]
  split
  · split
    · have step : Task.Step registries z s.task _ s.task.finish.2 := Task.step_turn s.task .finish
      exact watched.work step (Task.goesOn_finish s.task)
    · exact watched
  · rename_i waits arrived
    have running : s.task.connection.isClosed = false := by
      rw [watched.closed, waits]
      rfl
    have unread := watched.unread (by rw [arrived]; exact List.cons_ne_nil _ _)
    have alarm := watched.alarm
    have now := watched.now
    have past := watched.past
    have limit := limit_eq watched
    split
    · exact watched
    · rename_i first more taken
      have step : Task.Step registries z s.task _ (s.task.receive (first :: more)).2 :=
        Task.step_turn s.task (.receive (first :: more))
      obtain ⟨mute, heard⟩ := receive waits running first more
      constructor
      case limit => exact (Task.readTimeout_step step).trans watched.limit
      case closed => exact Task.isClosed_step step watched.closed
      case early =>
        intro opening
        rw [Task.opening_of_step step opening]
        exact congrArg (s.now + ·) limit
      case alarm =>
        dsimp only
        split <;> omega
      case now =>
        dsimp only
        split <;> omega
      case past => exact Nat.le_refl _
      case heard => exact fun _ => unread.1.symm
      case unread =>
        refine fun _ => ⟨unread.1, ?_⟩
        dsimp only
        omega
      case silenced =>
        intro silence speaks
        rw [mute] at speaks
        cases speaks
      case silence =>
        intro stays
        exact (congrArg (s.now + ·) (heard stays)).symm
  · exact watched

/-! ### Every tick -/

/-- **The watch is kept by every tick.** -/
theorem step (keep : registries.KeepTime) (watched : s.Watched timeout since)
    (going : s.task.moment.isOver = false) (tick : Tick)
    (off : ∀ first more, tick = .arrive (first :: more) → s.now ≠ since + timeout.nanos) :
    (s.step registries z tick).Watched timeout (s.sinceAfter since tick) := by
  cases tick with
  | arrive octets =>
    cases octets with
    | nil =>
      rw [Vigil.step, List.append_nil]
      exact watched
    | cons first more =>
      rw [sinceAfter, Task.isSome_result?, going]
      exact watched.arrive (off first more rfl) first more
  | hangUp => exact { watched with }
  | post message => exact watched.post message
  | lend metrics => exact watched.lend metrics
  | cut cause count => exact watched.cut cause count
  | pass time => exact watched.pass going time
  | read count => exact watched.read count
  | ring => exact watched.ring
  | deliver => exact watched.deliver
  | proceed => exact watched.proceed keep

/-! ### What the task knows of it -/

/-- A timer that ends the silence does so when the task itself would. -/
theorem task_ring (watched : s.Watched timeout since) :
    s.ring.task = s.task ∨ s.ring.task = s.task.expire.2 := by
  have limit := limit_eq watched
  have expires {fresh : Bool} (waits : s.task.moment = .waiting fresh)
      (late : s.lastRead + timeout.nanos ≤ s.now) : s.task.timeOut = s.task.expire.2 := by
    have silence := watched.silence (by rw [waits]; rfl)
    have long : s.task.connection.readTimeout.nanos ≤ s.task.connection.silence.nanos := by
      rw [watched.limit]
      omega
    rw [Task.expire, waits]
    dsimp only
    rw [if_pos long]
    rfl
  rw [Vigil.ring]
  split
  · rename_i due
    split
    · rename_i fresh waits opening
      split
      · exact .inr (expires waits (watched.early opening ▸ due))
      · exact .inl rfl
    · rename_i fresh waits serving
      split
      · rename_i late
        exact .inr (expires waits (limit ▸ late))
      · exact .inl rfl
    · exact .inl rfl
  · exact .inl rfl

/-- **A vigil is a schedule**: a tick lets other tasks change the counters, or is a move of the task, or
nothing to it. -/
theorem task_step (watched : s.Watched timeout since) (tick : Tick) :
    (s.step registries z tick).task = s.task ∨
      (∃ metrics, (s.step registries z tick).task = s.task.lend metrics) ∨
        ∃ move, (s.step registries z tick).task = s.task.step registries z move := by
  cases tick with
  | arrive octets => exact .inl rfl
  | hangUp => exact .inl rfl
  | post message => exact .inr (.inr ⟨.post message, rfl⟩)
  | lend metrics => exact .inr (.inl ⟨metrics, rfl⟩)
  | cut cause count => exact .inr (.inr ⟨.cut cause count, rfl⟩)
  | pass time =>
    rw [Vigil.step, Vigil.pass]
    split
    · exact .inr (.inr ⟨.elapse time, rfl⟩)
    · exact .inl rfl
  | read count =>
    rw [Vigil.step, Vigil.read]
    split
    · split
      · exact .inr (.inr ⟨.finish, rfl⟩)
      · exact .inl rfl
    · split
      · exact .inl rfl
      · exact .inr (.inr ⟨.receive _, rfl⟩)
    · exact .inl rfl
  | ring =>
    rcases watched.task_ring with same | expired
    · exact .inl same
    · exact .inr (.inr ⟨.expire, expired⟩)
  | deliver => exact .inr (.inr ⟨.deliver, rfl⟩)
  | proceed => exact .inr (.inr ⟨.proceed, rfl⟩)

end Watched

end Vigil

end GameTransport
