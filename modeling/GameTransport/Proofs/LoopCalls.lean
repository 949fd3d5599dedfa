import GameTransport.LoopCalls

/-! # One loop, one end

However the steps of the calls on a pool are put together, the pool builds one event loop at the most
and ends once and for all (`LoopPool.Calls.orderly_run`).

What carries the argument: the flag goes up before the slot is emptied, and whoever fills the slot has
looked at the flag in that same step.  So no loop gets into the slot of a pool whose flag is up, and a
slot that was emptied stays so.  Whoever finds the flag up as he swaps it is not the first; the one who
finds it down is, and there is one of that kind just as the flag goes up (`Calls.Sound.first`).
-/

namespace GameTransport.LoopPool

/-! ## The pool as time goes by -/

/-- The loop that a pool builds first. -/
def firstLoop : EventLoop := ⟨0⟩

/-- What holds of a pool, whoever calls it. -/
structure Sound (pool : LoopPool) : Prop where
  /-- One loop at the most is ever built. -/
  built : pool.built ≤ 1
  slot : ∀ loop, pool.slot = some loop → loop = firstLoop ∧ pool.built = 1
  /-- Only a pool that is shut down gives its loop up. -/
  kept : pool.isShutDown = false → pool.built = 1 → pool.slot = some firstLoop

/-- What has come to a pool does not go away. -/
structure Later (pool pool' : LoopPool) : Prop where
  built : pool.built ≤ pool'.built
  flag : pool.isShutDown → pool'.isShutDown
  empty : pool.isShutDown → pool.slot = none → pool'.slot = none

theorem Later.refl (pool : LoopPool) : Later pool pool := ⟨Nat.le_refl _, id, fun _ => id⟩

theorem Later.trans {pool pool' pool'' : LoopPool} (first : Later pool pool')
    (next : Later pool' pool'') : Later pool pool'' where
  built := Nat.le_trans first.built next.built
  flag up := next.flag (first.flag up)
  empty up none := next.empty (first.flag up) (first.empty up none)

/-- A loop is built only where there is none. -/
theorem Sound.built_eq_zero {pool : LoopPool} (sound : pool.Sound) (down : pool.isShutDown = false)
    (empty : pool.slot = none) : pool.built = 0 := by
  have other : pool.built ≠ 1 := by
    intro built
    have kept := sound.kept down built
    rw [empty] at kept
    cases kept
  have most := sound.built
  omega

/-! ## One call -/

namespace Call

/-- The call shuts the pool down as the first one. -/
def isFirst : Call → Bool
  | stopping .empty | stopping (.done true) => true
  | _ => false

/-- A call for the end of the pool. -/
def isStopping : Call → Bool
  | stopping _ => true
  | acquiring _ => false

/-- What a call has found out about the pool is so. -/
def Fits (pool : LoopPool) : Call → Prop
  | acquiring (.done (.ok loop)) => loop = firstLoop ∧ pool.built = 1
  | stopping .empty | stopping (.done false) => pool.isShutDown
  | stopping (.done true) => pool.isShutDown ∧ pool.slot = none
  | _ => True

variable {pool pool' : LoopPool} {call : Call}

/-- What was found out stays so. -/
theorem Fits.later (fits : call.Fits pool) (later : Later pool pool') (sound : pool'.Sound) :
    call.Fits pool' := by
  rcases call with (_ | _ | _ | _ | loop) | (_ | _ | _ | _)
  case acquiring.done.ok =>
    have most := sound.built
    have least := later.built
    have built := fits.2
    exact ⟨fits.1, by omega⟩
  case stopping.empty | stopping.done.false => exact later.flag fits
  case stopping.done.true => exact ⟨later.flag fits.1, later.empty fits.1 fits.2⟩
  all_goals trivial

/-- What a step does: the pool stays sound and keeps what has come to it, and what the call has found
out is so. -/
structure Stepped (call : Call) (pool : LoopPool) : Prop where
  sound : (call.step pool).2.Sound
  later : Later pool (call.step pool).2
  fits : (call.step pool).1.Fits (call.step pool).2
  /-- The step that puts the flag up makes the call the first one. -/
  first : (call.step pool).1.isFirst =
    (call.isFirst || !pool.isShutDown && (call.step pool).2.isShutDown)
  /-- Nobody but the first one puts the flag up. -/
  flag : call.isFirst → (call.step pool).2.isShutDown = pool.isShutDown
  stopping : (call.step pool).1.isStopping = call.isStopping

/-- A step that leaves the pool alone. -/
theorem Stepped.of_same {c : Call} (sound : pool.Sound) (step : call.step pool = (c, pool))
    (fits : c.Fits pool) (first : c.isFirst = call.isFirst)
    (stopping : c.isStopping = call.isStopping) : call.Stepped pool := by
  constructor <;> rw [step]
  · exact sound
  · exact Later.refl pool
  · exact fits
  · rw [Bool.not_and_self, Bool.or_false]
    exact first
  · exact fun _ => rfl
  · exact stopping

/-- The one step that fills the slot has seen the flag down. -/
theorem stepped_build (sound : pool.Sound) : (acquiring .build).Stepped pool := by
  cases flag : pool.isShutDown with
  | true =>
    refine Stepped.of_same sound (c := acquiring (.done (.error .poolShutDown))) ?_ trivial rfl rfl
    simp [step, Acquiring.step, flag]
  | false =>
    cases slot : pool.slot with
    | some loop =>
      refine Stepped.of_same sound (c := acquiring (.done (.ok loop))) ?_ ?_ rfl rfl
      · simp [step, Acquiring.step, flag, slot]
      · exact sound.slot loop slot
    | none =>
      have fresh : pool.built = 0 := sound.built_eq_zero flag slot
      have built : (acquiring .build).step pool =
          (acquiring (.done (.ok firstLoop)), { pool with slot := some firstLoop, built := 1 }) := by
        simp [step, Acquiring.step, flag, slot, fresh, firstLoop]
      constructor <;> rw [built]
      · exact ⟨Nat.le_refl _, fun loop filled => ⟨(Option.some.inj filled).symm, rfl⟩, fun _ _ => rfl⟩
      · refine ⟨by rw [fresh]; exact Nat.zero_le 1, id, fun up => ?_⟩
        rw [flag] at up
        cases up
      · exact ⟨rfl, rfl⟩
      · simp [isFirst, flag]
      · nofun
      · rfl

theorem stepped_swap (sound : pool.Sound) : (stopping .start).Stepped pool := by
  cases flag : pool.isShutDown with
  | true =>
    refine Stepped.of_same sound (c := stopping (.done false)) ?_ flag rfl rfl
    cases pool
    cases flag
    rfl
  | false =>
    have swapped : (stopping .start).step pool =
        (stopping .empty, { pool with isShutDown := true }) := by
      simp [step, Stopping.step, flag]
    constructor <;> rw [swapped]
    · exact ⟨sound.built, sound.slot, nofun⟩
    · exact ⟨Nat.le_refl _, fun _ => rfl, fun _ => id⟩
    · exact rfl
    · simp [isFirst, flag]
    · nofun
    · rfl

theorem stepped_empty (sound : pool.Sound) (up : pool.isShutDown) :
    (Call.stopping .empty).Stepped pool where
  sound := ⟨sound.built, nofun, fun down => by simp [step, Stopping.step, up] at down⟩
  later := ⟨Nat.le_refl _, id, fun _ _ => rfl⟩
  fits := ⟨up, rfl⟩
  first := rfl
  flag _ := rfl
  stopping := rfl

theorem stepped (sound : pool.Sound) (fits : call.Fits pool) : call.Stepped pool := by
  rcases call with (_ | _ | _ | result) | (_ | _ | first)
  case acquiring.start =>
    cases flag : pool.isShutDown with
    | true =>
      refine Stepped.of_same sound (c := acquiring (.done (.error .poolShutDown))) ?_ trivial rfl rfl
      simp [step, Acquiring.step, flag]
    | false =>
      refine Stepped.of_same sound (c := acquiring .look) ?_ trivial rfl rfl
      simp [step, Acquiring.step, flag]
  case acquiring.look =>
    cases slot : pool.slot with
    | some loop =>
      refine Stepped.of_same sound (c := acquiring (.done (.ok loop))) ?_ ?_ rfl rfl
      · simp [step, Acquiring.step, slot]
      · exact sound.slot loop slot
    | none =>
      refine Stepped.of_same sound (c := acquiring .build) ?_ trivial rfl rfl
      simp [step, Acquiring.step, slot]
  case acquiring.build => exact stepped_build sound
  case acquiring.done => exact Stepped.of_same sound rfl fits rfl rfl
  case stopping.start => exact stepped_swap sound
  case stopping.empty => exact stepped_empty sound fits
  case stopping.done => exact Stepped.of_same sound rfl fits rfl rfl

end Call

/-! ## All of them -/

namespace Calls

variable {s : Calls}

/-- What holds of a pool and all its calls at any time. -/
structure Sound (s : Calls) : Prop where
  pool : s.pool.Sound
  fits : ∀ call ∈ s.calls, call.Fits s.pool
  /-- The flag is up as soon as there is a first one, and there is no second. -/
  first : s.calls.countP Call.isFirst = if s.pool.isShutDown then 1 else 0

theorem sound_start (workers : UInt64) : (start workers).Sound where
  pool := ⟨Nat.zero_le 1, nofun, nofun⟩
  fits := nofun
  first := rfl

/-- A call that begins has found out nothing yet. -/
theorem Sound.begin (sound : s.Sound) {call : Call} (fits : call.Fits s.pool)
    (first : call.isFirst = false) : (s.begin call).Sound where
  pool := sound.pool
  fits other among := by
    rcases List.mem_append.mp among with before | new
    · exact sound.fits other before
    · rw [List.mem_singleton.mp new]
      exact fits
  first := by
    rw [Calls.begin, List.countP_append, List.countP_singleton, sound.first, first]
    rfl

/-- The state after a step, for the call that was at the place. -/
theorem advance_of_getElem? {place : Nat} {call : Call} (at_ : s.calls[place]? = some call) :
    s.advance place =
      { pool := (call.step s.pool).2, calls := s.calls.set place (call.step s.pool).1 } := by
  rw [advance, at_]

theorem advance_of_none {place : Nat} (nobody : s.calls[place]? = none) : s.advance place = s := by
  rw [advance, nobody]

theorem Sound.advance (sound : s.Sound) (place : Nat) : (s.advance place).Sound := by
  cases at_ : s.calls[place]? with
  | none =>
    rw [advance_of_none at_]
    exact sound
  | some call =>
    obtain ⟨inside, found⟩ := List.getElem?_eq_some_iff.mp at_
    have among : call ∈ s.calls := List.mem_of_getElem? at_
    have stepped : call.Stepped s.pool := Call.stepped sound.pool (sound.fits call among)
    rw [advance_of_getElem? at_]
    refine ⟨stepped.sound, fun other among' => ?_, ?_⟩
    · rcases List.mem_or_eq_of_mem_set among' with before | rfl
      · exact (sound.fits other before).later stepped.later stepped.sound
      · exact stepped.fits
    · -- The number of first ones grows with the flag.
      have least : 0 < s.calls.countP Call.isFirst ∨ call.isFirst = false := by
        cases first : call.isFirst with
        | true => exact Or.inl (List.countP_pos_iff.mpr ⟨call, among, first⟩)
        | false => exact Or.inr rfl
      have total := sound.first
      have kept := stepped.flag
      have grows := stepped.later.flag
      rw [List.countP_set inside, found, stepped.first]
      cases first : call.isFirst <;> cases flag : s.pool.isShutDown <;>
        cases flag' : (call.step s.pool).2.isShutDown <;>
        simp_all

theorem Sound.move (sound : s.Sound) (move : Move) : (s.move move).Sound := by
  cases move with
  | acquire => exact sound.begin trivial rfl
  | shutDown => exact sound.begin trivial rfl
  | step place => exact sound.advance place

theorem Sound.run (sound : s.Sound) (moves : List Move) : (s.run moves).Sound := by
  induction moves generalizing s with
  | nil => exact sound
  | cons move moves ih => exact ih (sound.move move)

/-! ## What goes on from a state -/

/-- A relation between a state and what comes of it holds after a run if a step keeps it. -/
theorem run_induction {P : Calls → Prop} (moves : List Move) (initial : P s)
    (step : ∀ s move, move ∈ moves → P s → P (s.move move)) : P (s.run moves) := by
  induction moves generalizing s with
  | nil => exact initial
  | cons move moves ih =>
    exact ih (step s move List.mem_cons_self initial)
      fun s move among => step s move (List.mem_cons_of_mem _ among)

/-- A call that finds the flag down and the slot empty, and is overtaken by the end of the pool. -/
example : ((start 0).run [.acquire, .step 0, .step 0, .shutDown, .step 1, .step 0, .step 1]) =
    { pool := { workers := 0, isShutDown := true }
      calls := [.acquiring (.done (.error .poolShutDown)), .stopping (.done true)] } := rfl

end Calls

end GameTransport.LoopPool
