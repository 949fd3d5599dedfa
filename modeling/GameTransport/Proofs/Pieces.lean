import GameTransport.Proofs.Inflating
import GameTransport.Proofs.Resuming
import GameTransport.Zlib.Machine

/-! # Whole streams from pieces

A machine is of the standard format if every call on a stream does what the format asks for, as far as
the call goes (`Machine.Inflates`, `Machine.Deflates`): what is made at the end of a stream is what the
stream holds, a call that complains has found no stream, and a call that goes on has made some more.
Nothing is said of how much a call takes or makes.

The loops over the calls come to what the format says, however the pieces fall.  Decompressing never
makes more than it has room for, it ends at the end of a stream only, and it does end there if the
content leaves any room (`Inflates.settles`).  Compressing ends with a complete stream
(`Deflates.exists_stream`).
-/

namespace GameTransport.Zlib

namespace Machine

variable {machine : Machine}

/-! ### What a call does -/

/-- A new decompressor after calls with what was left of a body, of which none ended the stream or
filled its room. -/
inductive Amid (machine : Machine) (body : Bytes) : Progress → machine.Inflater → Prop where
  | new : Amid machine body {} machine.inflater
  | call {progress : Progress} {inflater after : machine.Inflater} {room : Nat} {piece : Piece}
    {status : Status} (amid : Amid machine body progress inflater)
    (called : machine.decompress (body.drop progress.taken) room inflater = (piece, after))
    (goesOn : piece.status = .ok status) (open_ : status ≠ .ended)
    (spare : piece.output.length < room) : Amid machine body (progress.add piece) after

/-- A piece that such a decompressor gives next, with some room. -/
def Gives (machine : Machine) (body : Bytes) (progress : Progress) (room : Nat) (piece : Piece) :
    Prop :=
  ∃ inflater after, machine.Amid body progress inflater ∧ 0 < room ∧
    machine.decompress (body.drop progress.taken) room inflater = (piece, after)

/-- A decompressor of the standard format. -/
structure Inflates (machine : Machine) : Prop where
  /-- Resetting a decompressor makes it new. -/
  resets : ∀ inflater, machine.resetInflater inflater = machine.inflater
  /-- A call makes no more than there is room for. -/
  fits : ∀ {body progress room piece}, machine.Gives body progress room piece →
    piece.output.length ≤ room
  /-- At the end of a stream its content has been made, and the stream taken. -/
  ends : ∀ {body progress room piece}, machine.Gives body progress room piece →
    piece.status = .ok .ended →
    Starts body (progress.add piece).output (body.length - (progress.add piece).taken)
  /-- A complaint is about octets with which no stream begins. -/
  complains : ∀ {body progress room piece text}, machine.Gives body progress room piece →
    piece.status = .error text → ∀ content unread, ¬ Starts body content unread
  /-- Within a complete stream a call makes some of the content. -/
  goesOn : ∀ {body progress room piece status content unread},
    machine.Gives body progress room piece → piece.status = .ok status → status ≠ .ended →
    Starts body content unread → piece.output ≠ [] ∧ (progress.add piece).output <+: content

/-- A new compressor after calls with what was left of a payload, of which none ended the stream. -/
inductive Making (machine : Machine) (level : Nat) (payload : Bytes) :
    Progress → machine.Deflater → Prop where
  | new : Making machine level payload {} (machine.deflater level)
  | call {progress : Progress} {deflater after : machine.Deflater} {room : Nat} {piece : Piece}
    {status : Status} (making : Making machine level payload progress deflater)
    (called : machine.compress (payload.drop progress.taken) room deflater = (piece, after))
    (goesOn : piece.status = .ok status) (open_ : status ≠ .ended) :
    Making machine level payload (progress.add piece) after

/-- A compressor of the standard format. -/
structure Deflates (machine : Machine) : Prop where
  /-- Resetting a compressor makes it new; it keeps its level. -/
  resets : ∀ {level payload progress deflater room piece after},
    machine.Making level payload progress deflater →
    machine.compress (payload.drop progress.taken) room deflater = (piece, after) →
    machine.resetDeflater after = machine.deflater level
  /-- A call with some room does not fail.  It makes something, or it ends the stream. -/
  goesOn : ∀ {level payload progress deflater room piece after},
    machine.Making level payload progress deflater → 0 < room →
    machine.compress (payload.drop progress.taken) room deflater = (piece, after) →
    ∃ status, piece.status = .ok status ∧ (status ≠ .ended → piece.output ≠ [])
  /-- What has been made at the end is a complete stream that holds the payload. -/
  ends : ∀ {level payload progress deflater room piece after},
    machine.Making level payload progress deflater →
    machine.compress (payload.drop progress.taken) room deflater = (piece, after) →
    piece.status = .ok .ended → Starts (progress.add piece).output payload 0
  /-- A stream has an end. -/
  bounded : ∀ level payload, ∃ most, ∀ {progress deflater},
    machine.Making level payload progress deflater → progress.output.length ≤ most

/-! ### Decompressing -/

/-- What decompressing comes to. -/
structure Settled (capacity : Nat) (body : Bytes) (halt : Halt) (progress : Progress) : Prop where
  fits : progress.output.length ≤ capacity
  ends : halt = .ended → Starts body progress.output (body.length - progress.taken)
  whole : ∀ content unread, Starts body content unread → content.length < capacity → halt = .ended

theorem length_add (progress : Progress) (piece : Piece) :
    (progress.add piece).output.length = progress.output.length + piece.output.length :=
  List.length_append

section Calls

variable {capacity : Nat} {body : Bytes} {progress : Progress} {inflater after : machine.Inflater}
  {piece : Piece} {status : Status} {text : String}
  (called : machine.decompress (body.drop progress.taken) (capacity - progress.output.length)
    inflater = (piece, after))

include called

theorem decompressFrom_of_error (said : piece.status = .error text) :
    machine.decompressFrom capacity body progress inflater =
      (.failed text, progress.add piece, after) := by
  rw [decompressFrom, called]
  dsimp only
  rw [said]

theorem decompressFrom_of_ended (said : piece.status = .ok .ended) :
    machine.decompressFrom capacity body progress inflater = (.ended, progress.add piece, after) := by
  rw [decompressFrom, called]
  dsimp only
  rw [said]

theorem decompressFrom_of_open (said : piece.status = .ok status) (open_ : status ≠ .ended) :
    machine.decompressFrom capacity body progress inflater =
      if piece.output = [] ∨ capacity ≤ (progress.add piece).output.length then
        (.starved, progress.add piece, after)
      else machine.decompressFrom capacity body (progress.add piece) after := by
  rw [decompressFrom, called]
  dsimp only
  rw [said]
  cases status with
  | ended => exact absurd rfl open_
  | ok => rw [dite_eq_ite]
  | stuck => rw [dite_eq_ite]

end Calls

/-- The next call of the loop has some room, and stays within the capacity. -/
theorem Inflates.gives_of_call (inflates : machine.Inflates) {capacity : Nat} {body : Bytes}
    {progress : Progress} {inflater after : machine.Inflater} {piece : Piece}
    (amid : machine.Amid body progress inflater) (room : progress.output.length < capacity)
    (called : machine.decompress (body.drop progress.taken) (capacity - progress.output.length)
      inflater = (piece, after)) :
    machine.Gives body progress (capacity - progress.output.length) piece ∧
      (progress.add piece).output.length ≤ capacity := by
  have gives : machine.Gives body progress (capacity - progress.output.length) piece :=
    ⟨inflater, after, amid, by omega, called⟩
  have most := inflates.fits gives
  rw [length_add]
  exact ⟨gives, by omega⟩

/-- **The loop settles what stands at the front of a body**, however its pieces fall. -/
theorem Inflates.settles (inflates : machine.Inflates) {capacity : Nat} {body : Bytes}
    {progress : Progress} {inflater : machine.Inflater} (amid : machine.Amid body progress inflater)
    (room : progress.output.length < capacity) :
    let result := machine.decompressFrom capacity body progress inflater
    Settled capacity body result.1 result.2.1 := by
  induction progress, inflater using decompressFrom.induct machine capacity body with
  | case1 progress inflater piece after called text said =>
    obtain ⟨gives, fits⟩ := inflates.gives_of_call amid room called
    rw [decompressFrom_of_error called said]
    refine ⟨fits, fun ended => (by cases ended), fun content unread starts _ => ?_⟩
    exact absurd starts (inflates.complains gives said content unread)
  | case2 progress inflater piece after called said =>
    obtain ⟨gives, fits⟩ := inflates.gives_of_call amid room called
    rw [decompressFrom_of_ended called said]
    exact ⟨fits, fun _ => inflates.ends gives said, fun _ _ _ _ => rfl⟩
  | case3 progress inflater piece after called added status open_ said starved =>
    obtain ⟨gives, fits⟩ := inflates.gives_of_call amid room called
    rw [decompressFrom_of_open called said open_, if_pos starved]
    refine ⟨fits, fun ended => (by cases ended), fun content unread starts short => ?_⟩
    -- A stream whose content leaves some room would have gone on.
    obtain ⟨some', front⟩ := inflates.goesOn gives said open_ starts
    rcases starved with none' | full
    · exact absurd none' some'
    · have longest : added.output.length ≤ content.length := front.length_le
      omega
  | case4 progress inflater piece after called added status open_ said goesOn ih =>
    obtain ⟨gives, fits⟩ := inflates.gives_of_call amid room called
    obtain ⟨some', spare⟩ := not_or.mp goesOn
    have length : added.output.length = progress.output.length + piece.output.length :=
      length_add progress piece
    rw [decompressFrom_of_open called said open_, if_neg goesOn]
    exact ih (amid.call called said open_ (by omega)) (by omega)

/-! ### Compressing -/

theorem lt_reserve (capacity made : Nat) : made < reserve capacity made := by
  unfold reserve leastRoom
  omega

/-- **The loop ends with a complete stream**, however its pieces fall. -/
theorem Deflates.exists_stream (deflates : machine.Deflates) {level capacity : Nat} {payload : Bytes}
    {progress : Progress} {deflater : machine.Deflater}
    (making : machine.Making level payload progress deflater)
    (room : progress.output.length < capacity) :
    ∃ stream used, machine.compressFrom payload capacity progress deflater = some (.ok stream used) ∧
      Starts stream payload 0 ∧ machine.resetDeflater used = machine.deflater level := by
  obtain ⟨most, bounded⟩ := deflates.bounded level payload
  -- What is still missing from the most that can be made grows less with every call.
  induction missing : most - progress.output.length using Nat.strongRecOn
    generalizing capacity progress deflater with
  | _ missing ih =>
  rcases called : machine.compress (payload.drop progress.taken)
    (capacity - progress.output.length) deflater with ⟨piece, after⟩
  obtain ⟨status, said, grows⟩ := deflates.goesOn making (by omega) called
  rw [compressFrom_eq, compressOnce, called]
  dsimp only
  rw [said]
  by_cases ended : status = .ended
  · rw [ended] at said ⊢
    exact ⟨_, after, rfl, deflates.ends making called said, deflates.resets making called⟩
  · have next := making.call called said ended
    have longer := length_add progress piece
    have some' := List.length_pos_iff.mpr (grows ended)
    have fits := bounded next
    have others := ih _ (by omega) next (lt_reserve capacity _) rfl
    cases status with
    | ended => exact absurd rfl ended
    | ok => exact others
    | stuck => exact others

/-! ### The engine -/

variable {capacity level unread : Nat} {body content payload : Bytes}

theorem Inflates.resetsInflater (inflates : machine.Inflates) : machine.engine.ResetsInflater :=
  fun _ _ => inflates.resets _

theorem inflate_engine (machine : Machine) (capacity : Nat) (body : Bytes) :
    (machine.engine.inflate capacity body machine.inflater).1 =
      let result := machine.decompressFrom capacity body {} machine.inflater
      result.1.outcome body result.2.1 := rfl

/-- The engine comes to the end of a stream whose content leaves some room. -/
theorem Inflates.inflate_eq (inflates : machine.Inflates) (starts : Starts body content unread)
    (room : content.length < capacity) :
    (machine.engine.inflate capacity body machine.inflater).1 = .finished content unread := by
  have some' : 0 < capacity := by omega
  have settled := inflates.settles (.new : machine.Amid body {} _) some'
  rw [inflate_engine]
  dsimp only at settled ⊢
  have ended := settled.whole content unread starts room
  obtain ⟨same, left⟩ := (settled.ends ended).unique starts
  rw [ended, Halt.outcome, same, left]

/-- The engine comes to the end of a stream only. -/
theorem Inflates.starts_of_inflate (inflates : machine.Inflates) (room : 0 < capacity)
    (finished : (machine.engine.inflate capacity body machine.inflater).1 =
      .finished content unread) : Starts body content unread := by
  have settled := inflates.settles (.new : machine.Amid body {} _) room
  rw [inflate_engine] at finished
  dsimp only at settled finished
  rcases halt : (machine.decompressFrom capacity body {} machine.inflater).1 with text | _ | _
  · rw [halt] at finished
    cases finished
  · have starts := settled.ends halt
    rw [halt] at finished
    cases finished
    exact starts
  · rw [halt] at finished
    cases finished

/-- The engine comes to the end of just the complete streams. -/
theorem Inflates.inflate_eq_finished_iff (inflates : machine.Inflates)
    (room : content.length < capacity) :
    machine.engine.library.inflate capacity body = .finished content unread ↔
      Starts body content unread :=
  ⟨inflates.starts_of_inflate (by omega), fun starts => inflates.inflate_eq starts room⟩

theorem deflate_of_compressFrom {deflater : machine.Deflater}
    {result : EStateM.Result String machine.Deflater Bytes}
    (made : machine.compressFrom payload (firstCapacity payload.length) {} deflater = some result) :
    machine.engine.deflate payload deflater = result := by
  simp only [engine]
  rw [made]

/-- A new compressor of the engine makes a complete stream. -/
theorem Deflates.deflate_eq (deflates : machine.Deflates) (level : Nat) (payload : Bytes) :
    ∃ stream used, machine.engine.deflate payload (machine.deflater level) = .ok stream used ∧
      Starts stream payload 0 ∧ machine.resetDeflater used = machine.deflater level := by
  have room : ([] : Bytes).length < firstCapacity payload.length := by
    unfold firstCapacity leastRoom
    simp
  obtain ⟨stream, used, made, starts, reset⟩ := deflates.exists_stream (.new) room
  exact ⟨stream, used, deflate_of_compressFrom made, starts, reset⟩

theorem lawful_engine (deflates : machine.Deflates) (inflates : machine.Inflates) :
    machine.engine.Lawful where
  resetsDeflater level payload := by
    obtain ⟨stream, used, made, -, reset⟩ := deflates.deflate_eq level payload
    exact (congrArg (fun result => machine.resetDeflater (stateOf result)) made).trans reset
  resetsInflater := inflates.resetsInflater
  deflates level payload := by
    obtain ⟨stream, used, made, -⟩ := deflates.deflate_eq level payload
    exact ⟨stream, used, made⟩

/-! ### Machines that are made of functions -/

section OfLibrary

variable {z : Library} {progress : Progress} {room : Nat} {piece : Piece}

/-- What a call of a decompressor that is made of the standard function comes to.  It makes what the
function makes with the room that there is in all, less what has been made before. -/
inductive Pieced (body : Bytes) (progress : Progress) (room : Nat) : Piece → Option Nat → Prop where
  | corrupt (breaks : inflate (progress.output.length + room) body = .corrupt) :
    Pieced body progress room ⟨0, [], .error "corrupt"⟩ (some progress.output.length)
  | stopped {output : Bytes} (stops : inflate (progress.output.length + room) body = .stopped output)
    (front : progress.output <+: output) :
    Pieced body progress room ⟨0, output.drop progress.output.length, .ok .stuck⟩
      (some output.length)
  | finished {output : Bytes} {unread : Nat}
    (ends : inflate (progress.output.length + room) body = .finished output unread)
    (front : progress.output <+: output) :
    Pieced body progress room
      ⟨body.length - unread, output.drop progress.output.length, .ok .ended⟩ none

theorem append_drop_of_front {front whole : Bytes} (isFront : front <+: whole) :
    front ++ whole.drop front.length = whole := by
  obtain ⟨back, rfl⟩ := isFront
  rw [List.drop_left]

/-- Such a decompressor takes nothing before the end.  What it has made so far is the front of what
is made with more room. -/
structure Resumes (body : Bytes) (progress : Progress) (inflater : Option Nat) : Prop where
  taken : progress.taken = 0
  made : inflater = some progress.output.length
  front : ∀ capacity output, progress.output.length < capacity →
    output ∈ (inflate capacity body).output? → progress.output <+: output

theorem Resumes.pieced (standard : z.inflate = Zlib.inflate) {inflater after : Option Nat}
    (resumes : Resumes body progress inflater) (some' : 0 < room)
    (called : (ofLibrary z).decompress (body.drop progress.taken) room inflater = (piece, after)) :
    Pieced body progress room piece after := by
  have front := resumes.front (progress.output.length + room)
  rw [resumes.taken, resumes.made, List.drop_zero] at called
  simp only [ofLibrary, standard] at called
  rcases result : inflate (progress.output.length + room) body with _ | output | ⟨output, unread⟩ <;>
    rw [result] at called front <;> cases called
  · exact .corrupt result
  · exact .stopped result (front output (by omega) rfl)
  · exact .finished result (front output (by omega) rfl)

theorem resumes_of_amid (standard : z.inflate = Zlib.inflate) {inflater : (ofLibrary z).Inflater}
    (amid : (ofLibrary z).Amid body progress inflater) : Resumes body progress inflater := by
  induction amid with
  | new => exact ⟨rfl, rfl, fun _ _ _ _ => List.nil_prefix⟩
  | @call progress inflater after room piece status amid called goesOn open_ spare ih =>
    have pieced := ih.pieced standard (by omega) called
    cases pieced with
    | corrupt breaks => cases goesOn
    | finished ends front =>
      cases goesOn
      exact absurd rfl open_
    | stopped stops front =>
      rename_i output
      have whole : (progress.add ⟨0, output.drop progress.output.length, .ok .stuck⟩).output =
          output := append_drop_of_front front
      refine ⟨ih.taken, by rw [whole], ?_⟩
      rw [whole]
      -- It had room to spare, so it has run out of input.
      intro capacity other more written
      have length := congrArg List.length whole
      rw [length_add] at length
      rw [inflate_of_spare stops (by dsimp only at spare length; omega) more] at written
      cases written
      exact List.prefix_rfl

theorem Gives.pieced (standard : z.inflate = Zlib.inflate)
    (gives : (ofLibrary z).Gives body progress room piece) :
    progress.taken = 0 ∧ ∃ after, Pieced body progress room piece after := by
  obtain ⟨inflater, after, amid, some', called⟩ := gives
  have resumes := resumes_of_amid standard amid
  exact ⟨resumes.taken, after, resumes.pieced standard some' called⟩

/-- **A decompressor that is made of the standard function is one of the standard format.** -/
theorem inflates_ofLibrary (standard : z.inflate = Zlib.inflate) : (ofLibrary z).Inflates where
  resets _ := rfl
  fits gives := by
    obtain ⟨-, after, pieced⟩ := gives.pieced standard
    cases pieced with
    | corrupt breaks => exact Nat.zero_le _
    | stopped stops front =>
      have fits := length_le_of_inflate (by rw [stops]; rfl)
      rw [List.length_drop]
      omega
    | finished ends front =>
      have fits := length_le_of_inflate (by rw [ends]; rfl)
      rw [List.length_drop]
      omega
  ends gives said := by
    obtain ⟨taken, after, pieced⟩ := gives.pieced standard
    cases pieced with
    | corrupt breaks => cases said
    | stopped stops front => cases said
    | @finished output unread ends front =>
      have starts : Starts _ output unread := ⟨_, ends⟩
      have least := starts.unread_le
      rw [Progress.add, taken]
      dsimp only
      rw [append_drop_of_front front, Nat.zero_add, Nat.sub_sub_self least]
      exact starts
  complains gives said content unread := by
    obtain ⟨-, after, pieced⟩ := gives.pieced standard
    cases pieced with
    | corrupt breaks => exact not_starts_of_corrupt breaks
    | stopped stops front => cases said
    | finished ends front => cases said
  goesOn {body progress room piece status content unread} gives said open_ starts := by
    obtain ⟨-, after, pieced⟩ := gives.pieced standard
    cases pieced with
    | corrupt breaks => cases said
    | finished ends front =>
      cases said
      exact absurd rfl open_
    | @stopped output stops front =>
      have stopped := stops
      rcases Nat.lt_or_ge (progress.output.length + room) content.length with small | large
      · -- It has made as much of the content as there was room for.
        rw [starts.inflate_eq_stopped small] at stopped
        cases stopped
        obtain ⟨_, _, _, some', _⟩ := gives
        refine ⟨?_, ?_⟩
        · apply List.ne_nil_of_length_pos
          rw [List.length_drop, List.length_take]
          omega
        · simp only [Progress.add, append_drop_of_front front]
          exact List.take_prefix _ _
      · rw [starts.inflate_eq large] at stopped
        cases stopped

/-- A compressor that is made of a function gives out its stream from the front. -/
structure GivesOut (z : Library) (level : Nat) (payload : Bytes) (progress : Progress)
    (deflater : Nat × Option Bytes) : Prop where
  keeps : deflater.1 = level
  fresh : deflater.2 = none → progress.taken = 0
  whole : progress.output ++ deflater.2.getD (z.deflate level payload) = z.deflate level payload

/-- What a call of such a compressor comes to, `rest` being what has not been given out yet. -/
theorem GivesOut.called {deflater after : Nat × Option Bytes}
    (givesOut : GivesOut z level payload progress deflater)
    (called : (ofLibrary z).compress (payload.drop progress.taken) room deflater = (piece, after)) :
    ∃ rest, progress.output ++ rest = z.deflate level payload ∧ piece.output = rest.take room ∧
      piece.status = .ok (if rest.length ≤ room then .ended else .ok) ∧
      after = (level, some (rest.drop room)) := by
  obtain ⟨level', rest?⟩ := deflater
  obtain ⟨rfl, fresh, whole⟩ := givesOut
  cases rest? with
  | none =>
    rw [fresh rfl] at called
    cases called
    exact ⟨_, whole, rfl, rfl, rfl⟩
  | some rest =>
    cases called
    exact ⟨rest, whole, rfl, rfl, rfl⟩

theorem givesOut_of_making {deflater : (ofLibrary z).Deflater}
    (making : (ofLibrary z).Making level payload progress deflater) :
    GivesOut z level payload progress deflater := by
  induction making with
  | new => exact ⟨rfl, fun _ => rfl, rfl⟩
  | call making called goesOn open_ ih =>
    obtain ⟨rest, whole, output, -, rfl⟩ := ih.called called
    refine ⟨rfl, fun none' => (by cases none'), ?_⟩
    simp only [Progress.add, output, Option.getD_some]
    rw [List.append_assoc, List.take_append_drop, whole]

/-- **A compressor that is made of a function to complete streams is one of the standard format.** -/
theorem deflates_ofLibrary
    (complete : ∀ level payload, Starts (z.deflate level payload) payload 0) :
    (ofLibrary z).Deflates where
  resets making called := by
    obtain ⟨rest, -, -, -, rfl⟩ := (givesOut_of_making making).called called
    rfl
  goesOn making some' called := by
    obtain ⟨rest, -, output, said, -⟩ := (givesOut_of_making making).called called
    refine ⟨_, said, fun open_ => ?_⟩
    split at open_
    · exact absurd rfl open_
    · rw [output]
      apply List.ne_nil_of_length_pos
      rw [List.length_take]
      omega
  ends {level payload progress deflater room piece after} making called ended := by
    obtain ⟨rest, whole, output, said, -⟩ := (givesOut_of_making making).called called
    rw [said] at ended
    split at ended
    · rename_i fits
      rw [List.take_of_length_le fits] at output
      rw [Progress.add, output, whole]
      exact complete level payload
    · cases ended
  bounded level payload := by
    refine ⟨(z.deflate level payload).length, fun {progress deflater} making => ?_⟩
    rw [← (givesOut_of_making making).whole, List.length_append]
    exact Nat.le_add_right _ _

end OfLibrary

end Machine

end GameTransport.Zlib
