import GameTransport.Zlib.Engine

/-!
# Compressors that work piece by piece

A compression library does not make a whole stream at once.  A call is given what is left of the input
and some room, takes from the front of the one, fills the front of the other, and says whether the
stream has ended.  Whoever wants a whole stream calls again.

```text
input   taken | left        output   made | room | not yet reserved
```

Compressing goes on until the stream ends, and reserves more room after every call.  Decompressing
never has more room than was reserved at first.  It stops at the end of the stream, at an error, at a
call that gives nothing, and where the room is full.

The two loops make an engine of any machine.  A pair of functions makes a machine
(`Machine.ofLibrary`).
-/

namespace GameTransport.Zlib

/-- What a library says of a stream after a call. -/
inductive Status where
  /-- There is more to come. -/
  | ok
  /-- It could not go on, for want of input or of room. -/
  | stuck
  | ended
  deriving DecidableEq, Repr

/-- What a call came to. -/
structure Piece where
  /-- How many octets it took off the front of the input. -/
  taken : Nat
  output : Bytes
  /-- The status of the stream, or in the library's words what is wrong. -/
  status : Except String Status

/-- A library whose objects work piece by piece. -/
structure Machine where
  Deflater : Type
  Inflater : Type
  /-- A new compressor. -/
  deflater : (level : Nat) → Deflater
  /-- A new decompressor. -/
  inflater : Inflater
  /-- Compresses, the input being all that is left. -/
  compress : (input : Bytes) → (room : Nat) → StateM Deflater Piece
  /-- Decompresses, the input being all that is left. -/
  decompress : (input : Bytes) → (room : Nat) → StateM Inflater Piece
  resetDeflater : Deflater → Deflater
  resetInflater : Inflater → Inflater

/-- How far calls have come. -/
structure Progress where
  taken : Nat := 0
  output : Bytes := []

/-- With one more piece. -/
def Progress.add (progress : Progress) (piece : Piece) : Progress :=
  ⟨progress.taken + piece.taken, progress.output ++ piece.output⟩

/-- Why decompressing stopped. -/
inductive Halt where
  | failed (text : String)
  | ended
  /-- A call gave nothing, or the room is full. -/
  | starved
  deriving DecidableEq, Repr

/-- What all the calls on one body came to. -/
def Halt.outcome (body : Bytes) (progress : Progress) : Halt → Inflated
  | .failed _ => .corrupt
  | .ended => .finished progress.output (body.length - progress.taken)
  | .starved => .stopped progress.output

namespace Machine

/-! ### Compressing -/

/-- The least room that is reserved. -/
def leastRoom : Nat := 64

/-- What is reserved for the stream of some octets before anything is known of it. -/
def firstCapacity (length : Nat) : Nat := length / 2 + leastRoom

/-- As much again as there was, at the least, beyond what has been made. -/
def reserve (capacity made : Nat) : Nat := max capacity (made + max capacity leastRoom)

/-- One call of a compressor.  It leaves the loop with an outcome, or has it go on with more room
reserved. -/
def compressOnce (machine : Machine) (payload : Bytes) :
    Nat × Progress × machine.Deflater →
      (Nat × Progress × machine.Deflater) ⊕ EStateM.Result String machine.Deflater Bytes :=
  fun (capacity, progress, deflater) =>
    let (piece, deflater) :=
      machine.compress (payload.drop progress.taken) (capacity - progress.output.length) deflater
    let progress := progress.add piece
    match piece.status with
    | .error text => .inr (.error text deflater)
    | .ok .ended => .inr (.ok progress.output deflater)
    | .ok _ => .inl (reserve capacity progress.output.length, progress, deflater)

/-- Calls a compressor until its stream ends.  The loop may go on for ever; then there is no
outcome. -/
def compressFrom (machine : Machine) (payload : Bytes) (capacity : Nat) (progress : Progress)
    (deflater : machine.Deflater) : Option (EStateM.Result String machine.Deflater Bytes) :=
  have : Nonempty (EStateM.Result String machine.Deflater Bytes) := ⟨.error "" deflater⟩
  repeatM (fun call => some (machine.compressOnce payload call)) (capacity, progress, deflater)

/-- The loop is one call, and then what is left of the loop. -/
theorem compressFrom_eq (machine : Machine) (payload : Bytes) (capacity : Nat) (progress : Progress)
    (deflater : machine.Deflater) :
    machine.compressFrom payload capacity progress deflater =
      match machine.compressOnce payload (capacity, progress, deflater) with
      | .inl (capacity, progress, deflater) =>
        machine.compressFrom payload capacity progress deflater
      | .inr result => some result := by
  have : Nonempty (EStateM.Result String machine.Deflater Bytes) := ⟨.error "" deflater⟩
  unfold compressFrom
  rw [repeatM_eq_of_monadTail]
  rcases called : machine.compressOnce payload (capacity, progress, deflater) with _ | _
  · simp only [repeatM.body, Option.bind_eq_bind, Option.bind_some, called]
  · simp only [repeatM.body, Option.bind_eq_bind, Option.bind_some, called, Option.pure_def]

/-! ### Decompressing -/

/-- Calls a decompressor until there is nothing more to be had, with `capacity` octets in all. -/
def decompressFrom (machine : Machine) (capacity : Nat) (body : Bytes) (progress : Progress)
    (inflater : machine.Inflater) : Halt × Progress × machine.Inflater :=
  let (piece, inflater) :=
    machine.decompress (body.drop progress.taken) (capacity - progress.output.length) inflater
  let after := progress.add piece
  match piece.status with
  | .error text => (.failed text, after, inflater)
  | .ok .ended => (.ended, after, inflater)
  | .ok _ =>
    if _starved : piece.output = [] ∨ capacity ≤ after.output.length then (.starved, after, inflater)
    else machine.decompressFrom capacity body after inflater
termination_by capacity - progress.output.length
decreasing_by
  have grown := List.length_pos_iff.mpr (not_or.mp _starved).1
  have room := (not_or.mp _starved).2
  simp only [after, Progress.add, List.length_append] at room ⊢
  omega

/-- The objects of a machine, called until they are done. -/
def engine (machine : Machine) : Engine where
  Deflater := machine.Deflater
  Inflater := machine.Inflater
  deflater := machine.deflater
  inflater := machine.inflater
  deflate payload := fun deflater =>
    match machine.compressFrom payload (firstCapacity payload.length) {} deflater with
    | some result => result
    -- A loop without an end never comes here.
    | none => .error "the stream does not end" deflater
  inflate capacity body := fun inflater =>
    let (halt, progress, inflater) := machine.decompressFrom capacity body {} inflater
    (halt.outcome body progress, inflater)
  resetDeflater := machine.resetDeflater
  resetInflater := machine.resetInflater

/-! ### Machines that are made of functions -/

/-- Objects that compute the functions of a library.  A compressor makes its stream at the first call
and then gives it out.  A decompressor takes nothing until it has come to the end, so it is given all
of the input each time, and passes over what it has made before.  After the end neither has anything
more to give. -/
def ofLibrary (z : Library) : Machine where
  /- The level, and what is still to be given out once the stream is made. -/
  Deflater := Nat × Option Bytes
  /- The number of octets made so far. -/
  Inflater := Option Nat
  deflater level := (level, none)
  inflater := some 0
  compress input room := fun (level, rest?) =>
    let stream := rest?.getD (z.deflate level input)
    let status := if stream.length ≤ room then Status.ended else .ok
    (⟨input.length, stream.take room, .ok status⟩, (level, some (stream.drop room)))
  decompress input room
    | none => (⟨0, [], .ok .ended⟩, none)
    | some made =>
      match z.inflate (made + room) input with
      | .corrupt => (⟨0, [], .error "corrupt"⟩, some made)
      | .stopped output => (⟨0, output.drop made, .ok .stuck⟩, some output.length)
      | .finished output unread =>
        (⟨input.length - unread, output.drop made, .ok .ended⟩, none)
  resetDeflater := fun (level, _) => (level, none)
  resetInflater _ := some 0

end Machine

end GameTransport.Zlib
