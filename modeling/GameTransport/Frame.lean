import GameTransport.Wire.Varint

/-!
# Frames

```text
[length: 1 to 3 octets][payload: length octets]
```

The length is a number of variable length that may take three octets at most, which bounds a
payload to 2,097,151 octets.  `split?` finds the frame at the front of a buffer once all of it has
arrived.  On a buffer, `decode` takes it and takes nothing before, and `append` adds a frame or
nothing.
-/

namespace GameTransport.Frame

/-- The most octets that a length may take. -/
def maxLengthSize : Nat := 3

/-- The longest payload: the largest number of three digits in base 128. -/
def maxPayload : Nat := 128 * 128 * 128 - 1

/-- Reads a length of at most `left` octets without taking it: the length and the number of its
octets, or none if it has not all arrived. -/
def lengthWithin : (left : Nat) → Bytes → Except Fault (Option (Nat × Nat))
  | 0, _ => .error (.sizeExceeded "frame length prefix" (maxLengthSize + 1) maxLengthSize)
  | _ + 1, [] => .ok none
  | left + 1, b :: rest =>
    if b < 128 then .ok (some (b.toNat, 1))
    else (lengthWithin left rest).map fun length? =>
      length?.map fun (higher, size) => (b.toNat - 128 + 128 * higher, size + 1)

/-- The length at the front of a buffer and the number of its octets. -/
def length? (buffer : Bytes) : Except Fault (Option (Nat × Nat)) :=
  lengthWithin maxLengthSize buffer

/-- The payload of the frame at the front of a buffer, and what stands after it. -/
def split? (buffer : Bytes) : Except Fault (Option (Bytes × Bytes)) :=
  match length? buffer with
  | .error fault => .error fault
  | .ok none => .ok none
  | .ok (some (length, size)) =>
    if buffer.length < size + length then .ok none
    else
      let body := buffer.drop size
      .ok (some (body.take length, body.drop length))

theorem size_pos_of_lengthWithin {left length size : Nat} {buffer : Bytes}
    (h : lengthWithin left buffer = .ok (some (length, size))) : 0 < size := by
  cases left with
  | zero => cases h
  | succ left =>
    cases buffer with
    | nil => cases h
    | cons b rest =>
      simp only [lengthWithin] at h
      split at h
      · cases h; decide
      · cases hr : lengthWithin left rest with
        | error fault => rw [hr] at h; cases h
        | ok length? =>
          rw [hr] at h
          cases length? with
          | none => cases h
          | some found => cases h; exact Nat.succ_pos _

/-- A frame that is taken leaves a shorter buffer. -/
theorem length_lt_of_split? {buffer payload rest : Bytes}
    (h : split? buffer = .ok (some (payload, rest))) : rest.length < buffer.length := by
  unfold split? at h
  split at h
  · cases h
  · cases h
  · rename_i length size hl
    have := size_pos_of_lengthWithin hl
    split at h
    · cases h
    · cases h
      simp only [List.length_drop]
      omega

/-- The frame around a payload. -/
def encode (payload : Bytes) : Except Fault Bytes :=
  let length := payload.length
  if maxPayload < length then .error (.sizeExceeded "frame" length maxPayload)
  else .ok (Varint.encode length ++ payload)

/-- Takes the frame at the front of a buffer once all of it has arrived. -/
def decode : EStateM Fault Bytes (Option Bytes) := fun buffer =>
  match split? buffer with
  | .error fault => .error fault buffer
  | .ok none => .ok none buffer
  | .ok (some (payload, rest)) => .ok (some payload) rest

/-- Appends the frame around a payload to a buffer. -/
def append (payload : Bytes) : EStateM Fault Bytes Unit := fun buffer =>
  match encode payload with
  | .error fault => .error fault buffer
  | .ok frame => .ok () (buffer ++ frame)

end GameTransport.Frame
