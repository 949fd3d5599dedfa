import GameTransport.Frame
import GameTransport.Proofs.Readers

/-! # Frames at the front of a buffer

What `Frame.split?` says of a buffer it says of every longer one: a frame that is complete stays
the frame at the front (`split?_append_some`) and a length that is too long stays too long
(`split?_append_error`).  Only "not yet" can change.  A payload that was framed is split off again,
whatever stands after it (`split?_encode`).
-/

namespace GameTransport.Frame

variable {left length size : Nat} {buffer payload frame rest : Bytes} {fault : Fault}

theorem lengthWithin_cons_of_lt {b : UInt8} (h : b < 128) :
    lengthWithin (left + 1) (b :: rest) = .ok (some (b.toNat, 1)) := by
  rw [lengthWithin, if_pos h]

theorem lengthWithin_cons_of_marked {b : UInt8} (h : ¬ b < 128) :
    lengthWithin (left + 1) (b :: rest) =
      (lengthWithin left rest).map fun length? =>
        length?.map fun (higher, size) => (b.toNat - 128 + 128 * higher, size + 1) := by
  rw [lengthWithin, if_neg h]

/-- A length that has arrived is not changed by what comes after it. -/
theorem lengthWithin_append_some (more : Bytes)
    (h : lengthWithin left buffer = .ok (some (length, size))) :
    lengthWithin left (buffer ++ more) = .ok (some (length, size)) := by
  induction left generalizing buffer length size with
  | zero => cases h
  | succ left ih =>
    cases buffer with
    | nil => cases h
    | cons b rest =>
      by_cases small : b < 128
      · rw [lengthWithin_cons_of_lt small] at h
        rw [List.cons_append, lengthWithin_cons_of_lt small, h]
      · rw [lengthWithin_cons_of_marked small] at h
        rw [List.cons_append, lengthWithin_cons_of_marked small]
        rcases hr : lengthWithin left rest with fault | _ | ⟨higher, count⟩
        · rw [hr] at h; cases h
        · rw [hr] at h; cases h
        · rw [hr] at h
          rw [ih hr]
          exact h

theorem lengthWithin_append_error (more : Bytes) (h : lengthWithin left buffer = .error fault) :
    lengthWithin left (buffer ++ more) = .error fault := by
  induction left generalizing buffer fault with
  | zero => exact h
  | succ left ih =>
    cases buffer with
    | nil => cases h
    | cons b rest =>
      by_cases small : b < 128
      · rw [lengthWithin_cons_of_lt small] at h
        cases h
      · rw [lengthWithin_cons_of_marked small] at h
        rw [List.cons_append, lengthWithin_cons_of_marked small]
        rcases hr : lengthWithin left rest with fault' | _ | found
        · rw [hr] at h
          rw [ih hr]
          exact h
        · rw [hr] at h; cases h
        · rw [hr] at h; cases h

/-- What a complete frame at the front looks like. -/
theorem split?_eq_some (h : split? buffer = .ok (some (payload, rest))) :
    ∃ length size, length? buffer = .ok (some (length, size)) ∧ size + length ≤ buffer.length ∧
      payload = (buffer.drop size).take length ∧ rest = (buffer.drop size).drop length := by
  unfold split? at h
  split at h
  · cases h
  · cases h
  · rename_i length size found
    split at h
    · cases h
    · rename_i complete
      cases h
      exact ⟨length, size, found, Nat.not_lt.mp complete, rfl, rfl⟩

theorem split?_of_length? (h : length? buffer = .ok (some (length, size)))
    (complete : size + length ≤ buffer.length) :
    split? buffer = .ok (some ((buffer.drop size).take length, (buffer.drop size).drop length)) := by
  unfold split?
  rw [h]
  dsimp only
  rw [if_neg (Nat.not_lt.mpr complete)]

/-- **A complete frame stays at the front** when more arrives. -/
theorem split?_append_some (more : Bytes) (h : split? buffer = .ok (some (payload, rest))) :
    split? (buffer ++ more) = .ok (some (payload, rest ++ more)) := by
  obtain ⟨length, size, found, complete, rfl, rfl⟩ := split?_eq_some h
  have room : length ≤ (buffer.drop size).length := by rw [List.length_drop]; omega
  rw [split?_of_length? (lengthWithin_append_some more found)
      (by rw [List.length_append]; omega),
    List.drop_append_of_le_length (by omega), List.take_append_of_le_length room,
    List.drop_append_of_le_length room]

theorem split?_eq_error : split? buffer = .error fault ↔ length? buffer = .error fault := by
  unfold split?
  split
  · rename_i found; rw [found]; simp
  · rename_i found; rw [found]; simp
  · rename_i found
    rw [found]
    split <;> simp

/-- **A length that is too long stays too long** when more arrives. -/
theorem split?_append_error (more : Bytes) (h : split? buffer = .error fault) :
    split? (buffer ++ more) = .error fault :=
  split?_eq_error.mpr (lengthWithin_append_error more (split?_eq_error.mp h))

@[simp] theorem split?_nil : split? [] = .ok none := rfl

/-- Nothing is split off while a part of the frame at the front is missing. -/
theorem split?_part {more : Bytes} (framed : split? (buffer ++ more) = .ok (some (payload, [])))
    (missing : more ≠ []) : split? buffer = .ok none := by
  rcases found : split? buffer with fault | _ | ⟨first, rest⟩
  · have stays := split?_append_error more found
    rw [framed] at stays
    cases stays
  · rfl
  · have stays := split?_append_some more found
    rw [framed] at stays
    injection stays with same
    injection same with same
    have nothing : rest ++ more = [] := (Prod.mk.inj same).2.symm
    exact absurd (List.append_eq_nil_iff.mp nothing).2 missing

/-- The length of a frame is the number that its payload's length is written as. -/
theorem lengthWithin_encode {left n : Nat} (rest : Bytes) (fits : n < 128 ^ (left + 1)) :
    lengthWithin (left + 1) (Varint.encode n ++ rest) =
      .ok (some (n, (Varint.encode n).length)) := by
  induction left generalizing n with
  | zero =>
    have small : n < 128 := by simpa using fits
    rw [Varint.encode_of_lt small, List.singleton_append,
      lengthWithin_cons_of_lt (Varint.last_lt small), Varint.toNat_last small]
    rfl
  | succ left ih =>
    by_cases small : n < 128
    · rw [Varint.encode_of_lt small, List.singleton_append,
        lengthWithin_cons_of_lt (Varint.last_lt small), Varint.toNat_last small]
      rfl
    · -- The first digit is marked, and the others are a shorter number.
      have higher : n / 128 < 128 ^ (left + 1) := by
        rw [Nat.pow_succ] at fits
        exact Nat.div_lt_of_lt_mul (by rw [Nat.mul_comm]; exact fits)
      rw [Varint.encode_of_le (Nat.not_lt.mp small), List.cons_append,
        lengthWithin_cons_of_marked (Varint.not_marked_lt n), ih higher, Varint.toNat_marked,
        List.length_cons]
      simp only [Except.map, Option.map_some]
      rw [show n % 128 + 128 - 128 + 128 * (n / 128) = n by omega]

theorem encode_eq_ok (h : encode payload = .ok frame) :
    payload.length ≤ maxPayload ∧ frame = Varint.encode payload.length ++ payload := by
  unfold encode at h
  dsimp only at h
  split at h
  · cases h
  · rename_i fits
    cases h
    exact ⟨Nat.not_lt.mp fits, rfl⟩

theorem encode_of_le (h : payload.length ≤ maxPayload) :
    encode payload = .ok (Varint.encode payload.length ++ payload) := by
  unfold encode
  dsimp only
  rw [if_neg (Nat.not_lt.mpr h)]

/-- A frame holds what is not too long for it. -/
theorem exists_encode_iff : (∃ frame, encode payload = .ok frame) ↔ payload.length ≤ maxPayload := by
  constructor
  · rintro ⟨frame, framed⟩
    exact (encode_eq_ok framed).1
  · intro fits
    exact ⟨_, encode_of_le fits⟩

/-- **A payload that was framed is split off again**, and what stands after it is left. -/
theorem split?_encode (rest : Bytes) (h : encode payload = .ok frame) :
    split? (frame ++ rest) = .ok (some (payload, rest)) := by
  obtain ⟨fits, rfl⟩ := encode_eq_ok h
  have bound : payload.length < 128 ^ (2 + 1) := by
    unfold maxPayload at fits
    omega
  rw [List.append_assoc, split?_of_length? (lengthWithin_encode _ bound)
    (by simp only [List.length_append]; omega)]
  simp

end GameTransport.Frame
