import GameTransport.Proofs.Octets
import GameTransport.Zlib.Standard

/-! # Stored data is inflated

At level zero a stream stores its octets in blocks of up to 65,535.  Behind the three bits in front of
a block the reader goes on to the next octet, and each block puts its octets behind what has been
written (`blocks_cursor`).  The checksum at the end is that of all of them, so the stream gives the
octets back (`inflate_stored`).
-/

namespace GameTransport.Zlib

namespace Inflate

open Reader (bind_ok)

variable {stream rest done tail : Bytes} {b : UInt8} {capacity : Nat}

/-! ### Blocks -/

theorem put_cursor (room : done.length < capacity) :
    put capacity b (cursor stream rest done) = .ok () (cursor stream rest (done ++ [b])) := by
  have size : (cursor stream rest done).output.size < capacity := by
    rw [cursor, List.size_toByteArray]
    exact room
  have pushed : done.toByteArray.push b = (done ++ [b]).toByteArray := by
    apply ByteArray.ext
    simp [ByteArray.data_push]
  simp only [put, if_pos size]
  rw [cursor, cursor, pushed]

theorem copy_cursor (done block : Bytes) (room : done.length + block.length ≤ capacity)
    (suffix : block ++ rest <:+ stream) :
    copy stream.toByteArray capacity block.length (cursor stream (block ++ rest) done) =
      .ok () (cursor stream rest (done ++ block)) := by
  induction block generalizing done with
  | nil =>
    rw [List.append_nil]
    rfl
  | cons b block ih =>
    rw [List.length_cons] at room
    have read : octets stream.toByteArray 1 (cursor stream (b :: (block ++ rest)) done) =
        .ok b.toNat (cursor stream (block ++ rest) done) := octet_cursor suffix
    have placed : put capacity (UInt8.ofNat b.toNat) (cursor stream (block ++ rest) done) =
        .ok () (cursor stream (block ++ rest) (done ++ [b])) := by
      rw [UInt8.ofNat_toNat]
      exact put_cursor (by omega)
    have others := ih (done ++ [b]) (by rw [List.length_append, List.length_singleton]; omega)
      ((List.suffix_cons b _).trans suffix)
    rw [List.length_cons, copy, List.cons_append, bind_ok read, bind_ok placed, others,
      List.append_assoc, List.singleton_append]

/-- The two octets of a length, the lower first. -/
def lowFirst (n : Nat) : Bytes := [UInt8.ofNat n, UInt8.ofNat (n / 256)]

theorem octets_lowFirst (done : Bytes) {n : Nat} (small : n < 65536) (suffix : lowFirst n ++ rest <:+ stream) :
    octets stream.toByteArray 2 (cursor stream (lowFirst n ++ rest) done) =
      .ok n (cursor stream rest done) := by
  refine (octets_cursor suffix).trans (congrArg (EStateM.Result.ok · _) ?_)
  rw [UInt8.toNat_ofNat', UInt8.toNat_ofNat']
  omega

/-- A block behind the three bits in front of it. -/
theorem stored_cursor (block : Bytes) (short : block.length ≤ 65535)
    (room : done.length + block.length ≤ capacity)
    (suffix : b :: (lowFirst block.length ++ (lowFirst (65535 - block.length) ++ (block ++ rest)))
      <:+ stream) :
    stored stream.toByteArray capacity
        ⟨8 * (stream.length - ((lowFirst block.length ++
          (lowFirst (65535 - block.length) ++ (block ++ rest))).length + 1)) + 3,
          done.toByteArray⟩ =
      .ok () (cursor stream rest (done ++ block)) := by
  set lengths := lowFirst block.length ++ (lowFirst (65535 - block.length) ++ (block ++ rest))
  have inner : lengths <:+ stream := (List.suffix_cons b _).trans suffix
  have length := suffix.length_le
  rw [List.length_cons] at length
  have aligned : align ⟨8 * (stream.length - (lengths.length + 1)) + 3, done.toByteArray⟩ =
      .ok () (cursor stream lengths done) := by
    refine congrArg (fun position => EStateM.Result.ok () (State.mk position _)) ?_
    dsimp only
    omega
  have first := octets_lowFirst done (show block.length < 65536 by omega) inner
  have second := octets_lowFirst done (show 65535 - block.length < 65536 by omega)
    ((List.suffix_append _ _).trans inner)
  have copied := copy_cursor done block room
    (((List.suffix_append _ _).trans (List.suffix_append _ _)).trans inner)
  have whole : ¬ block.length + (65535 - block.length) ≠ 65535 := by omega
  rw [stored, bind_ok aligned, bind_ok first, bind_ok second, if_neg whole]
  exact copied

open Deflate (storedBlocks maxStored)

/-- The first of the blocks that hold some octets. -/
theorem storedBlocks_append (fuel : Nat) (payload tail : Bytes) :
    let block := payload.take maxStored
    let left := payload.drop maxStored
    storedBlocks (fuel + 1) payload ++ tail =
      (if left.isEmpty then 1 else 0) ::
        (lowFirst block.length ++ (lowFirst (65535 - block.length) ++
          (block ++ ((if left.isEmpty then [] else storedBlocks fuel left) ++ tail)))) := by
  intro block left
  rw [storedBlocks]
  simp only [lowFirst, List.append_assoc, List.cons_append]
  rfl

theorem length_le_storedBlocks (fuel : Nat) (payload : Bytes)
    (enough : payload.length < fuel * 65535) :
    payload.length ≤ (storedBlocks fuel payload).length := by
  induction fuel generalizing payload with
  | zero => omega
  | succ fuel ih =>
    have shape := congrArg List.length (storedBlocks_append fuel payload [])
    have cut : (payload.drop maxStored).length = payload.length - 65535 := List.length_drop
    have kept : (payload.take maxStored).length = min 65535 payload.length := List.length_take
    simp only [List.append_nil, List.length_cons, List.length_append] at shape
    by_cases ends : payload.drop maxStored = []
    · rw [ends, List.length_nil] at cut
      omega
    · have some' := List.length_pos_iff.mpr ends
      have others := ih (payload.drop maxStored) (by omega)
      simp only [List.isEmpty_iff, if_neg ends] at shape
      omega

/-- **Each block puts its octets behind what has been written**, and the last one is known by its first
bit. -/
theorem blocks_cursor (done payload : Bytes) (fuel steps : Nat) (enough : payload.length < fuel * 65535)
    (steps_le : fuel ≤ steps) (room : done.length + payload.length ≤ capacity)
    (suffix : storedBlocks fuel payload ++ tail <:+ stream) :
    blocks stream.toByteArray capacity steps (cursor stream (storedBlocks fuel payload ++ tail) done) =
      .ok () (cursor stream tail (done ++ payload)) := by
  induction fuel generalizing done payload steps with
  | zero => omega
  | succ fuel ih =>
    obtain ⟨steps, rfl⟩ : ∃ k, steps = k + 1 := ⟨steps - 1, by omega⟩
    rw [storedBlocks_append] at suffix ⊢
    set block := payload.take maxStored
    set left := payload.drop maxStored
    set head : UInt8 := if left.isEmpty then 1 else 0
    set behind := (if left.isEmpty then [] else storedBlocks fuel left) ++ tail
    have short : block.length ≤ 65535 := List.length_take_le _ _
    have halves : block ++ left = payload := List.take_append_drop _ _
    have lengths := congrArg List.length halves
    rw [List.length_append] at lengths
    have kept : done.length + block.length ≤ capacity := by omega
    have last := bit_within suffix done.toByteArray (show 0 < 8 by decide)
    have kind := bits_within suffix done.toByteArray 2 1 (by decide)
    have plain : head.toNat / 2 ^ 1 % 2 ^ 2 = 0 := by
      simp only [head]
      split <;> rfl
    rw [plain] at kind
    rw [blocks]
    refine (bind_ok last).trans ((bind_ok kind).trans ?_)
    refine (bind_ok (stored_cursor block short kept suffix)).trans ?_
    by_cases ends : left = []
    · have bit : head.toNat / 2 ^ 0 % 2 = 1 := by simp [head, ends]
      have alone : block = payload := by rw [← halves, ends, List.append_nil]
      have closes : behind = tail := by simp [behind, ends]
      rw [if_pos bit, closes, alone]
      rfl
    · have bit : ¬ head.toNat / 2 ^ 0 % 2 = 1 := by simp [head, ends]
      have more : behind = storedBlocks fuel left ++ tail := by simp [behind, ends]
      have full : block.length = 65535 := by
        have some' := List.length_pos_iff.mpr ends
        have cut : left.length = payload.length - 65535 := List.length_drop
        omega
      have inner : behind <:+ stream :=
        ((List.suffix_append _ _).trans ((List.suffix_append _ _).trans
          ((List.suffix_append _ _).trans (List.suffix_cons _ _)))).trans suffix
      rw [if_neg bit]
      rw [more] at inner ⊢
      have others := ih (done ++ block) left steps (by omega) (by omega)
        (by rw [List.length_append]; omega) inner
      refine others.trans ?_
      rw [List.append_assoc, halves]

/-! ### The stream -/

theorem header_cursor (done : Bytes) (suffix : 0x78 :: 0x9C :: rest <:+ stream) :
    header stream.toByteArray (cursor stream (0x78 :: 0x9C :: rest) done) =
      .ok () (cursor stream rest done) := by
  rw [header]
  refine (bind_ok (octet_cursor suffix)).trans ?_
  exact bind_ok (octet_cursor ((List.suffix_cons _ _).trans suffix))

end Inflate

open Deflate (storedBlocks maxStored)

/-- **Stored data is inflated**, whatever comes after the stream. -/
theorem inflate_stored {capacity : Nat} {payload : Bytes} (room : payload.length ≤ capacity)
    (tail : Bytes) : inflate capacity (deflate 0 payload ++ tail) = .finished payload tail.length := by
  set blocks := storedBlocks (payload.length / maxStored + 1) payload
  set sum := Bytes.ofNat 4 (checksum payload)
  have shape : deflate 0 payload ++ tail = 0x78 :: 0x9C :: (blocks ++ (sum ++ tail)) := by
    simp only [deflate, if_pos, List.append_assoc]
    rfl
  rw [shape]
  set stream : Bytes := 0x78 :: 0x9C :: (blocks ++ (sum ++ tail))
  have behind : blocks ++ (sum ++ tail) <:+ stream :=
    (List.suffix_cons _ _).trans (List.suffix_cons _ _)
  have enough : payload.length < (payload.length / maxStored + 1) * 65535 := by
    have divided := Nat.lt_mul_div_succ payload.length (show 0 < maxStored by decide)
    unfold maxStored at divided ⊢
    omega
  have steps : payload.length / maxStored + 1 ≤ 8 * stream.toByteArray.size + 1 := by
    have long : payload.length ≤ blocks.length := Inflate.length_le_storedBlocks _ payload enough
    have inside := behind.length_le
    have divided := Nat.div_le_self payload.length maxStored
    rw [List.length_append] at inside
    rw [List.size_toByteArray]
    omega
  have opened := Inflate.header_cursor [] (List.suffix_refl stream)
  have written := Inflate.blocks_cursor [] payload _ _ enough steps
    (by simpa using room) behind
  have closed := Inflate.trailer_cursor payload ((List.suffix_append _ _).trans behind)
  have start : Inflate.State.mk 0 ByteArray.empty = Inflate.cursor stream stream [] := by
    rw [Inflate.cursor, Nat.sub_self]
    rfl
  have whole : Inflate.stream stream.toByteArray capacity ⟨0, ByteArray.empty⟩ =
      .ok () (Inflate.cursor stream tail payload) := by
    rw [start, Inflate.stream_eq]
    exact (Reader.bind_ok opened).trans ((Reader.bind_ok written).trans closed)
  have unread : stream.toByteArray.size - (Inflate.cursor stream tail payload).position / 8 =
      tail.length := by
    have inside := ((List.suffix_append _ _).trans ((List.suffix_append _ _).trans behind)).length_le
    rw [List.size_toByteArray, Inflate.cursor]
    dsimp only
    omega
  simp only [inflate, whole, unread, Inflate.written_cursor]

end GameTransport.Zlib
