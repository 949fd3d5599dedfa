import GameTransport.Proofs.Inflating
import GameTransport.Proofs.Readers
import Mathlib.Data.List.Infix

/-! # Whole octets

Stored blocks and the checksum at the end of a stream are read in whole octets.  Where the reader is
then comes down to what is left of the stream (`Inflate.cursor`), and what it reads is what stands
there.

So a checksum that stands behind the blocks is accepted if it is that of all that has been written
(`Inflate.trailer_cursor`), and no stream is complete without it (`Starts.ends_with_checksum`).
-/

namespace GameTransport.Zlib

/-- The two sums of a checksum stay small. -/
theorem sums_lt (bytes : Bytes) {low high : Nat} (hlow : low < 65521) (hhigh : high < 65521) :
    let sums := bytes.foldl (fun (sums : Nat × Nat) b =>
      ((sums.1 + b.toNat) % 65521, (sums.2 + (sums.1 + b.toNat) % 65521) % 65521)) (low, high)
    sums.1 < 65521 ∧ sums.2 < 65521 := by
  induction bytes generalizing low high with
  | nil => exact ⟨hlow, hhigh⟩
  | cons b rest ih => exact ih (Nat.mod_lt _ (by decide)) (Nat.mod_lt _ (by decide))

/-- A checksum takes four octets. -/
theorem checksum_lt (bytes : Bytes) : checksum bytes < 2 ^ 32 := by
  have bounds := sums_lt bytes (show 1 < 65521 by decide) (show 0 < 65521 by decide)
  simp only [checksum]
  omega

namespace Inflate

open Reader (bind_ok of_bind_ok)

/-! ### Octets -/

/-- The reader stands before `rest` and has written `done`. -/
def cursor (stream rest done : Bytes) : State :=
  ⟨8 * (stream.length - rest.length), done.toByteArray⟩

variable {stream rest done tail : Bytes} {a b : UInt8} {capacity : Nat}

/-- What stands at the reader's place. -/
theorem getElem_cursor (suffix : b :: rest <:+ stream) :
    ∃ inside : stream.length - (rest.length + 1) < stream.toByteArray.size,
      stream.toByteArray[stream.length - (rest.length + 1)] = b := by
  obtain ⟨front, rfl⟩ := suffix
  have place : (front ++ b :: rest).length - (rest.length + 1) = front.length := by
    rw [List.length_append, List.length_cons]
    omega
  refine ⟨?_, ?_⟩
  · rw [List.size_toByteArray, List.length_append, List.length_cons]
    omega
  · simp only [List.getElem_toByteArray, place, List.getElem_append_right (Nat.le_refl _),
      Nat.sub_self, List.getElem_cons_zero]

/-- One bit of an octet. -/
theorem bit_within (suffix : b :: rest <:+ stream) (output : ByteArray) {skipped : Nat}
    (within : skipped < 8) :
    bit stream.toByteArray ⟨8 * (stream.length - (rest.length + 1)) + skipped, output⟩ =
      .ok (b.toNat / 2 ^ skipped % 2)
        ⟨8 * (stream.length - (rest.length + 1)) + (skipped + 1), output⟩ := by
  obtain ⟨inside, here⟩ := getElem_cursor suffix
  have index (n : Nat) : (8 * n + skipped) / 8 = n := by omega
  have place (n : Nat) : (8 * n + skipped) % 8 = skipped := by omega
  have small : (UInt8.ofNat skipped).toNat % 8 = skipped := by
    rw [UInt8.toNat_ofNat']
    omega
  simp only [bit, index, place, dif_pos inside, here]
  rw [UInt8.toNat_and, UInt8.toNat_shiftRight, small, Nat.shiftRight_eq_div_pow]
  exact congrArg (EStateM.Result.ok · _) (Nat.and_one_is_mod _)

/-- The bits of an octet, from some bit on. -/
theorem bits_within (suffix : b :: rest <:+ stream) (output : ByteArray) (count skipped : Nat)
    (within : skipped + count ≤ 8) :
    bits stream.toByteArray count ⟨8 * (stream.length - (rest.length + 1)) + skipped, output⟩ =
      .ok (b.toNat / 2 ^ skipped % 2 ^ count)
        ⟨8 * (stream.length - (rest.length + 1)) + skipped + count, output⟩ := by
  induction count generalizing skipped with
  | zero =>
    rw [Nat.pow_zero, Nat.mod_one]
    rfl
  | succ count ih =>
    have others := ih (skipped + 1) (by omega)
    have value : b.toNat / 2 ^ skipped % 2 + 2 * (b.toNat / 2 ^ (skipped + 1) % 2 ^ count) =
        b.toNat / 2 ^ skipped % 2 ^ (count + 1) := by
      rw [@Nat.pow_succ' 2 count, Nat.mod_mul, Nat.div_div_eq_div_mul, ← Nat.pow_succ]
    have position (n : Nat) : n + (skipped + 1) + count = n + skipped + (count + 1) := by omega
    rw [bits, bind_ok (bit_within suffix output (by omega)), bind_ok others, value, position]
    rfl

/-- An octet is read as it is. -/
theorem octet_cursor (suffix : b :: rest <:+ stream) :
    octets stream.toByteArray 1 (cursor stream (b :: rest) done) =
      .ok b.toNat (cursor stream rest done) := by
  have whole := bits_within suffix done.toByteArray 8 0 (by omega)
  have length := suffix.length_le
  rw [Nat.pow_zero, Nat.div_one, Nat.mod_eq_of_lt b.toNat_lt] at whole
  refine whole.trans (congrArg (fun position => EStateM.Result.ok _ (State.mk position _)) ?_)
  rw [List.length_cons] at length
  omega

theorem bits_add (input : ByteArray) (m n : Nat) :
    bits input (m + n) = do
      let low ← bits input m
      let high ← bits input n
      return low + 2 ^ m * high := by
  induction m with
  | zero => simp only [bits, Nat.zero_add, pure_bind, Nat.pow_zero, Nat.one_mul, bind_pure]
  | succ m ih =>
    have value (first low high : Nat) :
        first + 2 * (low + 2 ^ m * high) = first + 2 * low + 2 ^ (m + 1) * high := by
      rw [Nat.pow_succ', Nat.mul_add, ← Nat.mul_assoc, Nat.add_assoc]
    rw [Nat.succ_add]
    simp only [bits, ih, bind_assoc, pure_bind, value]

/-- The first of two octets is the lower. -/
theorem octets_cursor (suffix : a :: b :: rest <:+ stream) :
    octets stream.toByteArray 2 (cursor stream (a :: b :: rest) done) =
      .ok (a.toNat + 256 * b.toNat) (cursor stream rest done) := by
  have low : bits stream.toByteArray 8 (cursor stream (a :: b :: rest) done) =
      .ok a.toNat (cursor stream (b :: rest) done) := octet_cursor suffix
  have high : bits stream.toByteArray 8 (cursor stream (b :: rest) done) =
      .ok b.toNat (cursor stream rest done) := octet_cursor ((List.suffix_cons a _).trans suffix)
  rw [octets, bits_add _ 8 8, bind_ok low, bind_ok high]
  rfl

/-- Octets one after another. -/
theorem mapM_octets_cursor (done : Bytes) (list : List Nat) (taken : Bytes) (same : list.length = taken.length)
    (suffix : taken ++ rest <:+ stream) :
    (list.mapM fun _ => octets stream.toByteArray 1) (cursor stream (taken ++ rest) done) =
      .ok (taken.map UInt8.toNat) (cursor stream rest done) := by
  induction taken generalizing list with
  | nil =>
    obtain rfl := List.length_eq_zero_iff.mp same
    rfl
  | cons b taken ih =>
    obtain ⟨first, list, rfl⟩ := List.exists_cons_of_length_eq_add_one same
    have read : octets stream.toByteArray 1 (cursor stream (b :: (taken ++ rest)) done) =
        .ok b.toNat (cursor stream (taken ++ rest) done) := octet_cursor suffix
    have others := ih list (Nat.succ.inj same) ((List.suffix_cons b _).trans suffix)
    rw [List.mapM_cons, List.cons_append, bind_ok read, bind_ok others]
    rfl

/-! ### The checksum -/

theorem written_cursor : (cursor stream rest done).output.toList = done := by
  rw [State.written_eq, State.written, cursor, List.data_toByteArray]

/-- What is done behind the blocks. -/
def trailer (input : ByteArray) : Step Unit := do
  align
  let stored ← (List.range 4).mapM fun _ => octets input 1
  let written := checksum (← get).output.toList
  if Bytes.toNat (stored.map UInt8.ofNat) ≠ written then throw .corrupt

theorem stream_eq (input : ByteArray) (capacity : Nat) :
    Inflate.stream input capacity =
      header input >>= fun _ => blocks input capacity (8 * input.size + 1) >>= fun _ =>
        trailer input := rfl

theorem map_ofNat_map_toNat (bytes : Bytes) :
    (bytes.map UInt8.toNat).map UInt8.ofNat = bytes := by
  have same : UInt8.ofNat ∘ UInt8.toNat = id := funext fun b => UInt8.ofNat_toNat
  rw [List.map_map, same, List.map_id]

/-- The checksum is that of all that has been written. -/
theorem trailer_cursor (done : Bytes) (suffix : Bytes.ofNat 4 (checksum done) ++ tail <:+ stream) :
    trailer stream.toByteArray (cursor stream (Bytes.ofNat 4 (checksum done) ++ tail) done) =
      .ok () (cursor stream tail done) := by
  have aligned : align (cursor stream (Bytes.ofNat 4 (checksum done) ++ tail) done) =
      .ok () (cursor stream (Bytes.ofNat 4 (checksum done) ++ tail) done) := by
    refine congrArg (fun position => EStateM.Result.ok () (State.mk position _)) ?_
    simp only [cursor]
    omega
  have four : (List.range 4).length = (Bytes.ofNat 4 (checksum done)).length := by
    rw [Bytes.length_ofNat]
    rfl
  have sums := mapM_octets_cursor done (List.range 4) _ four suffix
  have got : (get : Step State) (cursor stream tail done) =
      .ok (cursor stream tail done) (cursor stream tail done) := rfl
  have back : Bytes.toNat (Bytes.ofNat 4 (checksum done)) = checksum done := by
    rw [Bytes.toNat_ofNat]
    exact Nat.mod_eq_of_lt (checksum_lt done)
  refine (bind_ok aligned).trans ((bind_ok sums).trans ((bind_ok got).trans ?_))
  rw [written_cursor, map_ofNat_map_toNat, back, if_neg (not_not_intro rfl)]
  rfl

/-- Nothing is read past the end. -/
theorem octets_ne_ok {s t : State} {value : Nat} (past : 8 * stream.length ≤ s.position) :
    octets stream.toByteArray 1 s ≠ .ok value t := by
  intro read
  obtain ⟨low, u, first, -⟩ := of_bind_ok read
  have outside : ¬ s.position / 8 < stream.toByteArray.size := by
    rw [List.size_toByteArray]
    omega
  simp only [bit, dif_neg outside] at first
  cases first

/-- Octets that have been read one after another stood there. -/
theorem exists_of_mapM_octets (list : List Nat) {values : List Nat} {t : State}
    (suffix : rest <:+ stream)
    (read : (list.mapM fun _ => octets stream.toByteArray 1) (cursor stream rest done) = .ok values t) :
    ∃ taken left, rest = taken ++ left ∧ taken.length = list.length ∧
      values = taken.map UInt8.toNat ∧ t = cursor stream left done := by
  induction list generalizing rest values t with
  | nil =>
    cases read
    exact ⟨[], rest, rfl, rfl, rfl, rfl⟩
  | cons first list ih =>
    rw [List.mapM_cons] at read
    obtain ⟨value, u, here, read⟩ := of_bind_ok read
    cases rest with
    | nil => exact absurd here (octets_ne_ok (Nat.le_refl _))
    | cons b rest =>
      rw [octet_cursor suffix] at here
      cases here
      obtain ⟨others, v, read, done⟩ := of_bind_ok read
      obtain ⟨taken, left, rfl, same, rfl, rfl⟩ := ih ((List.suffix_cons b rest).trans suffix) read
      cases done
      exact ⟨b :: taken, left, rfl, congrArg (· + 1) same, rfl, rfl⟩

/-- A reader that has come to a whole octet stands before what is left. -/
theorem eq_cursor (stream : Bytes) (output : ByteArray) {index : Nat} (inside : index ≤ stream.length) :
    State.mk (index * 8) output = cursor stream (stream.drop index) output.data.toList := by
  have place : index * 8 = 8 * (stream.length - (stream.length - index)) := by omega
  have same : output.data.toList.toByteArray = output := by
    apply ByteArray.ext
    rw [List.data_toByteArray]
  rw [cursor, same, List.length_drop, ← place]

/-- What is accepted behind the blocks. -/
theorem exists_of_trailer {s t : State} (read : trailer stream.toByteArray s = .ok () t) :
    ∃ front sum left, stream = front ++ (sum ++ left) ∧ sum.length = 4 ∧
      Bytes.toNat sum = checksum t.written ∧ t.position = 8 * (stream.length - left.length) := by
  rw [trailer] at read
  obtain ⟨⟨⟩, u, aligned, read⟩ := of_bind_ok read
  cases aligned
  obtain ⟨values, v, taken, read⟩ := of_bind_ok read
  by_cases inside : (s.position + 7) / 8 ≤ stream.length
  · have here := eq_cursor stream s.output inside
    dsimp only at taken
    rw [here] at taken
    obtain ⟨sum, left, rest, four, rfl, rfl⟩ :=
      exists_of_mapM_octets (List.range 4) (List.drop_suffix _ stream) taken
    obtain ⟨_, w, got, read⟩ := of_bind_ok read
    cases got
    rw [map_ofNat_map_toNat, written_cursor] at read
    by_cases same : Bytes.toNat sum = checksum s.output.data.toList
    · rw [if_neg (not_not_intro same)] at read
      cases read
      refine ⟨stream.take ((s.position + 7) / 8), sum, left, ?_, four, ?_, rfl⟩
      · rw [← rest, List.take_append_drop]
      · rw [same, ← State.written_eq, written_cursor]
    · rw [if_pos same] at read
      cases read
  · -- The first octet would have to be read past the end.
    obtain ⟨value, w, first, -⟩ := of_bind_ok taken
    exact absurd first (octets_ne_ok (by dsimp only; omega))

end Inflate

/-- **A complete stream ends with the checksum of its content**, and that in four whole octets. -/
theorem Starts.ends_with_checksum {body content : Bytes} {unread : Nat}
    (starts : Starts body content unread) :
    ∃ front sum left, body = front ++ (sum ++ left) ∧ sum.length = 4 ∧
      Bytes.toNat sum = checksum content ∧ left.length = unread := by
  obtain ⟨capacity, finished⟩ := starts
  rw [inflate] at finished
  split at finished
  · rename_i s whole
    cases finished
    rw [Inflate.stream_eq] at whole
    obtain ⟨_, t, -, whole⟩ := Reader.of_bind_ok whole
    obtain ⟨_, t, -, whole⟩ := Reader.of_bind_ok whole
    obtain ⟨front, sum, left, shape, four, same, place⟩ := Inflate.exists_of_trailer whole
    have length := congrArg List.length shape
    simp only [List.length_append] at length
    refine ⟨front, sum, left, shape, four, ?_, ?_⟩
    · rw [same, s.written_eq]
    · rw [List.size_toByteArray, place]
      omega
  · cases finished
  · cases finished

end GameTransport.Zlib
