import GameTransport.Proofs.Framing
import Mathlib.Tactic.Ring

/-! # What the frame decoder accepts

A length is spelled in base 128, least significant digit first, and every digit but the last is marked
(`Varint.Spells`).  A frame stands at the front of a buffer if a spelling of at most three octets says
how long its payload is (`Framed`).  The decoder takes just these frames (`decode_eq_some_iff`), refuses
a buffer just if its first three octets are all marked (`decode_eq_error_iff`), and otherwise waits.

A length has several spellings, since digits of zero may stand at its end.  None but the writer's is as
short as the writer's (`Spells.eq_encode`).
-/

namespace GameTransport

/-! ## Spellings of a number -/

namespace Varint

/-- The octets that spell a number. -/
inductive Spells : Bytes → Nat → Prop where
  | last {b : UInt8} (unmarked : b < 128) : Spells [b] b.toNat
  | more {b : UInt8} {octets : Bytes} {n : Nat} (marked : 128 ≤ b) (higher : Spells octets n) :
    Spells (b :: octets) (b.toNat - 128 + 128 * n)

variable {octets : Bytes} {n : Nat}

theorem le_toNat_of_marked {b : UInt8} (marked : 128 ≤ b) : 128 ≤ b.toNat :=
  UInt8.le_iff_toNat_le.mp marked

theorem toNat_lt_of_unmarked {b : UInt8} (unmarked : b < 128) : b.toNat < 128 :=
  UInt8.lt_iff_toNat_lt.mp unmarked

theorem Spells.length_pos (spells : Spells octets n) : 0 < octets.length := by
  cases spells <;> simp

/-- What the writer writes spells the number. -/
theorem spells_encode (n : Nat) : Spells (encode n) n := by
  induction n using Nat.strong_induction_on with
  | _ n ih =>
    by_cases small : n < 128
    · have digit := Spells.last (last_lt small)
      rw [toNat_last small] at digit
      rw [encode_of_lt small]
      exact digit
    · have higher := ih (n / 128) (by omega)
      have digits := Spells.more (UInt8.not_lt.mp (not_marked_lt n)) higher
      rw [toNat_marked, show n % 128 + 128 - 128 + 128 * (n / 128) = n by omega] at digits
      rw [encode_of_le (by omega)]
      exact digits

/-- Without its first digit, a number of more than one digit is the higher number. -/
theorem higher_div {b : UInt8} (marked : 128 ≤ b) : (b.toNat - 128 + 128 * n) / 128 = n := by
  have low := le_toNat_of_marked marked
  have high := b.toNat_lt
  omega

/-- **Only the writer's spelling is as short as the writer's.** -/
theorem Spells.eq_encode (spells : Spells octets n)
    (short : octets.length ≤ (encode n).length) : octets = encode n := by
  induction spells with
  | last unmarked =>
    rw [encode_of_lt (toNat_lt_of_unmarked unmarked), UInt8.ofNat_toNat]
  | @more b octets n marked higher ih =>
    have low := le_toNat_of_marked marked
    by_cases small : b.toNat - 128 + 128 * n < 128
    · -- The writer would have needed one octet, but there are two at least.
      have more := higher.length_pos
      rw [encode_of_lt small, List.length_cons, List.length_singleton] at short
      omega
    · have wide := b.toNat_lt
      rw [encode_of_le (by omega), higher_div marked] at short ⊢
      have digit : (b.toNat - 128 + 128 * n) % 128 + 128 = b.toNat := by omega
      rw [digit, UInt8.ofNat_toNat, ← ih (by simpa using short)]

/-! ### Sizes -/

/-- The writer writes one octet for each group of seven bits. -/
theorem length_encode_eq (n : Nat) :
    (encode n).length = if n = 0 then 1 else (n.log2 + 7) / 7 := by
  induction n using Nat.strong_induction_on with
  | _ n ih =>
    by_cases zero : n = 0
    · rw [if_pos zero, zero, encode_of_lt (by decide)]
      rfl
    rw [if_neg zero]
    by_cases small : n < 128
    · have few : n.log2 < 7 := (Nat.log2_lt zero).mpr small
      rw [encode_of_lt small, List.length_singleton]
      omega
    · have higher : n / 128 ≠ 0 := by omega
      have shifted : n.log2 = (n / 128).log2 + 7 := by
        obtain ⟨below, above⟩ := (Nat.log2_eq_iff higher).mp rfl
        refine (Nat.log2_eq_iff zero).mpr ⟨?_, ?_⟩
        · rw [Nat.pow_add]
          omega
        · rw [show (n / 128).log2 + 7 + 1 = (n / 128).log2 + 1 + 7 by ring, Nat.pow_add]
          omega
      rw [encode_of_le (by omega), List.length_cons, ih (n / 128) (by omega), if_neg higher, shifted]
      omega

/-- The octets that are reserved for a number are the octets that it is written in. -/
theorem length_encode_toNat (n : UInt32) : (encode n.toNat).length = size n := by
  have zero : n.toNat = 0 ↔ n = 0 := by
    rw [← UInt32.toNat_inj]
    rfl
  rw [length_encode_eq, size]
  simp only [zero]

end Varint

namespace Frame

open Varint (Spells)

variable {left length size : Nat} {buffer payload rest : Bytes} {fault : Fault}

/-! ## Lengths at the front of a buffer -/

/-- A length is found just if a spelling of it that is short enough stands at the front. -/
theorem lengthWithin_eq_some_iff :
    lengthWithin left buffer = .ok (some (length, size)) ↔
      ∃ octets more, buffer = octets ++ more ∧ Spells octets length ∧ octets.length = size ∧
        size ≤ left := by
  induction left generalizing buffer length size with
  | zero =>
    constructor
    · intro found
      cases found
    · rintro ⟨octets, more, -, spells, rfl, short⟩
      have some_octet := spells.length_pos
      omega
  | succ left ih =>
    constructor
    · intro found
      obtain _ | ⟨b, rest⟩ := buffer
      · cases found
      by_cases unmarked : b < 128
      · rw [lengthWithin_cons_of_lt unmarked] at found
        cases found
        exact ⟨[b], rest, rfl, .last unmarked, rfl, by omega⟩
      · rw [lengthWithin_cons_of_marked unmarked] at found
        rcases later : lengthWithin left rest with fault | _ | ⟨higher, count⟩ <;>
          rw [later] at found <;> cases found
        obtain ⟨octets, more, rfl, spells, rfl, short⟩ := ih.mp later
        exact ⟨b :: octets, more, rfl, .more (UInt8.not_lt.mp unmarked) spells, rfl, by omega⟩
    · rintro ⟨octets, more, rfl, spells, rfl, short⟩
      cases spells with
      | last unmarked => exact lengthWithin_cons_of_lt unmarked
      | @more b octets n marked higher =>
        rw [List.length_cons] at short
        have later := ih.mpr ⟨octets, more, rfl, higher, rfl, by omega⟩
        rw [List.cons_append, lengthWithin_cons_of_marked (UInt8.not_lt.mpr marked), later]
        rfl

/-- A length is refused just if all the octets that it may take are marked. -/
theorem lengthWithin_eq_error_iff :
    lengthWithin left buffer = .error fault ↔
      left ≤ buffer.length ∧ (∀ b ∈ buffer.take left, 128 ≤ b) ∧
        fault = .sizeExceeded "frame length prefix" (maxLengthSize + 1) maxLengthSize := by
  induction left generalizing buffer with
  | zero =>
    constructor
    · intro refused
      cases refused
      simp
    · rintro ⟨-, -, rfl⟩
      rfl
  | succ left ih =>
    obtain _ | ⟨b, rest⟩ := buffer
    · simp [lengthWithin]
    by_cases unmarked : b < 128
    · have plain : ¬ 128 ≤ b := UInt8.not_le.mpr unmarked
      rw [lengthWithin_cons_of_lt unmarked]
      simp [plain]
    · have marked : 128 ≤ b := UInt8.not_lt.mp unmarked
      rw [lengthWithin_cons_of_marked unmarked]
      have later_iff := @ih rest
      rcases later : lengthWithin left rest with fault' | _ | found <;>
        rw [later] at later_iff <;> simpa [Except.map, marked] using later_iff

/-! ## Frames at the front of a buffer -/

/-- A frame stands at the front of a buffer, with `rest` after it: one to three octets that spell the
length of the payload, and then the payload. -/
def Framed (buffer payload rest : Bytes) : Prop :=
  ∃ length, length.length ≤ maxLengthSize ∧ Spells length payload.length ∧
    buffer = length ++ payload ++ rest

/-- The first three octets are there, and all are marked. -/
def Overlong (buffer : Bytes) : Prop :=
  maxLengthSize ≤ buffer.length ∧ ∀ b ∈ buffer.take maxLengthSize, 128 ≤ b

/-- What an overlong length is refused with. -/
def overlongFault : Fault := .sizeExceeded "frame length prefix" 4 3

theorem split?_eq_some_iff : split? buffer = .ok (some (payload, rest)) ↔ Framed buffer payload rest := by
  constructor
  · intro taken
    obtain ⟨length, size, found, complete, rfl, rfl⟩ := split?_eq_some taken
    obtain ⟨octets, more, rfl, spells, rfl, short⟩ := lengthWithin_eq_some_iff.mp found
    rw [List.length_append] at complete
    rw [List.drop_left]
    have whole : (more.take length).length = length := List.length_take_of_le (by omega)
    refine ⟨octets, short, by rw [whole]; exact spells, ?_⟩
    rw [List.append_assoc, List.take_append_drop]
  · rintro ⟨octets, short, spells, rfl⟩
    have found : length? (octets ++ payload ++ rest) = .ok (some (payload.length, octets.length)) := by
      rw [List.append_assoc]
      exact lengthWithin_eq_some_iff.mpr ⟨octets, payload ++ rest, rfl, spells, rfl, short⟩
    rw [split?_of_length? found (by simp), List.append_assoc, List.drop_left, List.take_left,
      List.drop_left]

theorem split?_eq_error_iff :
    split? buffer = .error fault ↔ Overlong buffer ∧ fault = overlongFault := by
  rw [split?_eq_error, length?, lengthWithin_eq_error_iff, ← and_assoc]
  rfl

variable {after : Bytes}

/-- **The decoder takes just the frames of the grammar.** -/
theorem decode_eq_some_iff :
    decode buffer = .ok (some payload) rest ↔ Framed buffer payload rest := by
  rw [← split?_eq_some_iff, decode]
  rcases split? buffer with fault | _ | ⟨found, left⟩ <;> simp

/-- **It refuses a buffer just if its length is overlong**, and leaves it as it was. -/
theorem decode_eq_error_iff :
    decode buffer = .error fault after ↔
      Overlong buffer ∧ fault = overlongFault ∧ after = buffer := by
  rw [← and_assoc, ← split?_eq_error_iff, decode]
  rcases split? buffer with fault | _ | ⟨found, left⟩ <;> simp [eq_comm]

/-- **It waits in every other case**, and leaves the buffer as it was. -/
theorem decode_eq_none_iff :
    decode buffer = .ok none after ↔
      after = buffer ∧ ¬ Overlong buffer ∧ ∀ payload rest, ¬ Framed buffer payload rest := by
  constructor
  · intro waits
    have same : after = buffer := by
      rw [decode] at waits
      rcases found : split? buffer with fault | _ | ⟨payload, left⟩ <;> rw [found] at waits <;>
        cases waits
      rfl
    refine ⟨same, ?_, ?_⟩
    · intro overlong
      have refused := decode_eq_error_iff.mpr ⟨overlong, rfl, rfl⟩
      rw [waits] at refused
      cases refused
    · intro payload rest framed
      have taken := decode_eq_some_iff.mpr framed
      rw [waits] at taken
      cases taken
  · rintro ⟨rfl, fine, unframed⟩
    rcases decoded : decode after with ⟨_ | payload, rest⟩ | ⟨fault, rest⟩
    · rw [decode] at decoded
      rcases found : split? after with fault | _ | ⟨payload, left⟩ <;> rw [found] at decoded <;>
        cases decoded
      rfl
    · exact absurd (decode_eq_some_iff.mp decoded) (unframed payload rest)
    · exact absurd (decode_eq_error_iff.mp decoded).1 fine

theorem Framed.append (framed : Framed buffer payload rest) (more : Bytes) :
    Framed (buffer ++ more) payload (rest ++ more) := by
  obtain ⟨length, short, spells, rfl⟩ := framed
  exact ⟨length, short, spells, by rw [List.append_assoc _ rest]⟩

theorem Overlong.append (overlong : Overlong buffer) (more : Bytes) : Overlong (buffer ++ more) := by
  obtain ⟨present, marked⟩ := overlong
  refine ⟨by rw [List.length_append]; omega, ?_⟩
  rw [List.take_append_of_le_length present]
  exact marked

/-! ## Frames that are written -/

/-- The frame is the shortest that is taken for the payload, and no other is as short. -/
structure Shortest (payload frame : Bytes) : Prop where
  taken : decode frame = .ok (some payload) []
  unique : ∀ other, decode other = .ok (some payload) [] → other ≠ frame →
    frame.length < other.length

theorem shortest_encode (fits : payload.length ≤ maxPayload) :
    Shortest payload (Varint.encode payload.length ++ payload) where
  taken := by
    have framed := split?_encode [] (encode_of_le fits)
    rw [List.append_nil] at framed
    exact decode_eq_some_iff.mpr (split?_eq_some_iff.mp framed)
  unique := by
    intro other taken apart
    obtain ⟨length, -, spells, rfl⟩ := decode_eq_some_iff.mp taken
    rw [List.append_nil] at apart ⊢
    -- An equally short frame would spell the length as the writer does.
    by_contra short
    simp only [List.length_append, not_lt] at short
    exact apart (congrArg (· ++ payload) (spells.eq_encode (by omega)))

theorem length_encode_length_le (fits : payload.length ≤ maxPayload) :
    (Varint.encode payload.length).length ≤ 3 := by
  have bound : payload.length < 128 ^ (2 + 1) := by
    unfold maxPayload at fits
    omega
  exact Varint.length_encode_le bound

theorem length_encode_length (fits : payload.length ≤ maxPayload) :
    (Varint.encode payload.length).length = Varint.size (UInt32.ofNat payload.length) := by
  have small : (UInt32.ofNat payload.length).toNat = payload.length :=
    UInt32.toNat_ofNat_of_lt' (Nat.lt_of_le_of_lt fits (by decide))
  rw [← Varint.length_encode_toNat, small]

theorem append_of_le (fits : payload.length ≤ maxPayload) (buffer : Bytes) :
    append payload buffer = .ok () (buffer ++ (Varint.encode payload.length ++ payload)) := by
  rw [append, encode_of_le fits]

theorem append_of_lt (long : maxPayload < payload.length) (buffer : Bytes) :
    append payload buffer = .error (.sizeExceeded "frame" payload.length maxPayload) buffer := by
  rw [append, encode, if_pos long]

/-- **The decoder accepts exactly the grammar of frames and is stable under more input, and the encoder
writes the shortest frame that is accepted.**  A decoder that finds no frame or an overlong length leaves
the buffer alone.  What it says of a frame or of an overlong length it says however much follows.  A
payload of at most 2,097,151 octets is appended in the one shortest frame there is for it, with as many
octets for its length as are reserved; a longer one is refused, and nothing is appended. -/
theorem decodes_grammar_encodes_shortest :
    (∀ buffer : Bytes,
      (∀ payload rest, decode buffer = .ok (some payload) rest ↔ Framed buffer payload rest) ∧
      (∀ fault after, decode buffer = .error fault after ↔
        Overlong buffer ∧ fault = overlongFault ∧ after = buffer) ∧
      (∀ after, decode buffer = .ok none after ↔
        after = buffer ∧ ¬ Overlong buffer ∧ ∀ payload rest, ¬ Framed buffer payload rest) ∧
      (∀ more payload rest, decode buffer = .ok (some payload) rest →
        decode (buffer ++ more) = .ok (some payload) (rest ++ more)) ∧
      ∀ more fault after, decode buffer = .error fault after →
        decode (buffer ++ more) = .error fault (buffer ++ more)) ∧
    ∀ payload buffer : Bytes,
      (payload.length ≤ 2097151 → ∃ length,
        append payload buffer = .ok () (buffer ++ (length ++ payload)) ∧
        Shortest payload (length ++ payload) ∧ 1 ≤ length.length ∧ length.length ≤ 3 ∧
        length.length = Varint.size (UInt32.ofNat payload.length)) ∧
      (2097151 < payload.length →
        append payload buffer = .error (.sizeExceeded "frame" payload.length 2097151) buffer) := by
  constructor
  · intro buffer
    refine ⟨fun _ _ => decode_eq_some_iff, fun _ _ => decode_eq_error_iff, fun _ => decode_eq_none_iff,
      ?_, ?_⟩
    · intro more payload rest taken
      exact decode_eq_some_iff.mpr ((decode_eq_some_iff.mp taken).append more)
    · intro more fault after refused
      obtain ⟨overlong, rfl, -⟩ := decode_eq_error_iff.mp refused
      exact decode_eq_error_iff.mpr ⟨overlong.append more, rfl, rfl⟩
  · intro payload buffer
    refine ⟨?_, fun long => append_of_lt long buffer⟩
    intro fits
    have some_octet := (Varint.spells_encode payload.length).length_pos
    exact ⟨Varint.encode payload.length, append_of_le fits buffer, shortest_encode fits, some_octet,
      length_encode_length_le fits, length_encode_length fits⟩

/-- A length that is spelled with an octet too many, with a part of the next frame behind it, an overlong
length, and a frame that is appended. -/
theorem decodes_grammar_encodes_shortest_padded :
    decode [0x83, 0x00, 7, 8, 9] = .ok (some [7, 8, 9]) [] ∧
      decode ([0x83, 0x00, 7, 8, 9] ++ [0x80]) = .ok (some [7, 8, 9]) [0x80] ∧
      decode ([0xff, 0xff, 0xff] ++ [0]) = .error overlongFault [0xff, 0xff, 0xff, 0] ∧
      ∃ length, append [7, 8, 9] [1] = .ok () ([1] ++ (length ++ [7, 8, 9])) ∧
        Shortest [7, 8, 9] (length ++ [7, 8, 9]) := by
  obtain ⟨decodes, encodes⟩ := decodes_grammar_encodes_shortest
  have taken : decode [0x83, 0x00, 7, 8, 9] = .ok (some [7, 8, 9]) [] := rfl
  have refused : decode [0xff, 0xff, 0xff] = .error overlongFault [0xff, 0xff, 0xff] := rfl
  obtain ⟨length, appended, shortest, -⟩ := (encodes [7, 8, 9] [1]).1 (by decide)
  exact ⟨taken, (decodes _).2.2.2.1 [0x80] _ _ taken, (decodes _).2.2.2.2 [0] _ _ refused, length,
    appended, shortest⟩

end Frame

end GameTransport
