import GameTransport.Proofs.Fields
import GameTransport.Proofs.FrameGrammar
import Mathlib.Data.Nat.Digits.Lemmas

/-! # Which octets are a number, and which of them are written

A number of variable length is as many octets with a mark as there are and one without, and it is the sum
of their digits (`Varint.value`).  A reader takes the octets up to the first without a mark if there is
one among those that it may take (`digits_ended`).  Otherwise it runs out of octets (`digits_short`) or of
patience (`digits_long`), and there is no fourth case (`ended_or_marked`).

Octets that were read are written again just if they end in no idle zero and the number fits the word
that it was read into (`encode_value_mod_iff`).
-/

namespace GameTransport

namespace Varint

variable {what : String} {overlong : Fault} {left width : Nat} {marked rest buffer : Bytes}
  {last : UInt8}

/-! ## The value of octets -/

/-- The sum of the digits of octets, which are their low seven bits.  The digit of the first octet counts
once, and each other 128 times as much as the one before. -/
def value (octets : Bytes) : Nat := Nat.ofDigits 128 (octets.map fun b => b.toNat % 128)

theorem value_cons (b : UInt8) (octets : Bytes) :
    value (b :: octets) = b.toNat % 128 + 128 * value octets := Nat.ofDigits_cons

theorem value_lt (octets : Bytes) : value octets < 128 ^ octets.length := by
  have digits : ∀ d ∈ octets.map fun b => b.toNat % 128, d < 128 := by
    intro d among
    obtain ⟨b, -, rfl⟩ := List.mem_map.mp among
    exact Nat.mod_lt _ (by decide)
  have bound := Nat.ofDigits_lt_base_pow_length (by decide) digits
  rw [List.length_map] at bound
  exact bound

theorem value_append_singleton (unmarked : last < 128) :
    value (marked ++ [last]) = value marked + 128 ^ marked.length * last.toNat := by
  have digit : last.toNat % 128 = last.toNat := Nat.mod_eq_of_lt (toNat_lt_of_unmarked unmarked)
  rw [value, List.map_append, Nat.ofDigits_append, List.length_map, List.map_singleton,
    Nat.ofDigits_singleton, digit, value]

/-! ## The exits of a reader -/

/-- Octets up to the first without a mark are read. -/
theorem digits_ended (marks : ∀ b ∈ marked, 128 ≤ b) (unmarked : last < 128)
    (within : marked.length < left) :
    digits what overlong left (marked ++ last :: rest) = .ok (value (marked ++ [last])) rest := by
  induction marked generalizing left with
  | nil =>
    obtain ⟨left, rfl⟩ := Nat.exists_eq_succ_of_ne_zero (Nat.ne_of_gt within)
    have digit := toNat_lt_of_unmarked unmarked
    rw [List.nil_append, digits_last rest unmarked, List.nil_append, value_cons, value,
      List.map_nil, Nat.ofDigits_nil, Nat.mod_eq_of_lt digit]
    rfl
  | cons b marked ih =>
    obtain ⟨mark, marks⟩ := List.forall_mem_cons.mp marks
    obtain ⟨left, rfl⟩ := Nat.exists_eq_succ_of_ne_zero (Nat.ne_zero_of_lt within)
    have low := le_toNat_of_marked mark
    have high := b.toNat_lt
    have later := ih marks (Nat.lt_of_succ_lt_succ within)
    rw [List.cons_append, digits_marked (UInt8.not_lt.mpr mark) later, List.cons_append, value_cons,
      show b.toNat % 128 = b.toNat - 128 by omega]

/-- A fault behind a marked octet is the fault of the whole. -/
theorem digits_marked_error {b : UInt8} {fault : Fault} (mark : 128 ≤ b)
    (later : digits what overlong left rest = .error fault buffer) :
    digits what overlong (left + 1) (b :: rest) = .error fault buffer := by
  change (if b < 128 then _ else _ : Reader Nat) rest = _
  rw [if_neg (UInt8.not_lt.mpr mark), Reader.bind_error later]

/-- Marked octets alone are too few. -/
theorem digits_short (marks : ∀ b ∈ buffer, 128 ≤ b) (short : buffer.length < left) :
    digits what overlong left buffer = .error (.truncated what 1 0) [] := by
  induction buffer generalizing left with
  | nil =>
    obtain ⟨left, rfl⟩ := Nat.exists_eq_succ_of_ne_zero (Nat.ne_of_gt short)
    rfl
  | cons b buffer ih =>
    obtain ⟨mark, marks⟩ := List.forall_mem_cons.mp marks
    obtain ⟨left, rfl⟩ := Nat.exists_eq_succ_of_ne_zero (Nat.ne_zero_of_lt short)
    exact digits_marked_error mark (ih marks (Nat.lt_of_succ_lt_succ short))

/-- As many of them as a number may take are too many. -/
theorem digits_long (marks : ∀ b ∈ buffer.take left, 128 ≤ b) (long : left ≤ buffer.length) :
    digits what overlong left buffer = .error overlong (buffer.drop left) := by
  induction left generalizing buffer with
  | zero => rfl
  | succ left ih =>
    obtain _ | ⟨b, buffer⟩ := buffer
    · cases long
    rw [List.take_succ_cons] at marks
    obtain ⟨mark, marks⟩ := List.forall_mem_cons.mp marks
    exact digits_marked_error mark (ih marks (Nat.le_of_succ_le_succ long))

/-- A buffer has an octet without a mark among its first, and so a first one, or it has none. -/
theorem ended_or_marked (left : Nat) (buffer : Bytes) :
    (∃ marked last rest, buffer = marked ++ last :: rest ∧ (∀ b ∈ marked, 128 ≤ b) ∧ last < 128 ∧
      marked.length < left) ∨ ∀ b ∈ buffer.take left, 128 ≤ b := by
  induction left generalizing buffer with
  | zero => exact .inr nofun
  | succ left ih =>
    obtain _ | ⟨b, buffer⟩ := buffer
    · exact .inr nofun
    by_cases unmarked : b < 128
    · exact .inl ⟨[], b, buffer, rfl, nofun, unmarked, Nat.succ_pos left⟩
    have mark := UInt8.not_lt.mp unmarked
    rcases ih buffer with ⟨marked, last, rest, rfl, marks, ends, within⟩ | marks
    · exact .inl ⟨b :: marked, last, rest, rfl, List.forall_mem_cons.mpr ⟨mark, marks⟩, ends,
        Nat.succ_lt_succ within⟩
    · exact .inr (List.forall_mem_cons.mpr ⟨mark, marks⟩)

theorem mem_take_of_length_lt (within : marked.length < left) :
    last ∈ (marked ++ last :: rest).take left := by
  obtain ⟨more, rfl⟩ := Nat.exists_eq_add_of_lt within
  rw [Nat.add_assoc, List.take_length_add_append, List.take_succ_cons]
  exact List.mem_append_right _ List.mem_cons_self

/-- **A number is read just if an octet without a mark is among the first.** -/
theorem exists_digits_iff : (∃ n rest, digits what overlong left buffer = .ok n rest) ↔
    ∃ b ∈ buffer.take left, b < 128 := by
  rcases ended_or_marked left buffer with
    ⟨marked, last, rest, rfl, marks, unmarked, within⟩ | marks
  · exact iff_of_true ⟨_, rest, digits_ended marks unmarked within⟩
      ⟨last, mem_take_of_length_lt within, unmarked⟩
  · refine iff_of_false ?_ fun ⟨b, among, unmarked⟩ => UInt8.not_le.mpr unmarked (marks b among)
    rintro ⟨n, rest, read⟩
    rcases Nat.lt_or_ge buffer.length left with short | long
    · rw [List.take_of_length_le (Nat.le_of_lt short)] at marks
      rw [digits_short marks short] at read
      cases read
    · rw [digits_long marks long] at read
      cases read

/-! ## What is written again -/

/-- A number is the value of what spells it. -/
theorem Spells.eq_value {octets : Bytes} {n : Nat} (spells : Spells octets n) : n = value octets := by
  induction spells with
  | last unmarked =>
    rw [value_cons, Nat.mod_eq_of_lt (toNat_lt_of_unmarked unmarked)]
    rfl
  | @more b octets n mark higher ih =>
    have low := le_toNat_of_marked mark
    have high := b.toNat_lt
    rw [value_cons, ← ih]
    omega

theorem spells_value (marks : ∀ b ∈ marked, 128 ≤ b) (unmarked : last < 128) :
    Spells (marked ++ [last]) (value (marked ++ [last])) := by
  induction marked with
  | nil =>
    have digit := Spells.last unmarked
    rw [digit.eq_value] at digit
    exact digit
  | cons b marked ih =>
    obtain ⟨mark, marks⟩ := List.forall_mem_cons.mp marks
    have digits := Spells.more mark (ih marks)
    rw [digits.eq_value] at digits
    exact digits

theorem lt_pow_length_encode (n : Nat) : n < 128 ^ (encode n).length := by
  have bound := value_lt (encode n)
  rw [← (spells_encode n).eq_value] at bound
  exact bound

/-- **What was read is what is written unless it ends in an idle zero.** -/
theorem encode_value_iff (marks : ∀ b ∈ marked, 128 ≤ b) (unmarked : last < 128) :
    encode (value (marked ++ [last])) = marked ++ [last] ↔ marked = [] ∨ last ≠ 0 := by
  have sum : value (marked ++ [last]) = value marked + 128 ^ marked.length * last.toNat :=
    value_append_singleton unmarked
  constructor
  · intro same
    rw [or_iff_not_imp_left]
    rintro some_mark rfl
    -- Without the zero the number is below `128 ^ marked.length`, so it takes an octet less.
    obtain ⟨left, size⟩ := Nat.exists_eq_succ_of_ne_zero (List.length_pos_iff.mpr some_mark).ne'
    have small : value (marked ++ [0]) < 128 ^ (left + 1) := by
      have bound := value_lt marked
      rw [size] at bound
      simpa [sum] using bound
    have short := length_encode_le small
    rw [same, List.length_append, List.length_singleton, size] at short
    omega
  · rintro (rfl | some_digit)
    · have digit := toNat_lt_of_unmarked unmarked
      rw [List.nil_append, value_cons, Nat.mod_eq_of_lt digit, show value [] = 0 from rfl,
        Nat.mul_zero, Nat.add_zero, encode_of_lt digit, UInt8.ofNat_toNat]
    · -- With it the number is `128 ^ marked.length` at least, so it takes no octet less.
      have positive : 0 < last.toNat :=
        Nat.pos_of_ne_zero fun zero => some_digit (UInt8.toNat_inj.mp zero)
      have large : 128 ^ marked.length ≤ value (marked ++ [last]) := by
        rw [sum]
        exact Nat.le_add_left_of_le (Nat.le_mul_of_pos_right _ positive)
      have long : marked.length < (encode (value (marked ++ [last]))).length :=
        (Nat.pow_lt_pow_iff_right (by decide)).mp
          (Nat.lt_of_le_of_lt large (lt_pow_length_encode _))
      refine ((spells_value marks unmarked).eq_encode ?_).symm
      rw [List.length_append, List.length_singleton]
      exact long

section Words

variable {places : Nat} {greatest : UInt8} (within : marked.length ≤ places) (unmarked : last < 128)
  (room : 128 ^ places * (greatest.toNat + 1) = 2 ^ width)
include within unmarked room

/-- A number fits its word if it has fewer digits than it may have or its last one fits. -/
theorem value_lt_two_pow_iff :
    value (marked ++ [last]) < 2 ^ width ↔ marked.length < places ∨ last ≤ greatest := by
  have lower : value marked < 128 ^ marked.length := value_lt marked
  have sum : value (marked ++ [last]) = value marked + 128 ^ marked.length * last.toNat :=
    value_append_singleton unmarked
  rw [← room, UInt8.le_iff_toNat_le]
  rcases Nat.lt_or_eq_of_le within with fewer | full
  · refine iff_of_true ?_ (.inl fewer)
    calc value (marked ++ [last]) < 128 ^ (marked ++ [last]).length := value_lt _
      _ = 128 ^ (marked.length + 1) := by rw [List.length_append, List.length_singleton]
      _ ≤ 128 ^ places := Nat.pow_le_pow_right (by decide) fewer
      _ ≤ 128 ^ places * (greatest.toNat + 1) := Nat.le_mul_of_pos_right _ (Nat.succ_pos _)
  · rw [full] at sum lower
    rw [sum]
    constructor
    · intro fits
      refine .inr (Nat.le_of_lt_succ (Nat.lt_of_mul_lt_mul_left (a := 128 ^ places) ?_))
      exact Nat.lt_of_le_of_lt (Nat.le_add_left _ _) fits
    · rintro (fewer | fits)
      · omega
      · calc value marked + 128 ^ places * last.toNat
            < 128 ^ places + 128 ^ places * last.toNat := Nat.add_lt_add_right lower _
          _ = 128 ^ places * (last.toNat + 1) := by ring
          _ ≤ 128 ^ places * (greatest.toNat + 1) := Nat.mul_le_mul_left _ (Nat.succ_le_succ fits)

/-- **When a number that was read into a word is written as it was read.** -/
theorem encode_value_mod_iff (marks : ∀ b ∈ marked, 128 ≤ b) :
    encode (value (marked ++ [last]) % 2 ^ width) = marked ++ [last] ↔
      (marked = [] ∨ last ≠ 0) ∧ (marked.length < places ∨ last ≤ greatest) := by
  rw [← value_lt_two_pow_iff within unmarked room, ← encode_value_iff marks unmarked]
  constructor
  · intro same
    -- The same octets spell the number and what the word has of it, so the word has all of it.
    have kept : value (marked ++ [last]) % 2 ^ width = value (marked ++ [last]) :=
      (spells_encode _).eq_value.trans (congrArg value same)
    rw [kept] at same
    exact ⟨same, kept ▸ Nat.mod_lt _ (Nat.two_pow_pos width)⟩
  · rintro ⟨same, fits⟩
    rw [Nat.mod_eq_of_lt fits, same]

end Words

/-- A number is never written longer than it was read. -/
theorem length_encode_value_mod_le (marked : Bytes) (last : UInt8) (width : Nat) :
    (encode (value (marked ++ [last]) % 2 ^ width)).length ≤ marked.length + 1 := by
  have small := value_lt (marked ++ [last])
  rw [List.length_append, List.length_singleton] at small
  exact length_encode_le (Nat.lt_of_le_of_lt (Nat.mod_le _ _) small)

/-! ## Digits in a word -/

/-- Reads as `digits` does, but sets each digit at its place in a word, which loses what it has no room
for. -/
def digitsInto (width : Nat) (what : String) (overlong : Fault) :
    (left place : Nat) → BitVec width → Reader (BitVec width)
  | 0, _, _ => throw overlong
  | left + 1, place, word => do
    let b ← Reader.byte what
    let word := word ||| BitVec.ofNat width (b &&& 0x7F).toNat <<< (7 * place)
    if b &&& 0x80 = 0 then return word else digitsInto width what overlong left (place + 1) word

theorem toNat_and_segment (b : UInt8) : (b &&& 0x7F).toNat = b.toNat % 128 := by
  rw [UInt8.toNat_and]
  exact Nat.and_two_pow_sub_one_eq_mod b.toNat 7

theorem and_mark_eq_zero_iff (b : UInt8) : b &&& 0x80 = 0 ↔ b < 128 := by
  have all : ∀ n : Fin 256, n.val &&& 128 = 0 ↔ n.val < 128 := by decide +kernel
  rw [← UInt8.toNat_inj, UInt8.toNat_and, UInt8.lt_iff_toNat_lt]
  exact all ⟨b.toNat, b.toNat_lt⟩

/-- Setting a digit above all others adds it. -/
theorem or_shiftLeft {v place : Nat} (below : v < 128 ^ place) (digit : Nat) :
    BitVec.ofNat width v ||| BitVec.ofNat width digit <<< (7 * place) =
      BitVec.ofNat width (v + 128 ^ place * digit) := by
  have power : 128 ^ place = 2 ^ (7 * place) := (Nat.pow_mul 2 7 place).symm
  rw [power] at below ⊢
  rw [Nat.add_comm, Nat.two_pow_add_eq_or_of_lt below]
  apply BitVec.eq_of_toNat_eq
  simp [Nat.shiftLeft_eq, Nat.mul_comm, Nat.or_comm]

/-- One octet is read, and its digit set above all those before. -/
theorem digitsInto_cons {v place : Nat} (below : v < 128 ^ place) (b : UInt8) :
    digitsInto width what overlong (left + 1) place (BitVec.ofNat width v) (b :: buffer) =
      if b < 128 then .ok (BitVec.ofNat width (v + 128 ^ place * (b.toNat % 128))) buffer
      else digitsInto width what overlong left (place + 1)
        (BitVec.ofNat width (v + 128 ^ place * (b.toNat % 128))) buffer := by
  rw [← or_shiftLeft below, ← toNat_and_segment]
  change (if b &&& 0x80 = 0 then _ else _ : Reader (BitVec width)) buffer = _
  simp only [and_mark_eq_zero_iff]
  split <;> rfl

/-- **The word is the number as far as there is room.** -/
theorem digitsInto_eq {v place : Nat} (below : v < 128 ^ place) :
    digitsInto width what overlong left place (BitVec.ofNat width v) buffer =
      ((fun n => BitVec.ofNat width (v + 128 ^ place * n)) <$> digits what overlong left) buffer := by
  induction left generalizing v place buffer with
  | zero => rfl
  | succ left ih =>
    obtain _ | ⟨b, buffer⟩ := buffer
    · rfl
    rw [digitsInto_cons below]
    -- The word holds the digits below `place`, and the next digit is set above them all.
    by_cases unmarked : b < 128
    · rw [if_pos unmarked, Reader.map_ok (digits_last buffer unmarked),
        Nat.mod_eq_of_lt (toNat_lt_of_unmarked unmarked)]
    · have mark := UInt8.not_lt.mp unmarked
      have low := le_toNat_of_marked mark
      have high := b.toNat_lt
      have digit : b.toNat % 128 = b.toNat - 128 := by omega
      have above : v + 128 ^ place * (b.toNat % 128) < 128 ^ (place + 1) := by
        calc v + 128 ^ place * (b.toNat % 128)
            < 128 ^ place * (b.toNat % 128 + 1) := by rw [Nat.mul_succ]; omega
          _ ≤ 128 ^ place * 128 := Nat.mul_le_mul_left _ (Nat.mod_lt _ (by decide))
      rw [if_neg unmarked, ih above]
      rcases later : digits what overlong left buffer with ⟨n, rest⟩ | ⟨fault, rest⟩
      · have sum : v + 128 ^ place * (b.toNat - 128) + 128 ^ (place + 1) * n =
            v + 128 ^ place * (b.toNat - 128 + 128 * n) := by ring
        rw [Reader.map_ok later, Reader.map_ok (digits_marked unmarked later), digit, sum]
      · rw [Reader.map_error later, Reader.map_error (digits_marked_error mark later)]

theorem digitsInto_zero : digitsInto width what overlong left 0 0 buffer =
    (BitVec.ofNat width <$> digits what overlong left) buffer := by
  have empty : 0 < 128 ^ 0 := Nat.one_pos
  refine (digitsInto_eq empty).trans ?_
  simp only [Nat.pow_zero, Nat.one_mul, Nat.zero_add]

theorem ofNat_mod_two_pow (width n : Nat) :
    BitVec.ofNat width (n % 2 ^ width) = BitVec.ofNat width n := by
  apply BitVec.eq_of_toNat_eq
  simp only [BitVec.toNat_ofNat, Nat.mod_mod]

/-! ## Octets that are counted -/

theorem writeFrom_eq (n count : Nat) (buffer : Bytes) :
    writeFrom n count buffer = (count + (encode n).length, buffer ++ encode n) := by
  induction n using Nat.strong_induction_on generalizing count buffer with
  | _ n ih =>
    rw [writeFrom]
    by_cases small : n < 128
    · rw [if_pos small, encode_of_lt small]
      rfl
    · rw [if_neg small, encode_of_le (Nat.le_of_not_lt small), List.length_cons]
      refine (ih (n / 128) (by omega) _ _).trans ?_
      rw [List.append_assoc, List.singleton_append, Nat.add_assoc, Nat.add_comm 1]

/-- **The writer writes the shortest spelling and answers its length.** -/
theorem write_eq (n : Nat) (buffer : Bytes) :
    write n buffer = ((encode n).length, buffer ++ encode n) := by
  rw [write, writeFrom_eq, Nat.zero_add]

end Varint

/-! ## Fields of variable length -/

open Varint in
/-- How a field holds numbers of at most `limit` octets in words of `width` bits.  A number that takes
all of these octets fits its word if the last of them is at most `greatest`. -/
structure Field.IsVarint {α : Type} (field : Field α) (toNat : α → Nat) (what : String)
    (limit width : Nat) (greatest : UInt8) : Prop where
  /-- A number is read just if one of the octets that it may take has no mark. -/
  reads_iff (buffer : Bytes) :
    (∃ n rest, field.read buffer = .ok n rest) ↔ ∃ b ∈ buffer.take limit, b < 128
  /-- It takes the octets up to the first of those and is their value as far as its word has room.  It is
  written in no more octets, and in the same if they end in no idle zero and no digit was lost. -/
  reads {marked rest : Bytes} {last : UInt8} (marks : ∀ b ∈ marked, 128 ≤ b) (unmarked : last < 128)
    (within : marked.length < limit) :
    ∃ n, field.read (marked ++ last :: rest) = .ok n rest ∧
      toNat n = value (marked ++ [last]) % 2 ^ width ∧
      (field.write n).length ≤ marked.length + 1 ∧
      (field.write n = marked ++ [last] ↔
        (marked = [] ∨ last ≠ 0) ∧ (marked.length + 1 < limit ∨ last ≤ greatest))
  /-- If there are fewer octets than it may take and all have marks, all are taken. -/
  truncated {buffer : Bytes} (marks : ∀ b ∈ buffer, 128 ≤ b) (short : buffer.length < limit) :
    field.read buffer = .error (.truncated what 1 0) []
  /-- If those that it may take all have marks, they are taken and no more. -/
  overlong {buffer : Bytes} (marks : ∀ b ∈ buffer.take limit, 128 ≤ b)
    (long : limit ≤ buffer.length) :
    field.read buffer = .error (.sizeExceeded what (limit + 1) limit) (buffer.drop limit)
  /-- Setting digit by digit in a word gives the same answer to every buffer. -/
  into_word (buffer : Bytes) :
    digitsInto width what (.sizeExceeded what (limit + 1) limit) limit 0 0 buffer =
      ((fun n => BitVec.ofNat width (toNat n)) <$> field.read) buffer

namespace Varint

/-- A field that reads digits and reduces them to its words is of this kind. -/
theorem isVarint_of_read_eq {α : Type} {field : Field α} {toNat : α → Nat} {ofNat : Nat → α}
    {places : Nat} {greatest : UInt8} (reads : field.read = ofNat <$> read what (places + 1))
    (writes : ∀ n, field.write n = encode (toNat n))
    (reduced : ∀ n, toNat (ofNat n) = n % 2 ^ width)
    (room : 128 ^ places * (greatest.toNat + 1) = 2 ^ width) :
    field.IsVarint toNat what (places + 1) width greatest where
  reads_iff buffer := by
    rw [reads, ← exists_digits_iff]
    constructor
    · rintro ⟨n, rest, found⟩
      obtain ⟨number, unreduced, -⟩ := Reader.of_map_ok found
      exact ⟨number, rest, unreduced⟩
    · rintro ⟨number, rest, unreduced⟩
      exact ⟨ofNat number, rest, Reader.map_ok unreduced⟩
  reads {marked rest last} marks unmarked within := by
    refine ⟨ofNat (value (marked ++ [last])), ?_, reduced _, ?_, ?_⟩
    · rw [reads]
      exact Reader.map_ok (digits_ended marks unmarked within)
    · rw [writes, reduced]
      exact length_encode_value_mod_le marked last width
    · rw [writes, reduced, Nat.add_lt_add_iff_right]
      exact encode_value_mod_iff (Nat.le_of_lt_succ within) unmarked room marks
  truncated marks short := by
    rw [reads]
    exact Reader.map_error (digits_short marks short)
  overlong marks long := by
    rw [reads]
    exact Reader.map_error (digits_long marks long)
  into_word buffer := by
    rw [digitsInto_zero, reads, Functor.map_map]
    simp only [reduced, ofNat_mod_two_pow]
    rfl

/-- **Numbers are read from every bounded spelling and written in the shortest**, and a writer answers
how long that is. -/
theorem read_bounded_written_shortest :
    Field.varU32.IsVarint UInt32.toNat "varint" 5 32 0x0F ∧
    Field.varU64.IsVarint UInt64.toNat "varlong" 10 64 0x01 ∧
    ∀ (n : UInt32) (buffer : Bytes),
      write n.toNat buffer =
        ((Field.varU32.write n).length, buffer ++ Field.varU32.write n) ∧
      (Field.varU32.write n).length = size n := by
  refine ⟨?_, ?_, fun n buffer => ⟨write_eq n.toNat buffer, length_encode_toNat n⟩⟩
  · have reads : Field.varU32.read = UInt32.ofNat <$> read "varint" (4 + 1) := rfl
    exact isVarint_of_read_eq reads (fun _ => rfl) (fun _ => UInt32.toNat_ofNat') (by decide)
  · have reads : Field.varU64.read = UInt64.ofNat <$> read "varlong" (9 + 1) := rfl
    exact isVarint_of_read_eq reads (fun _ => rfl) (fun _ => UInt64.toNat_ofNat') (by decide)

/-- The last digit stands above the 32 bits, so nothing is left of it. -/
example : readU32 [0x80, 0x80, 0x80, 0x80, 0x10, 7] = .ok 0 [7] := rfl

end Varint

end GameTransport
