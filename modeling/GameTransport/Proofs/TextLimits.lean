import GameTransport.Proofs.Fields

/-! # A text is taken just if it has no more characters than it may

A text field is limited twice: in octets, before any of them is taken, and in characters, after all
of them are read.  The first limit only saves work.  A character takes at most four octets, so a text
within the second limit is within the first (`le_byteLimit`), and what is taken depends on the second
alone.

`Refused` lists the ways in which a text is refused.  Each of them stands behind those above it, and
each exit of the reader has its equation (`read_string_of_above` to `read_string_of_fits`), so the
reader refuses a run of octets just as the list says.
-/

namespace GameTransport

namespace Varint

variable {what : String} {overlong : Fault} {left n : Nat} {buffer rest : Bytes}

/-- Digits that were read are read in front of anything else. -/
theorem reads_of_digits (read : digits what overlong left buffer = .ok n rest) :
    ∃ front, buffer = front ++ rest ∧ (digits what overlong left).Reads front n := by
  induction left generalizing buffer n with
  | zero => cases read
  | succ left ih =>
    obtain ⟨b, after, first, later⟩ := Reader.of_bind_ok read
    obtain rfl : buffer = b :: after := by
      rcases buffer with _ | ⟨lead, buffer⟩
      · cases first
      · cases first
        rfl
    by_cases last : b < 128
    · rw [if_pos last] at later
      cases later
      exact ⟨[b], rfl, fun more => digits_last more last⟩
    · rw [if_neg last] at later
      obtain ⟨higher, between, inner, done⟩ := Reader.of_bind_ok later
      cases done
      obtain ⟨front, rfl, reads⟩ := ih inner
      exact ⟨b :: front, rfl, fun more => digits_marked last (reads more)⟩

theorem reads_of_readU32 {n : UInt32} (read : readU32 buffer = .ok n rest) :
    ∃ front, buffer = front ++ rest ∧ readU32.Reads front n := by
  obtain ⟨number, unreduced, rfl⟩ := Reader.of_map_ok read
  obtain ⟨front, split, reads⟩ := reads_of_digits unreduced
  exact ⟨front, split, Reader.Reads.map reads UInt32.ofNat⟩

end Varint

namespace Field

variable {what text : String} {max : Nat} {buffer body octets rest : Bytes} {n : UInt32}
  {fault : Fault} {cause : Utf8.Fault}

/-! ### The length in front -/

theorem readLength_of_error (failed : Varint.readU32 buffer = .error fault rest) :
    readLength what max buffer = .error fault rest := Reader.bind_error failed

theorem readLength_of_lt (number : Varint.readU32 buffer = .ok n body) (above : max < n.toNat) :
    readLength what max buffer = .error (.sizeExceeded what n.toNat max) body := by
  unfold readLength
  rw [Reader.bind_ok number]
  dsimp only
  rw [if_pos above]
  rfl

theorem readLength_of_le (number : Varint.readU32 buffer = .ok n body) (within : n.toNat ≤ max) :
    readLength what max buffer = .ok n.toNat body := by
  unfold readLength
  rw [Reader.bind_ok number]
  dsimp only
  rw [if_neg (Nat.not_lt.mpr within)]
  rfl

/-! ### The octets of the text -/

/-- The most octets that a text of `max` characters may take, as far as 64 bits can count. -/
def byteLimit (max : Nat) : Nat := min (4 * max) (2 ^ 64 - 1)

/-- A length has 32 bits, so it does not matter where the limit stops to count. -/
theorem byteLimit_lt_iff (n : UInt32) : byteLimit max < n.toNat ↔ 4 * max < n.toNat := by
  have small := n.toNat_lt
  unfold byteLimit
  omega

theorem byteLimit_of_lt (above : byteLimit max < n.toNat) : byteLimit max = 4 * max := by
  have small := n.toNat_lt
  unfold byteLimit at above ⊢
  omega

/-- **The limit in octets refuses no text that the limit in characters allows.** -/
theorem le_byteLimit (size : (Utf8.encode text).length = n.toNat) (fits : text.length ≤ max) :
    n.toNat ≤ byteLimit max := by
  have octets := length_encode_le_of_length_le fits
  apply Nat.not_lt.mp
  rw [byteLimit_lt_iff]
  omega

section Exits

variable (number : Varint.readU32 buffer = .ok n body)
include number

theorem read_string_of_above (above : byteLimit max < n.toNat) :
    (string max).read buffer =
      .error (.sizeExceeded "string" n.toNat (byteLimit max)) body := by
  rw [byteLimit_of_lt above]
  exact Reader.bind_error (readLength_of_lt number ((byteLimit_lt_iff n).mp above))

theorem read_string_of_short (within : n.toNat ≤ byteLimit max) (short : body.length < n.toNat) :
    (string max).read buffer = .error (.truncated "string" n.toNat body.length) body := by
  have length : readLength "string" (4 * max) buffer = .ok n.toNat body :=
    readLength_of_le number (Nat.le_trans within (Nat.min_le_left _ _))
  have cut : Reader.take "string" n.toNat body =
      .error (.truncated "string" n.toNat body.length) body := if_pos short
  exact (Reader.bind_ok length).trans (Reader.bind_error cut)

theorem read_string_of_octets (split : body = octets ++ rest) (size : octets.length = n.toNat)
    (within : n.toNat ≤ byteLimit max) :
    (string max).read buffer =
      match Utf8.decode octets with
      | .error cause => .error (.invalidData (.notText cause)) rest
      | .ok text =>
        if max < text.length then .error (.sizeExceeded "string" text.length max) rest
        else .ok text rest := by
  have length : readLength "string" (4 * max) buffer = .ok n.toNat body :=
    readLength_of_le number (Nat.le_trans within (Nat.min_le_left _ _))
  have taken : Reader.take "string" n.toNat body = .ok octets rest := by
    rw [split, ← size, Reader.reads_take]
  unfold string
  dsimp only
  rw [Reader.bind_ok length, Reader.bind_ok taken]
  rcases Utf8.decode octets with cause | text
  · rfl
  · dsimp only
    split <;> rfl

theorem read_string_of_notText (split : body = octets ++ rest) (size : octets.length = n.toNat)
    (within : n.toNat ≤ byteLimit max) (refused : Utf8.decode octets = .error cause) :
    (string max).read buffer = .error (.invalidData (.notText cause)) rest := by
  rw [read_string_of_octets number split size within, refused]

theorem read_string_of_many (split : body = Utf8.encode text ++ rest)
    (size : (Utf8.encode text).length = n.toNat) (within : n.toNat ≤ byteLimit max)
    (above : max < text.length) :
    (string max).read buffer = .error (.sizeExceeded "string" text.length max) rest := by
  rw [read_string_of_octets number split size within, Utf8.decode_encode]
  exact if_pos above

theorem read_string_of_fits (split : body = Utf8.encode text ++ rest)
    (size : (Utf8.encode text).length = n.toNat) (fits : text.length ≤ max) :
    (string max).read buffer = .ok text rest := by
  rw [read_string_of_octets number split size (le_byteLimit size fits), Utf8.decode_encode]
  exact if_neg (Nat.not_lt.mpr fits)

end Exits

/-! ### One of the exits is taken -/

/-- In front stands a number, then as many octets as it says, and they are `text`, which has no more
than `max` characters. -/
def Accepted (max : Nat) (buffer : Bytes) (text : String) (rest : Bytes) : Prop :=
  ∃ front n, Varint.readU32.Reads front n ∧ buffer = front ++ Utf8.encode text ++ rest ∧
    (Utf8.encode text).length = n.toNat ∧ text.length ≤ max

/-- The ways in which a text of at most `max` characters is refused, with the fault and with what is
left. -/
inductive Refused (max : Nat) (buffer : Bytes) : Fault → Bytes → Prop where
  /-- No number stands in front. -/
  | numberless {fault : Fault} {rest : Bytes}
    (failed : Varint.readU32 buffer = .error fault rest) : Refused max buffer fault rest
  /-- The number is above the limit in octets.  All of them are left. -/
  | above {n : UInt32} {body : Bytes} (number : Varint.readU32 buffer = .ok n body)
    (exceeds : byteLimit max < n.toNat) :
    Refused max buffer (.sizeExceeded "string" n.toNat (byteLimit max)) body
  /-- There are fewer octets than the number says. -/
  | short {n : UInt32} {body : Bytes} (number : Varint.readU32 buffer = .ok n body)
    (within : n.toNat ≤ byteLimit max) (short : body.length < n.toNat) :
    Refused max buffer (.truncated "string" n.toNat body.length) body
  /-- The octets are no text. -/
  | notText {n : UInt32} {octets rest : Bytes} {cause : Utf8.Fault}
    (number : Varint.readU32 buffer = .ok n (octets ++ rest)) (size : octets.length = n.toNat)
    (within : n.toNat ≤ byteLimit max) (none : ∀ text, octets ≠ Utf8.encode text)
    (refused : Utf8.decode octets = .error cause) :
    Refused max buffer (.invalidData (.notText cause)) rest
  /-- The octets are a text that has too many characters. -/
  | many {n : UInt32} {text : String} {rest : Bytes}
    (number : Varint.readU32 buffer = .ok n (Utf8.encode text ++ rest))
    (size : (Utf8.encode text).length = n.toNat) (within : n.toNat ≤ byteLimit max)
    (exceeds : max < text.length) :
    Refused max buffer (.sizeExceeded "string" text.length max) rest

theorem Accepted.read (accepted : Accepted max buffer text rest) :
    (string max).read buffer = .ok text rest := by
  obtain ⟨front, n, number, split, size, fits⟩ := accepted
  rw [List.append_assoc] at split
  rw [split]
  exact read_string_of_fits (number _) rfl size fits

theorem Refused.read (refused : Refused max buffer fault rest) :
    (string max).read buffer = .error fault rest := by
  cases refused with
  | numberless failed => exact Reader.bind_error (readLength_of_error failed)
  | above number exceeds => exact read_string_of_above number exceeds
  | short number within short => exact read_string_of_short number within short
  | notText number size within none refused =>
    exact read_string_of_notText number rfl size within refused
  | many number size within above => exact read_string_of_many number rfl size within above

/-- A run of octets is accepted or refused. -/
theorem accepted_or_refused (max : Nat) (buffer : Bytes) :
    (∃ text rest, Accepted max buffer text rest) ∨ ∃ fault rest, Refused max buffer fault rest := by
  rcases number : Varint.readU32 buffer with ⟨n, body⟩ | ⟨fault, rest⟩
  · by_cases above : byteLimit max < n.toNat
    · exact .inr ⟨_, _, .above number above⟩
    · have within : n.toNat ≤ byteLimit max := Nat.not_lt.mp above
      by_cases short : body.length < n.toNat
      · exact .inr ⟨_, _, .short number within short⟩
      · obtain ⟨octets, rest, rfl, size⟩ : ∃ octets rest, body = octets ++ rest ∧
            octets.length = n.toNat :=
          ⟨body.take n.toNat, body.drop n.toNat, (List.take_append_drop _ _).symm,
            List.length_take_of_le (Nat.not_lt.mp short)⟩
        rcases decoded : Utf8.decode octets with cause | text
        · have none (text : String) : octets ≠ Utf8.encode text := by
            rintro rfl
            rw [Utf8.decode_encode] at decoded
            cases decoded
          exact .inr ⟨_, _, .notText number size within none decoded⟩
        · obtain rfl := Utf8.decode_eq_ok_iff.mp decoded
          by_cases many : max < text.length
          · exact .inr ⟨_, _, .many number size within many⟩
          · obtain ⟨front, rfl, reads⟩ := Varint.reads_of_readU32 number
            exact .inl ⟨text, rest, front, n, reads, (List.append_assoc _ _ _).symm, size,
              Nat.not_lt.mp many⟩
  · exact .inr ⟨_, _, .numberless number⟩

/-- **A text field takes just the texts that have no more characters than it may**, each in the octets
in which it is written and behind any spelling of their number.  The limit in octets refuses none of
them.  All else is refused, with the fault that the first failing check says. -/
theorem read_string_iff (max : Nat) (buffer : Bytes) :
    (∀ text rest, (string max).read buffer = .ok text rest ↔
      ∃ front n, Varint.readU32.Reads front n ∧ buffer = front ++ Utf8.encode text ++ rest ∧
        (Utf8.encode text).length = n.toNat ∧ text.length ≤ max) ∧
    (∀ fault rest, (string max).read buffer = .error fault rest ↔
      Refused max buffer fault rest) ∧
    ∀ text (n : UInt32), (Utf8.encode text).length = n.toNat → text.length ≤ max →
      n.toNat ≤ byteLimit max := by
  refine ⟨fun text rest => ⟨fun read => ?_, Accepted.read⟩,
    fun fault rest => ⟨fun read => ?_, Refused.read⟩, fun text n => le_byteLimit⟩
  · rcases accepted_or_refused max buffer with ⟨_, _, accepted⟩ | ⟨_, _, refused⟩
    · have same := accepted.read
      rw [read] at same
      cases same
      exact accepted
    · have other := refused.read
      rw [read] at other
      cases other
  · rcases accepted_or_refused max buffer with ⟨_, _, accepted⟩ | ⟨_, _, refused⟩
    · have other := accepted.read
      rw [read] at other
      cases other
    · have same := refused.read
      rw [read] at same
      cases same
      exact refused

/-- A text of one character of two octets, behind a spelling of their number that is longer than it
needs to be. -/
theorem read_string_section_sign :
    (string 1).read [0x82, 0x00, 0xC2, 0xA7, 0x05] = .ok "§" [0x05] ∧
      (Utf8.encode "§").length = (2 : UInt32).toNat ∧ (2 : UInt32).toNat ≤ byteLimit 1 := by
  have spelled : Varint.readU32.Reads [0x82, 0x00] 2 := fun _ => rfl
  have taken := ((read_string_iff 1 [0x82, 0x00, 0xC2, 0xA7, 0x05]).1 "§" [0x05]).mpr
    ⟨_, _, spelled, by decide, by decide, by decide⟩
  exact ⟨taken, by decide, (read_string_iff 1 []).2.2 "§" 2 (by decide) (by decide)⟩

end Field

end GameTransport
