import GameTransport.Text.Utf8

/-! # Text that was written is read back

A character is written in one to four octets.  The first of them says how many, and the reader takes
them off again whatever stands after them (`step_encode`): it refuses no second octet that a writer
can write, since no character is written in more octets than it needs and none is a surrogate.  So a
text is read back character by character (`decode_encode`).

The same bounds, read the other way, say that the reader takes nothing else: the octets it takes for
a character are those in which the character is written (`eq_encodeChar_of_step`).  So a run of
octets is read just if it is a text as it is written (`decode_eq_ok_iff`).
-/

namespace GameTransport.Utf8

variable {c : Char} {lead b d e : UInt8} {rest after : Bytes} {n : Nat}

theorem toNat_octet (h : n < 256) : (UInt8.ofNat n).toNat = n := by
  rw [UInt8.toNat_ofNat']
  omega

/-- An octet that is not the first of its character. -/
def trail (n : Nat) : UInt8 := UInt8.ofNat (n % 64 + 128)

theorem toNat_trail (n : Nat) : (trail n).toNat = n % 64 + 128 := toNat_octet (by omega)

@[simp] theorem isTrail_trail (n : Nat) : isTrail (trail n) = true := by
  have : (trail n).toNat = n % 64 + 128 := toNat_trail n
  simp only [isTrail, Bool.and_eq_true, decide_eq_true_eq, UInt8.le_iff_toNat_le, this]
  change 128 ≤ n % 64 + 128 ∧ n % 64 + 128 ≤ 191
  omega

@[simp] theorem payload_trail (n : Nat) : payload (trail n) = n % 64 := by
  unfold payload
  rw [toNat_trail]
  omega

/-- The number of a character is no surrogate and not above the last. -/
theorem valid (c : Char) : c.toNat < 0xD800 ∨ 0xDFFF < c.toNat ∧ c.toNat < 0x110000 := c.valid

theorem octet_lt {bound : UInt8} (h : n < 256) : UInt8.ofNat n < bound ↔ n < bound.toNat := by
  rw [UInt8.lt_iff_toNat_lt, toNat_octet h]

theorem octet_beq {other : UInt8} (h : n < 256) :
    (UInt8.ofNat n == other) = decide (n = other.toNat) := by
  rw [Bool.eq_iff_iff, beq_iff_eq, decide_eq_true_iff, ← UInt8.toNat_inj, toNat_octet h]

theorem step_of_one (rest : Bytes) (h : n < 0x80) :
    step (UInt8.ofNat n) rest = .char (Char.ofNat n) rest := by
  have fits : n < 256 := by omega
  have one : UInt8.ofNat n < 0x80 := (octet_lt fits).mpr h
  unfold step
  rw [if_pos one, toNat_octet fits]

theorem step_of_two (rest : Bytes) (low : 0x80 ≤ n) (high : n < 0x800) :
    step (UInt8.ofNat (n / 64 + 0xC0)) (trail n :: rest) = .char (Char.ofNat n) rest := by
  have fits : n / 64 + 0xC0 < 256 := by omega
  have not_one : ¬ UInt8.ofNat (n / 64 + 0xC0) < 0x80 := by
    rw [octet_lt fits]
    change ¬ n / 64 + 0xC0 < 0x80
    omega
  have not_overlong : ¬ UInt8.ofNat (n / 64 + 0xC0) < 0xC2 := by
    rw [octet_lt fits]
    change ¬ n / 64 + 0xC0 < 0xC2
    omega
  have two : UInt8.ofNat (n / 64 + 0xC0) < 0xE0 := by
    rw [octet_lt fits]
    change n / 64 + 0xC0 < 0xE0
    omega
  unfold step
  rw [if_neg not_one, if_neg not_overlong, if_pos two]
  dsimp only
  rw [if_pos (isTrail_trail n), toNat_octet fits, payload_trail,
    show (n / 64 + 0xC0 - 0xC0) * 64 + n % 64 = n by omega]

/-- The second octet of three says neither that two were enough nor that it is a surrogate. -/
theorem isSecondOfThree_trail (low : 0x800 ≤ n) (valid : n < 0xD800 ∨ 0xDFFF < n)
    (high : n < 0x10000) :
    isSecondOfThree (UInt8.ofNat (n / 4096 + 0xE0)) (trail (n / 64)) = true := by
  have fits : n / 4096 + 0xE0 < 256 := by omega
  unfold isSecondOfThree
  rw [octet_beq fits, octet_beq fits]
  split
  · -- With the least first octet, only numbers that need three octets are left.
    rename_i least
    have : n / 4096 + 0xE0 = 0xE0 := of_decide_eq_true least
    simp only [Bool.and_eq_true, decide_eq_true_eq, UInt8.le_iff_toNat_le, toNat_trail]
    change 0xA0 ≤ n / 64 % 64 + 128 ∧ n / 64 % 64 + 128 ≤ 0xBF
    omega
  · split
    · -- With this one, only numbers below the surrogates.
      rename_i surrogate
      have : n / 4096 + 0xE0 = 0xED := of_decide_eq_true surrogate
      simp only [Bool.and_eq_true, decide_eq_true_eq, UInt8.le_iff_toNat_le, toNat_trail]
      change 0x80 ≤ n / 64 % 64 + 128 ∧ n / 64 % 64 + 128 ≤ 0x9F
      omega
    · exact isTrail_trail _

theorem step_of_three (rest : Bytes) (low : 0x800 ≤ n) (valid : n < 0xD800 ∨ 0xDFFF < n)
    (high : n < 0x10000) :
    step (UInt8.ofNat (n / 4096 + 0xE0)) (trail (n / 64) :: trail n :: rest) =
      .char (Char.ofNat n) rest := by
  have fits : n / 4096 + 0xE0 < 256 := by omega
  have not_two : ∀ bound : UInt8, bound.toNat ≤ 0xE0 →
      ¬ UInt8.ofNat (n / 4096 + 0xE0) < bound := by
    intro bound least
    rw [octet_lt fits]
    omega
  have three : UInt8.ofNat (n / 4096 + 0xE0) < 0xF0 := by
    rw [octet_lt fits]
    change n / 4096 + 0xE0 < 0xF0
    omega
  unfold step
  rw [if_neg (not_two _ (by decide)), if_neg (not_two _ (by decide)),
    if_neg (not_two _ (by decide)), if_pos three]
  dsimp only
  rw [isSecondOfThree_trail low valid high, if_neg (by decide), if_pos (isTrail_trail n),
    toNat_octet fits, payload_trail, payload_trail,
    show ((n / 4096 + 0xE0 - 0xE0) * 64 + n / 64 % 64) * 64 + n % 64 = n by omega]

/-- The second octet of four says neither that three were enough nor that the number is too large. -/
theorem isSecondOfFour_trail (low : 0x10000 ≤ n) (high : n < 0x110000) :
    isSecondOfFour (UInt8.ofNat (n / 262144 + 0xF0)) (trail (n / 4096)) = true := by
  have fits : n / 262144 + 0xF0 < 256 := by omega
  unfold isSecondOfFour
  rw [octet_beq fits, octet_beq fits]
  split
  · rename_i least
    have : n / 262144 + 0xF0 = 0xF0 := of_decide_eq_true least
    simp only [Bool.and_eq_true, decide_eq_true_eq, UInt8.le_iff_toNat_le, toNat_trail]
    change 0x90 ≤ n / 4096 % 64 + 128 ∧ n / 4096 % 64 + 128 ≤ 0xBF
    omega
  · split
    · rename_i greatest
      have : n / 262144 + 0xF0 = 0xF4 := of_decide_eq_true greatest
      simp only [Bool.and_eq_true, decide_eq_true_eq, UInt8.le_iff_toNat_le, toNat_trail]
      change 0x80 ≤ n / 4096 % 64 + 128 ∧ n / 4096 % 64 + 128 ≤ 0x8F
      omega
    · exact isTrail_trail _

theorem step_of_four (rest : Bytes) (low : 0x10000 ≤ n) (high : n < 0x110000) :
    step (UInt8.ofNat (n / 262144 + 0xF0))
        (trail (n / 4096) :: trail (n / 64) :: trail n :: rest) =
      .char (Char.ofNat n) rest := by
  have fits : n / 262144 + 0xF0 < 256 := by omega
  have not_three : ∀ bound : UInt8, bound.toNat ≤ 0xF0 →
      ¬ UInt8.ofNat (n / 262144 + 0xF0) < bound := by
    intro bound least
    rw [octet_lt fits]
    omega
  have four : UInt8.ofNat (n / 262144 + 0xF0) < 0xF5 := by
    rw [octet_lt fits]
    change n / 262144 + 0xF0 < 0xF5
    omega
  unfold step
  rw [if_neg (not_three _ (by decide)), if_neg (not_three _ (by decide)),
    if_neg (not_three _ (by decide)), if_neg (not_three _ (by decide)), if_pos four]
  dsimp only
  rw [isSecondOfFour_trail low high, if_neg (by decide), isTrail_trail, if_neg (by decide),
    if_pos (isTrail_trail n), toNat_octet fits, payload_trail, payload_trail, payload_trail,
    show (((n / 262144 + 0xF0 - 0xF0) * 64 + n / 4096 % 64) * 64 + n / 64 % 64) * 64 + n % 64 = n by
      omega]

/-! ### Characters are taken off the front -/

theorem toNat_ofNat_of_valid (valid : n < 0xD800 ∨ 0xDFFF < n ∧ n < 0x110000) :
    (Char.ofNat n).toNat = n := by
  unfold Char.ofNat
  rw [dif_pos valid]
  exact UInt32.toNat_ofNatLT

theorem encodeChar_of_one (h : n < 0x80) :
    String.utf8EncodeChar (Char.ofNat n) = [UInt8.ofNat n] := by
  have number : (Char.ofNat n).val.toNat = n := toNat_ofNat_of_valid (by omega)
  unfold String.utf8EncodeChar
  rw [number]
  dsimp only
  rw [if_pos (by omega)]

theorem encodeChar_of_two (low : 0x80 ≤ n) (high : n < 0x800) :
    String.utf8EncodeChar (Char.ofNat n) = [UInt8.ofNat (n / 64 + 0xC0), trail n] := by
  have number : (Char.ofNat n).val.toNat = n := toNat_ofNat_of_valid (by omega)
  unfold String.utf8EncodeChar
  rw [number]
  dsimp only
  rw [if_neg (by omega), if_pos (by omega), show n / 64 % 0x20 = n / 64 by omega]
  rfl

theorem encodeChar_of_three (low : 0x800 ≤ n) (valid : n < 0xD800 ∨ 0xDFFF < n)
    (high : n < 0x10000) :
    String.utf8EncodeChar (Char.ofNat n) =
      [UInt8.ofNat (n / 4096 + 0xE0), trail (n / 64), trail n] := by
  have number : (Char.ofNat n).val.toNat = n := toNat_ofNat_of_valid (by omega)
  unfold String.utf8EncodeChar
  rw [number]
  dsimp only
  rw [if_neg (by omega), if_neg (by omega), if_pos (by omega),
    show n / 4096 % 0x10 = n / 4096 by omega]
  rfl

theorem encodeChar_of_four (low : 0x10000 ≤ n) (high : n < 0x110000) :
    String.utf8EncodeChar (Char.ofNat n) =
      [UInt8.ofNat (n / 262144 + 0xF0), trail (n / 4096), trail (n / 64), trail n] := by
  have number : (Char.ofNat n).val.toNat = n := toNat_ofNat_of_valid (by omega)
  unfold String.utf8EncodeChar
  rw [number]
  dsimp only
  rw [if_neg (by omega), if_neg (by omega), if_neg (by omega),
    show n / 262144 % 0x08 = n / 262144 by omega]
  rfl

/-- **A character is taken off the front again.** -/
theorem step_encode (c : Char) (rest : Bytes) :
    ∃ lead tail, String.utf8EncodeChar c = lead :: tail ∧
      step lead (tail ++ rest) = .char c rest := by
  have bounds := valid c
  rw [← Char.ofNat_toNat c]
  by_cases one : c.toNat < 0x80
  · exact ⟨_, _, encodeChar_of_one one, step_of_one rest one⟩
  · by_cases two : c.toNat < 0x800
    · exact ⟨_, _, encodeChar_of_two (by omega) two, step_of_two rest (by omega) two⟩
    · by_cases three : c.toNat < 0x10000
      · exact ⟨_, _, encodeChar_of_three (by omega) (by omega) three,
          step_of_three rest (by omega) (by omega) three⟩
      · exact ⟨_, _, encodeChar_of_four (by omega) (by omega),
          step_of_four rest (by omega) (by omega)⟩

theorem decodeFrom_cons {index : Nat} {done : List Char}
    (h : step lead rest = .char c after) :
    decodeFrom index done (lead :: rest) = decodeFrom (index + c.utf8Size) (c :: done) after := by
  rw [decodeFrom]
  split
  · rename_i other
    rw [h] at other
    cases other
    rfl
  · rename_i other
    rw [h] at other
    cases other
  · rename_i other
    rw [h] at other
    cases other

theorem decodeFrom_encode (index : Nat) (done chars : List Char) :
    decodeFrom index done (chars.flatMap String.utf8EncodeChar) = .ok (done.reverse ++ chars) := by
  induction chars generalizing index done with
  | nil =>
    rw [List.flatMap_nil, decodeFrom, List.append_nil]
  | cons c chars ih =>
    obtain ⟨lead, tail, written, stepped⟩ :=
      step_encode c (chars.flatMap String.utf8EncodeChar)
    rw [List.flatMap_cons, written, List.cons_append, decodeFrom_cons stepped, ih,
      List.reverse_cons, List.append_assoc, List.singleton_append]

/-- **A text that was written is read back.** -/
theorem decode_encode (text : String) : decode (encode text) = .ok text := by
  unfold decode encode
  rw [decodeFrom_encode]
  exact congrArg Except.ok (String.ofList_toList)

/-! ### Octets that are read are a text as it is written -/

theorem isTrail_iff : isTrail b = true ↔ 0x80 ≤ b.toNat ∧ b.toNat ≤ 0xBF := by
  rw [isTrail, Bool.and_eq_true, decide_eq_true_eq, decide_eq_true_eq, UInt8.le_iff_toNat_le,
    UInt8.le_iff_toNat_le]
  rfl

theorem trail_eq (trailing : isTrail b = true) (same : n % 64 = payload b) : trail n = b := by
  have bounds := isTrail_iff.mp trailing
  unfold payload at same
  rw [← UInt8.toNat_inj, toNat_trail]
  omega

/-- The second octet of three keeps the number from being overlong and from being a surrogate. -/
theorem bounds_of_isSecondOfThree (second : isSecondOfThree lead b = true) :
    isTrail b = true ∧ (lead.toNat = 0xE0 → 0xA0 ≤ b.toNat) ∧
      (lead.toNat = 0xED → b.toNat ≤ 0x9F) := by
  rw [isTrail_iff]
  unfold isSecondOfThree at second
  split at second
  · rename_i least
    have : lead.toNat = 0xE0 := by rw [eq_of_beq least]; rfl
    simp only [Bool.and_eq_true, decide_eq_true_eq, UInt8.le_iff_toNat_le] at second
    change 0xA0 ≤ b.toNat ∧ b.toNat ≤ 0xBF at second
    omega
  · rename_i not_least
    have : lead.toNat ≠ 0xE0 := fun same => not_least (beq_iff_eq.mpr (UInt8.toNat_inj.mp same))
    split at second
    · simp only [Bool.and_eq_true, decide_eq_true_eq, UInt8.le_iff_toNat_le] at second
      change 0x80 ≤ b.toNat ∧ b.toNat ≤ 0x9F at second
      omega
    · rename_i other
      have : lead.toNat ≠ 0xED := fun same => other (beq_iff_eq.mpr (UInt8.toNat_inj.mp same))
      have := isTrail_iff.mp second
      omega

/-- The second octet of four keeps the number from being overlong and from being too large. -/
theorem bounds_of_isSecondOfFour (second : isSecondOfFour lead b = true) :
    isTrail b = true ∧ (lead.toNat = 0xF0 → 0x90 ≤ b.toNat) ∧
      (lead.toNat = 0xF4 → b.toNat ≤ 0x8F) := by
  rw [isTrail_iff]
  unfold isSecondOfFour at second
  split at second
  · rename_i least
    have : lead.toNat = 0xF0 := by rw [eq_of_beq least]; rfl
    simp only [Bool.and_eq_true, decide_eq_true_eq, UInt8.le_iff_toNat_le] at second
    change 0x90 ≤ b.toNat ∧ b.toNat ≤ 0xBF at second
    omega
  · rename_i not_least
    have : lead.toNat ≠ 0xF0 := fun same => not_least (beq_iff_eq.mpr (UInt8.toNat_inj.mp same))
    split at second
    · simp only [Bool.and_eq_true, decide_eq_true_eq, UInt8.le_iff_toNat_le] at second
      change 0x80 ≤ b.toNat ∧ b.toNat ≤ 0x8F at second
      omega
    · rename_i other
      have : lead.toNat ≠ 0xF4 := fun same => other (beq_iff_eq.mpr (UInt8.toNat_inj.mp same))
      have := isTrail_iff.mp second
      omega

/-- The octets of a character are those that its number is written in. -/
theorem encodeChar_spelled_one (lead : UInt8) (one : lead < 0x80) :
    String.utf8EncodeChar (Char.ofNat lead.toNat) = [lead] := by
  rw [encodeChar_of_one (UInt8.lt_iff_toNat_lt.mp one), UInt8.ofNat_toNat]

theorem encodeChar_spelled_two (least : ¬ lead < 0xC2) (two : lead < 0xE0)
    (trailing : isTrail b = true) :
    String.utf8EncodeChar (Char.ofNat ((lead.toNat - 0xC0) * 64 + payload b)) = [lead, b] := by
  rw [UInt8.lt_iff_toNat_lt] at least two
  change ¬ lead.toNat < 0xC2 at least
  change lead.toNat < 0xE0 at two
  have bound : payload b < 64 := Nat.mod_lt _ (by decide)
  have front : ((lead.toNat - 0xC0) * 64 + payload b) / 64 + 0xC0 = lead.toNat := by omega
  rw [encodeChar_of_two (by omega) (by omega), front, UInt8.ofNat_toNat,
    trail_eq trailing (by omega)]

theorem encodeChar_spelled_three (least : ¬ lead < 0xE0) (three : lead < 0xF0)
    (second : isSecondOfThree lead b = true) (trailing : isTrail d = true) :
    String.utf8EncodeChar (Char.ofNat (((lead.toNat - 0xE0) * 64 + payload b) * 64 + payload d)) =
      [lead, b, d] := by
  rw [UInt8.lt_iff_toNat_lt] at least three
  change ¬ lead.toNat < 0xE0 at least
  change lead.toNat < 0xF0 at three
  obtain ⟨trailing_b, low, high⟩ := bounds_of_isSecondOfThree second
  have within := isTrail_iff.mp trailing_b
  have payload_b : payload b = b.toNat % 64 := rfl
  have bound : payload d < 64 := Nat.mod_lt _ (by decide)
  have front : (((lead.toNat - 0xE0) * 64 + payload b) * 64 + payload d) / 4096 + 0xE0 =
    lead.toNat := by omega
  rw [encodeChar_of_three (by omega) (by omega) (by omega), front, UInt8.ofNat_toNat,
    trail_eq trailing_b (by omega), trail_eq trailing (by omega)]

theorem encodeChar_spelled_four (least : ¬ lead < 0xF0) (four : lead < 0xF5)
    (second : isSecondOfFour lead b = true) (trailing_d : isTrail d = true)
    (trailing_e : isTrail e = true) :
    String.utf8EncodeChar (Char.ofNat
        ((((lead.toNat - 0xF0) * 64 + payload b) * 64 + payload d) * 64 + payload e)) =
      [lead, b, d, e] := by
  rw [UInt8.lt_iff_toNat_lt] at least four
  change ¬ lead.toNat < 0xF0 at least
  change lead.toNat < 0xF5 at four
  obtain ⟨trailing_b, low, high⟩ := bounds_of_isSecondOfFour second
  have within := isTrail_iff.mp trailing_b
  have payload_b : payload b = b.toNat % 64 := rfl
  have bound_d : payload d < 64 := Nat.mod_lt _ (by decide)
  have bound_e : payload e < 64 := Nat.mod_lt _ (by decide)
  have front : ((((lead.toNat - 0xF0) * 64 + payload b) * 64 + payload d) * 64 + payload e) /
    262144 + 0xF0 = lead.toNat := by omega
  rw [encodeChar_of_four (by omega) (by omega), front, UInt8.ofNat_toNat,
    trail_eq trailing_b (by omega), trail_eq trailing_d (by omega), trail_eq trailing_e (by omega)]

/-- **What is taken off is the character as it is written.** -/
theorem eq_encodeChar_of_step (taken : step lead rest = .char c after) :
    lead :: rest = String.utf8EncodeChar c ++ after := by
  unfold step at taken
  repeat' split at taken
  all_goals cases taken
  · rw [encodeChar_spelled_one lead ‹_›]
    rfl
  · rw [encodeChar_spelled_two ‹¬ lead < 0xC2› ‹_› ‹_›]
    rfl
  · rw [encodeChar_spelled_three ‹¬ lead < 0xE0› ‹_›
      (by simpa using ‹¬ (!isSecondOfThree _ _) = true›) ‹_›]
    rfl
  · rw [encodeChar_spelled_four ‹¬ lead < 0xF0› ‹_›
      (by simpa using ‹¬ (!isSecondOfFour _ _) = true›) (by simpa using ‹¬ (!isTrail _) = true›) ‹_›]
    rfl

theorem of_decodeFrom_ok {index : Nat} {done chars : List Char} {bytes : Bytes}
    (decoded : decodeFrom index done bytes = .ok chars) :
    ∃ more, chars = done.reverse ++ more ∧ bytes = more.flatMap String.utf8EncodeChar := by
  fun_induction decodeFrom index done bytes with
  | case1 index done =>
    cases decoded
    exact ⟨[], (List.append_nil _).symm, rfl⟩
  | case2 index done lead rest c after stepped ih =>
    obtain ⟨more, rfl, rfl⟩ := ih decoded
    refine ⟨c :: more, ?_, eq_encodeChar_of_step stepped⟩
    rw [List.reverse_cons, List.append_assoc, List.singleton_append]
  | case3 => cases decoded
  | case4 => cases decoded

/-- **Octets are read as a text if and only if they are the text as it is written.** -/
theorem decode_eq_ok_iff {bytes : Bytes} {text : String} :
    decode bytes = .ok text ↔ bytes = encode text := by
  constructor
  · intro decoded
    unfold decode at decoded
    rcases chars : decodeFrom 0 [] bytes with fault | chars <;> rw [chars] at decoded
    · cases decoded
    · cases decoded
      obtain ⟨more, rfl, written⟩ := of_decodeFrom_ok ‹_›
      rw [written, encode]
      simp
  · rintro rfl
    exact decode_encode text

/-! ### Sizes -/

/-- A character takes at most four octets. -/
theorem length_encode_le (text : String) : (encode text).length ≤ 4 * text.length := by
  have chars (l : List Char) : (l.flatMap String.utf8EncodeChar).length ≤ 4 * l.length := by
    induction l with
    | nil => exact Nat.zero_le _
    | cons c l ih =>
      have := c.utf8Size_le_four
      rw [List.flatMap_cons, List.length_append, String.length_utf8EncodeChar, List.length_cons]
      omega
  exact chars text.toList

end GameTransport.Utf8
