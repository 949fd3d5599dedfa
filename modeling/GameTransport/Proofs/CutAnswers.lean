import GameTransport.Proofs.LegacyAnswers

/-! # Answers that are cut off

The text of an answer to an old client is cut off behind 65535 units, and the cut counts units, not
characters.  A character of the basic plane is one unit, so the cut falls in front of it or behind it.
Any other character is two, and the cut can fall between them (`Utf16.CutsPair`).

Unless it does, the units are those of a prefix of the text (`Utf16.take_of_not_cutsPair`).  If it
does, they are those of a prefix and the first half of the next character (`Utf16.take_of_cutsPair`),
which are the units of no text.  The length of the answer is right either way.
-/

namespace GameTransport

namespace Utf16

variable {n : Nat} {cs : List Char}

/-- A first half alone is no character. -/
theorem decode?_half {half : UInt16} (high : isHigh half = true) : decode? [half] = none := by
  rw [decode?.eq_def]
  dsimp only
  rw [high]
  cases isLow half <;> rfl

/-- A cut behind `n` units falls between the two halves of a character. -/
def CutsPair (n : Nat) (cs : List Char) : Prop :=
  ∃ front c rest, cs = front ++ c :: rest ∧ (front.flatMap units).length + 1 = n ∧
    0x10000 ≤ c.toNat

theorem CutsPair.cons (c : Char) (cut : CutsPair n cs) :
    CutsPair ((units c).length + n) (c :: cs) := by
  obtain ⟨front, d, rest, rfl, place, above⟩ := cut
  refine ⟨c :: front, d, rest, rfl, ?_, above⟩
  rw [List.flatMap_cons, List.length_append]
  omega

/-- **A cut between two halves leaves the first of them behind whole characters.** -/
theorem take_of_cutsPair (cut : CutsPair n cs) : ∃ front half, front <+: cs ∧ isHigh half = true ∧
    (cs.flatMap units).take n = front.flatMap units ++ [half] := by
  obtain ⟨front, c, rest, rfl, rfl, above⟩ := cut
  obtain ⟨high, low, spelled, isHigh, -, -⟩ := exists_halves (Nat.not_lt.mpr above)
  refine ⟨front, high, List.prefix_append _ _, isHigh, ?_⟩
  rw [List.flatMap_append, List.flatMap_cons, spelled, List.take_length_add_append]
  rfl

/-- So what is left is no text. -/
theorem decode?_take_of_cutsPair (cut : CutsPair n cs) :
    decode? ((cs.flatMap units).take n) = none := by
  obtain ⟨front, half, -, high, taken⟩ := take_of_cutsPair cut
  rw [taken, decode?_flatMap_append, decode?_half high]
  rfl

/-- **Any other cut leaves whole characters.** -/
theorem take_of_not_cutsPair (whole : ¬ CutsPair n cs) :
    ∃ front, front <+: cs ∧ (cs.flatMap units).take n = front.flatMap units := by
  induction cs generalizing n with
  | nil => exact ⟨[], List.nil_prefix, List.take_nil⟩
  | cons c cs ih =>
    by_cases within : (units c).length ≤ n
    · obtain ⟨m, rfl⟩ := Nat.exists_eq_add_of_le within
      obtain ⟨front, leading, taken⟩ := ih fun cut => whole (cut.cons c)
      refine ⟨c :: front, List.cons_prefix_cons.mpr ⟨rfl, leading⟩, ?_⟩
      rw [List.flatMap_cons, List.take_length_add_append, taken, List.flatMap_cons]
    · -- The first character does not fit, so nothing does: one unit of it would be a cut pair.
      have none_taken : n = 0 := by
        by_cases basic : c.toNat < 0x10000
        · obtain ⟨unit, spelled, -, -, -⟩ := exists_unit basic
          rw [spelled, List.length_singleton] at within
          omega
        · obtain ⟨high, low, spelled, -, -, -⟩ := exists_halves basic
          have one : n ≠ 1 := fun one => whole ⟨[], c, cs, rfl, one.symm, Nat.not_lt.mp basic⟩
          rw [spelled, List.length_cons, List.length_singleton] at within
          omega
      exact ⟨[], List.nil_prefix, none_taken ▸ rfl⟩

/-- A cut behind whole characters parts none. -/
theorem not_cutsPair_of_isPrefix {front : List Char} (leading : front <+: cs)
    (place : (front.flatMap units).length = n) : ¬ CutsPair n cs := by
  rintro ⟨shorter, c, rest, rfl, short, above⟩
  rcases List.prefix_or_prefix_of_prefix leading (List.prefix_append shorter (c :: rest)) with
    ⟨others, rfl⟩ | ⟨others, rfl⟩
  · -- There are `n` units in front of `c` then, and not one less.
    rw [List.flatMap_append, List.length_append] at short
    omega
  · -- What `front` has more begins with `c`, which has two units where there is room for one.
    rw [List.prefix_append_right_inj] at leading
    rw [List.flatMap_append, List.length_append] at place
    obtain _ | ⟨d, others⟩ := others
    · rw [List.flatMap_nil, List.length_nil] at place
      omega
    · obtain ⟨rfl, -⟩ := List.cons_prefix_cons.mp leading
      obtain ⟨high, low, spelled, -, -, -⟩ := exists_halves (Nat.not_lt.mpr above)
      rw [List.flatMap_cons, spelled, List.length_append, List.length_cons, List.length_singleton]
        at place
      omega

theorem length_flatMap_replicate (count : Nat) (c : Char) :
    ((List.replicate count c).flatMap units).length = count * (units c).length := by
  rw [List.length_flatMap, List.map_replicate, List.sum_replicate_nat]

end Utf16

namespace LegacyPing

/-- The text about an empty server whose message is one character over and over, parted in front of
the last of them. -/
theorem Status.toList_text_replicate (protocol : Int32) (count : Nat) (c : Char) :
    (text ⟨protocol, "", String.ofList (List.replicate (count + 1) c), 0, 0⟩).toList =
      (['§', '1', '\x00'] ++ (toString protocol.toInt).toList ++ ['\x00', '\x00'] ++
        List.replicate count c) ++ c :: ['\x00', '0', '\x00', '0'] := by
  simp only [text, members, String.toList_intercalate, List.map]
  simp [List.intercalate, List.replicate_succ']

/-- With so many characters of two units each, it has to be cut off. -/
theorem Status.lt_length_encode_replicate (protocol : Int32) : 65535 <
    (Utf16.encode (text ⟨protocol, "", String.ofList (List.replicate 32765 '🎮'), 0, 0⟩)).length := by
  have pairs : ((List.replicate 32764 '🎮').flatMap Utf16.units).length = 65528 :=
    Utf16.length_flatMap_replicate 32764 '🎮'
  have opening : (['§', '1', '\x00'].flatMap Utf16.units).length = 3 := rfl
  have closing : (['🎮', '\x00', '0', '\x00', '0'].flatMap Utf16.units).length = 6 := rfl
  rw [Utf16.encode, toList_text_replicate]
  simp only [List.flatMap_append, List.length_append]
  omega

/-- **An answer that is cut off is well formed unless the cut parts a character.**  Its length is the
number of its units, which is the most that there can be, and the units are the first of the text.  They
are those of a prefix of the text unless the cut falls between two halves.  If it does, the first half
stands behind such a prefix and the units are those of no text. -/
theorem cut_answer_whole_unless_pair_cut {status : Status}
    (long : 65535 < (Utf16.encode status.text).length) :
    ∃ (high low : UInt8) (body : Bytes) (units : List UInt16),
      status.encode = 0xFF :: high :: low :: body ∧ Utf16.ofBytes? body = some units ∧
      body.length = 2 * units.length ∧ high.toNat * 256 + low.toNat = units.length ∧
      units.length = 65535 ∧ units <+: Utf16.encode status.text ∧
      (¬ Utf16.CutsPair 65535 status.text.toList → ∃ front, front <+: status.text.toList ∧
        Utf16.decode? units = some front) ∧
      (Utf16.CutsPair 65535 status.text.toList → Utf16.decode? units = none ∧
        ∃ front half, front <+: status.text.toList ∧ Utf16.isHigh half = true ∧
          units = front.flatMap Utf16.units ++ [half]) := by
  obtain ⟨high, low, encoded, value⟩ := status.exists_encode
  refine ⟨high, low, _, _, encoded, Utf16.ofBytes?_toBytes _, Utf16.length_toBytes _, value,
    List.length_take_of_le (Nat.le_of_lt long), List.take_prefix _ _, ?_, ?_⟩
  · intro whole
    obtain ⟨front, leading, taken⟩ := Utf16.take_of_not_cutsPair whole
    refine ⟨front, leading, ?_⟩
    exact (congrArg Utf16.decode? taken).trans (Utf16.decode?_flatMap front)
  · intro cut
    exact ⟨Utf16.decode?_take_of_cutsPair cut, Utf16.take_of_cutsPair cut⟩

/-- Here the cut falls in front of the last character of the message. -/
theorem cut_answer_whole_between_pairs :
    let status : Status := ⟨10, "", String.ofList (List.replicate 32765 '🎮'), 0, 0⟩
    65535 < (Utf16.encode status.text).length ∧ ∃ front, front <+: status.text.toList ∧
      (Utf16.ofBytes? (status.encode.drop 3)).bind Utf16.decode? = some front := by
  intro status
  have text := Status.toList_text_replicate 10 32764 '🎮'
  have long : 65535 < (Utf16.encode status.text).length := Status.lt_length_encode_replicate 10
  have whole : ¬ Utf16.CutsPair 65535 status.text.toList := by
    refine Utf16.not_cutsPair_of_isPrefix (text ▸ List.prefix_append _ _) ?_
    simp only [List.flatMap_append, List.length_append, Utf16.length_flatMap_replicate]
    decide
  obtain ⟨high, low, body, units, encoded, spelled, -, -, -, -, read, -⟩ :=
    cut_answer_whole_unless_pair_cut long
  obtain ⟨front, leading, decoded⟩ := read whole
  refine ⟨long, front, leading, ?_⟩
  rw [encoded, List.drop_succ_cons, List.drop_succ_cons, List.drop_succ_cons, List.drop_zero, spelled]
  exact decoded

/-- **A character is parted.**  Here the cut falls between the two halves of the last character of the
message, and what stands behind the length is the UTF-16 of no text. -/
theorem cut_answer_parts_pair :
    let status : Status := ⟨0, "", String.ofList (List.replicate 32765 '🎮'), 0, 0⟩
    65535 < (Utf16.encode status.text).length ∧
      (Utf16.ofBytes? (status.encode.drop 3)).bind Utf16.decode? = none ∧
      ∀ text : String, status.encode.drop 3 ≠ Utf16.toBytes (Utf16.encode text) := by
  intro status
  have text := Status.toList_text_replicate 0 32764 '🎮'
  have cut : Utf16.CutsPair 65535 status.text.toList := by
    refine ⟨_, _, _, text, ?_, by decide⟩
    simp only [List.flatMap_append, List.length_append, Utf16.length_flatMap_replicate]
    decide
  have unread : (Utf16.ofBytes? (status.encode.drop 3)).bind Utf16.decode? = none := by
    obtain ⟨high, low, encoded, -⟩ := status.exists_encode
    rw [encoded, List.drop_succ_cons, List.drop_succ_cons, List.drop_succ_cons, List.drop_zero,
      Utf16.ofBytes?_toBytes, Option.bind_some]
    exact Utf16.decode?_take_of_cutsPair cut
  refine ⟨Status.lt_length_encode_replicate 0, unread, fun text spelled => ?_⟩
  rw [spelled, Utf16.ofBytes?_toBytes, Option.bind_some, Utf16.decode?_encode] at unread
  cases unread

end LegacyPing

end GameTransport
