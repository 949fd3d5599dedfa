import GameTransport.LegacyPing
import GameTransport.Proofs.Documents
import GameTransport.Text.Numeral

/-! # What an old client reads

An old client knows nothing of the server but the octets of one answer.  It takes the octets two by two
for units (`Utf16.ofBytes?`), joins the halves of characters (`Utf16.decode?`), parts the text at each
NUL and finds six fields (`LegacyPing.fields?`), of which three are numbers.

Units are what they were encoded from (`Utf16.decode?_encode`), and a decimal is the number that it was
written for (`Numeral.int?_toString`).  So a status is read back from its answer if nothing had to be
cut off and no text in it holds a NUL (`LegacyPing.answer_read_back`).
-/

namespace GameTransport

/-! ## Units -/

namespace Utf16

/-- The first half of a character outside the basic plane. -/
def isHigh (unit : UInt16) : Bool := 0xD800 ≤ unit.toNat && unit.toNat < 0xDC00

/-- The second half of such a character. -/
def isLow (unit : UInt16) : Bool := 0xDC00 ≤ unit.toNat && unit.toNat < 0xE000

/-- The character that two halves make. -/
def join (high low : UInt16) : Char :=
  Char.ofNat (0x10000 + (high.toNat - 0xD800) * 1024 + (low.toNat - 0xDC00))

/-- The characters that units stand for, if each half is followed or preceded by its other half. -/
def decode? : List UInt16 → Option (List Char)
  | [] => some []
  | unit :: rest =>
    if isLow unit then none
    else if isHigh unit then
      match rest with
      | low :: rest => if isLow low then (decode? rest).map (join unit low :: ·) else none
      | [] => none
    else (decode? rest).map (Char.ofNat unit.toNat :: ·)

theorem decode?_cons_of_basic {unit : UInt16} {rest : List UInt16} (low : isLow unit = false)
    (high : isHigh unit = false) :
    decode? (unit :: rest) = (decode? rest).map (Char.ofNat unit.toNat :: ·) := by
  rw [decode?.eq_def]
  dsimp only
  rw [low, high]
  rfl

theorem decode?_cons_cons {unit low : UInt16} {rest : List UInt16} (high : isHigh unit = true)
    (isLow : isLow low = true) :
    decode? (unit :: low :: rest) = (decode? rest).map (join unit low :: ·) := by
  have other : Utf16.isLow unit = false := by
    simp only [isHigh, Bool.and_eq_true, decide_eq_true_eq] at high
    simp only [Utf16.isLow, Bool.and_eq_false_iff, decide_eq_false_iff_not]
    omega
  rw [decode?.eq_def]
  dsimp only
  rw [other, high, isLow]
  rfl

/-- The units that octets are, two each and the high octet first. -/
def ofBytes? : Bytes → Option (List UInt16)
  | [] => some []
  | [_] => none
  | high :: low :: rest =>
    (ofBytes? rest).map (UInt16.ofNat (high.toNat * 256 + low.toNat) :: ·)

/-- A number of two octets, the high one first. -/
theorem exists_octets {n : Nat} (small : n < 65536) :
    ∃ high low : UInt8, Bytes.ofNat 2 n = [high, low] ∧ high.toNat * 256 + low.toNat = n := by
  refine ⟨UInt8.ofNat (n / 256), UInt8.ofNat n, rfl, ?_⟩
  rw [UInt8.toNat_ofNat', UInt8.toNat_ofNat']
  omega

theorem length_toBytes (units : List UInt16) : (toBytes units).length = 2 * units.length := by
  induction units with
  | nil => rfl
  | cons unit units ih =>
    have one : toBytes (unit :: units) = Bytes.ofNat 2 unit.toNat ++ toBytes units := rfl
    rw [one, List.length_append, Bytes.length_ofNat, ih, List.length_cons]
    omega

theorem ofBytes?_toBytes (units : List UInt16) : ofBytes? (toBytes units) = some units := by
  induction units with
  | nil => rfl
  | cons unit units ih =>
    obtain ⟨high, low, octets, value⟩ := exists_octets unit.toNat_lt
    have one : toBytes (unit :: units) = Bytes.ofNat 2 unit.toNat ++ toBytes units := rfl
    rw [one, octets]
    simp only [List.cons_append, List.nil_append, ofBytes?]
    rw [ih, value, UInt16.ofNat_toNat]
    rfl

/-- A character of the basic plane is a unit that is no half. -/
theorem exists_unit {c : Char} (basic : c.toNat < 0x10000) : ∃ unit, units c = [unit] ∧
    isLow unit = false ∧ isHigh unit = false ∧ Char.ofNat unit.toNat = c := by
  have scalar : c.toNat < 0xD800 ∨ 0xDFFF < c.toNat ∧ c.toNat < 0x110000 := c.valid
  have value : (UInt16.ofNat c.toNat).toNat = c.toNat := UInt16.toNat_ofNat_of_lt' basic
  refine ⟨UInt16.ofNat c.toNat, if_pos basic, ?_, ?_, ?_⟩
  · simp only [isLow, value, Bool.and_eq_false_iff, decide_eq_false_iff_not]
    omega
  · simp only [isHigh, value, Bool.and_eq_false_iff, decide_eq_false_iff_not]
    omega
  · rw [value, Char.ofNat_toNat]

/-- Any other is two halves. -/
theorem exists_halves {c : Char} (above : ¬ c.toNat < 0x10000) : ∃ high low, units c = [high, low] ∧
    isHigh high = true ∧ isLow low = true ∧ join high low = c := by
  have scalar : c.toNat < 0xD800 ∨ 0xDFFF < c.toNat ∧ c.toNat < 0x110000 := c.valid
  obtain ⟨n, sum⟩ : ∃ n, c.toNat = 0x10000 + n := Nat.exists_eq_add_of_le (Nat.le_of_not_lt above)
  have first : (UInt16.ofNat (0xD800 + n / 1024)).toNat = 0xD800 + n / 1024 :=
    UInt16.toNat_ofNat_of_lt' (by simp only [UInt16.size]; omega)
  have second : (UInt16.ofNat (0xDC00 + n % 1024)).toNat = 0xDC00 + n % 1024 :=
    UInt16.toNat_ofNat_of_lt' (by simp only [UInt16.size]; omega)
  refine ⟨UInt16.ofNat (0xD800 + n / 1024), UInt16.ofNat (0xDC00 + n % 1024), ?_, ?_, ?_, ?_⟩
  · unfold units
    dsimp only
    rw [if_neg above, sum, Nat.add_sub_cancel_left]
  · simp only [isHigh, first, Bool.and_eq_true, decide_eq_true_eq]
    omega
  · simp only [isLow, second, Bool.and_eq_true, decide_eq_true_eq]
    omega
  · have value : 0x10000 + (0xD800 + n / 1024 - 0xD800) * 1024 +
        (0xDC00 + n % 1024 - 0xDC00) = c.toNat := by omega
    rw [join, first, second, value, Char.ofNat_toNat]

/-- A character is what its units stand for, whatever stands behind them. -/
theorem decode?_units_append (c : Char) (rest : List UInt16) :
    decode? (units c ++ rest) = (decode? rest).map (c :: ·) := by
  by_cases basic : c.toNat < 0x10000
  · obtain ⟨unit, spelled, low, high, value⟩ := exists_unit basic
    rw [spelled, List.singleton_append, decode?_cons_of_basic low high, value]
  · obtain ⟨high, low, spelled, isHigh, isLow, joined⟩ := exists_halves basic
    rw [spelled, List.cons_append, List.singleton_append, decode?_cons_cons isHigh isLow, joined]

/-- So are the units of several, in front of any others. -/
theorem decode?_flatMap_append (cs : List Char) (more : List UInt16) :
    decode? (cs.flatMap units ++ more) = (decode? more).map (cs ++ ·) := by
  induction cs with
  | nil => exact Option.map_id'.symm
  | cons c cs ih =>
    rw [List.flatMap_cons, List.append_assoc, decode?_units_append, ih, Option.map_map]
    rfl

theorem decode?_flatMap (cs : List Char) : decode? (cs.flatMap units) = some cs := by
  have read := decode?_flatMap_append cs []
  rw [List.append_nil] at read
  rw [read, decode?, Option.map_some, List.append_nil]

theorem decode?_encode (text : String) : decode? (encode text) = some text.toList :=
  decode?_flatMap text.toList

end Utf16

/-! ## Decimals -/

open Json.Token (isDigit_of_mem_decimal)

namespace Numeral

theorem digits?_eq_some {cs : List Char} (some : cs ≠ []) (all : ∀ c ∈ cs, c.isDigit) :
    digits? cs = .some (Nat.ofDigitChars 10 cs 0) := by
  have folds (n : Nat) : cs.foldlM
      (fun n c => if c.isDigit then Option.some (n * 10 + (c.toNat - '0'.toNat)) else none) n =
        .some (Nat.ofDigitChars 10 cs n) := by
    clear some
    induction cs generalizing n with
    | nil => rfl
    | cons c cs ih =>
      obtain ⟨digit, digits⟩ := List.forall_mem_cons.mp all
      rw [List.foldlM_cons, if_pos digit, Nat.ofDigitChars_cons, Nat.mul_comm]
      exact ih digits _
  obtain ⟨c, rest, rfl⟩ := List.exists_cons_of_ne_nil some
  exact folds 0

theorem digits?_toDigits (n : Nat) : digits? (Nat.toDigits 10 n) = some n := by
  rw [digits?_eq_some Nat.toDigits_ne_nil fun c => isDigit_of_mem_decimal,
    Nat.ofDigitChars_ten_toDigits]

/-- A decimal has no sign. -/
theorem nat?_toDigits (n : Nat) : nat? (Nat.toDigits 10 n) = some n := by
  unfold nat?
  split
  · rename_i rest sign
    cases isDigit_of_mem_decimal (sign ▸ List.mem_cons_self : '+' ∈ Nat.toDigits 10 n)
  · exact digits?_toDigits n

/-- **An integer that is written is read back.** -/
theorem int?_toString (n : Int) : int? (toString n).toList = some n := by
  rw [Json.Token.toList_toString_int]
  by_cases natural : 0 ≤ n
  · rw [if_pos natural]
    unfold int?
    split
    · rename_i rest sign
      cases isDigit_of_mem_decimal (sign ▸ List.mem_cons_self : '-' ∈ Nat.toDigits 10 n.toNat)
    · rw [nat?_toDigits]
      exact congrArg some (Int.toNat_of_nonneg natural)
  · have value : -((-n).toNat : Int) = n := by omega
    rw [if_neg natural, int?, digits?_toDigits]
    exact congrArg some value

theorem i32?_toString (n : Int32) : i32? (toString n.toInt).toList = some n := by
  have least : Int32.minValue.toInt ≤ n.toInt := Int32.minValue_le_toInt n
  have most : n.toInt ≤ Int32.maxValue.toInt := Int32.toInt_le n
  rw [i32?, int?_toString, Option.filter_some, decide_eq_true least, decide_eq_true most,
    Bool.true_and, if_pos rfl, Option.map_some, Int32.ofInt_toInt]

theorem u64?_toString (n : UInt64) : u64? (toString n.toNat).toList = some n := by
  have small : n.toNat < UInt64.size := n.toNat_lt
  have decimal : (toString n.toNat).toList = Nat.toDigits 10 n.toNat := Nat.toList_repr
  rw [decimal, u64?, below?, nat?_toDigits, Option.filter_some, decide_eq_true small, if_pos rfl,
    Option.map_some, UInt64.ofNat_toNat]

end Numeral

/-! ## Fields -/

namespace LegacyPing

/-- The fields of an answer, if it is as long as it tells: what its units say, parted at each NUL. -/
def fields? : Bytes → Option (List String)
  | first :: high :: low :: body =>
    if first = answer ∧ body.length = 2 * (high.toNat * 256 + low.toNat) then do
      let units ← Utf16.ofBytes? body
      let cs ← Utf16.decode? units
      return (cs.splitOn '\x00').map String.ofList
    else none
  | _ => none

/-- What an answer tells about the server. -/
def Status.ofAnswer? (octets : Bytes) : Option Status := do
  let [mark, protocol, version, motd, online, max] ← fields? octets | none
  guard (mark = "§1")
  let protocol ← Numeral.i32? protocol.toList
  let online ← Numeral.u64? online.toList
  let max ← Numeral.u64? max.toList
  return { protocol, version, motd, online, max }

namespace Status

variable {status : Status}

/-- No field but a text can hold a NUL. -/
theorem clear_members (version : '\x00' ∉ status.version.toList)
    (motd : '\x00' ∉ status.motd.toList) : ∀ member ∈ status.members, '\x00' ∉ member.toList := by
  have natural (n : Nat) : '\x00' ∉ (toString n).toList := by
    intro among
    rw [Nat.toString_eq_repr, Nat.toList_repr] at among
    cases isDigit_of_mem_decimal among
  have integer (n : Int) : '\x00' ∉ (toString n).toList := by
    intro among
    rw [Json.Token.toList_toString_int] at among
    split at among
    · cases isDigit_of_mem_decimal among
    · rcases List.mem_cons.mp among with sign | among
      · cases sign
      · cases isDigit_of_mem_decimal among
  simp only [members, List.forall_mem_cons]
  exact ⟨by decide, integer _, version, motd, natural _, natural _, nofun⟩

/-- The members are what the text is parted into. -/
theorem splitOn_text (clear : ∀ member ∈ status.members, '\x00' ∉ member.toList) :
    (status.text.toList.splitOn '\x00').map String.ofList = status.members := by
  have clear' : ∀ part ∈ status.members.map String.toList, '\x00' ∉ part := by
    intro part among
    obtain ⟨member, among', rfl⟩ := List.mem_map.mp among
    exact clear member among'
  have parted : status.text.toList.splitOn '\x00' = status.members.map String.toList := by
    rw [text, String.toList_intercalate]
    exact List.splitOn_intercalate _ clear' (List.cons_ne_nil _ _)
  rw [parted, List.map_map]
  simp [Function.comp_def]

/-- The answer: the units that are left of the text, and their number in front. -/
theorem exists_encode (status : Status) : ∃ high low : UInt8,
    status.encode = answer :: high :: low ::
        Utf16.toBytes ((Utf16.encode status.text).take maxUnits) ∧
      high.toNat * 256 + low.toNat = ((Utf16.encode status.text).take maxUnits).length := by
  obtain ⟨high, low, octets, value⟩ := Utf16.exists_octets
    (Nat.lt_succ_of_le (List.length_take_le maxUnits (Utf16.encode status.text)))
  refine ⟨high, low, ?_, value⟩
  unfold encode
  dsimp only
  rw [octets]
  simp only [List.cons_append, List.nil_append]

/-- The answer, if nothing has to be cut off. -/
theorem encode_of_le (fits : (Utf16.encode status.text).length ≤ maxUnits) :
    ∃ high low : UInt8, status.encode = answer :: high :: low ::
        Utf16.toBytes (Utf16.encode status.text) ∧
      high.toNat * 256 + low.toNat = (Utf16.encode status.text).length := by
  have made := status.exists_encode
  rw [List.take_of_length_le fits] at made
  exact made

end Status

theorem fields?_encode {status : Status} (fits : (Utf16.encode status.text).length ≤ maxUnits)
    (clear : ∀ member ∈ status.members, '\x00' ∉ member.toList) :
    fields? status.encode = some status.members := by
  obtain ⟨high, low, encoded, value⟩ := Status.encode_of_le fits
  have long : (Utf16.toBytes (Utf16.encode status.text)).length =
      2 * (high.toNat * 256 + low.toNat) := by
    rw [Utf16.length_toBytes, value]
  rw [encoded, fields?, if_pos ⟨rfl, long⟩, Utf16.ofBytes?_toBytes]
  dsimp only [Option.bind_eq_bind, Option.bind_some]
  rw [Utf16.decode?_encode]
  exact congrArg some (Status.splitOn_text clear)

/-- Whoever finds the fields of a status knows it. -/
theorem Status.ofAnswer?_of_fields? {status : Status} {octets : Bytes}
    (found : fields? octets = some status.members) : ofAnswer? octets = some status := by
  unfold ofAnswer?
  rw [found]
  simp only [members, guard, if_true, Option.pure_def, Option.bind_eq_bind, Option.bind_some,
    Numeral.i32?_toString, Numeral.u64?_toString]

/-- **An answer is read back.**  If nothing has to be cut off and no text of the status holds a NUL,
the answer is the octet `FF`, the number of its units and two octets for each, and an old client finds
the six fields in it, and hence the status. -/
theorem answer_read_back {status : Status} (version : '\x00' ∉ status.version.toList)
    (motd : '\x00' ∉ status.motd.toList)
    (fits : (Utf16.encode status.text).length ≤ 65535) :
    (∃ (high low : UInt8) (body : Bytes), status.encode = 0xFF :: high :: low :: body ∧
      high.toNat * 256 + low.toNat = (Utf16.encode status.text).length ∧
      body.length = 2 * (Utf16.encode status.text).length) ∧
    fields? status.encode = some ["§1", toString status.protocol.toInt, status.version,
      status.motd, toString status.online.toNat, toString status.max.toNat] ∧
    Status.ofAnswer? status.encode = some status := by
  have found : fields? status.encode = some status.members :=
    fields?_encode fits (Status.clear_members version motd)
  obtain ⟨high, low, encoded, value⟩ := Status.encode_of_le fits
  exact ⟨⟨high, low, _, encoded, value, Utf16.length_toBytes _⟩, found,
    Status.ofAnswer?_of_fields? found⟩

/-- A negative number, a text that is empty and one of a character that takes two units. -/
theorem answer_read_back_pairs :
    let status : Status := ⟨-2147483648, "", "🎮", 18446744073709551615, 0⟩
    (Utf16.encode status.text).length = 41 ∧ Status.ofAnswer? status.encode = some status := by
  intro status
  have length : (Utf16.encode status.text).length = 41 := by decide
  have fits : (Utf16.encode status.text).length ≤ 65535 := length ▸ by decide
  exact ⟨length, (answer_read_back (by decide) (by decide) fits).2.2⟩

end LegacyPing

end GameTransport
