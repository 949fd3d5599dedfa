import GameTransport.Wire.Field
import GameTransport.Proofs.Readers
import GameTransport.Proofs.Texts

/-! # Fields that were written are read back

`Reader.Reads` says that a reader takes just these octets for a value, whatever stands after them.
Readers that are bound together take what each of them takes, one after another (`Reads.bind`), and
a field is `ReadsBack` at the values it can hold.
-/

namespace GameTransport

namespace Reader

variable {α β : Type} {reader : Reader α} {next : α → Reader β} {octets more : Bytes} {value : α}
  {other : β}

/-- The reader takes `octets` for `value`. -/
def Reads (reader : Reader α) (octets : Bytes) (value : α) : Prop :=
  ∀ rest, reader (octets ++ rest) = .ok value rest

theorem Reads.pure (value : α) : Reads (Pure.pure value) [] value := fun _ => rfl

theorem Reads.bind (first : Reads reader octets value) (later : Reads (next value) more other) :
    Reads (reader >>= next) (octets ++ more) other := by
  intro rest
  rw [List.append_assoc, bind_ok (first _), later]

theorem Reads.map (first : Reads reader octets value) (f : α → β) :
    Reads (f <$> reader) octets (f value) := fun rest => map_ok (first rest)

/-- The last field of a packet. -/
theorem Reads.last (first : Reads reader octets value) (f : α → β) :
    Reads (do return f (← reader)) octets (f value) := by
  have both : Reads (do return f (← reader)) (octets ++ []) (f value) :=
    first.bind (Reads.pure (f value))
  rw [List.append_nil] at both
  exact both

/-- Nothing is left where nothing stands after. -/
theorem Reads.whole (reads : Reads reader octets value) : reader octets = .ok value [] := by
  have whole := reads []
  rw [List.append_nil] at whole
  exact whole

theorem reads_take (what : String) (octets : Bytes) :
    Reads (take what octets.length) octets octets := by
  intro rest
  unfold take
  dsimp only
  rw [if_neg (by rw [List.length_append]; omega), List.take_left, List.drop_left]

theorem reads_number (what : String) (width : Nat) {n : Nat} (fits : n < 256 ^ width) :
    Reads (number what width) (Bytes.ofNat width n) n := by
  have taken := (reads_take what (Bytes.ofNat width n)).map Bytes.toNat
  rw [Bytes.length_ofNat, Bytes.toNat_ofNat] at taken
  have whole : n % Nat.pow 256 width = n := Nat.mod_eq_of_lt fits
  rw [whole] at taken
  exact taken

end Reader

namespace Field

variable {α : Type} {field : Field α} {value : α} {what : String} {max : Nat}

/-- The field reads what it writes. -/
def ReadsBack (field : Field α) (value : α) : Prop := field.read.Reads (field.write value) value

theorem reads_length {length : Nat} (fits : length ≤ max) (bound : length < 2 ^ 32) :
    (readLength what max).Reads (writeLength length) length := by
  intro rest
  unfold readLength writeLength
  have small : (UInt32.ofNat length).toNat = length := UInt32.toNat_ofNat_of_lt' bound
  rw [Reader.bind_ok (Varint.readU32_encode_toNat _ rest), small]
  dsimp only
  rw [if_neg (Nat.not_lt.mpr fits)]
  rfl

theorem varU32_readsBack (n : UInt32) : varU32.ReadsBack n := Varint.readU32_encode_toNat n

theorem varU64_readsBack (n : UInt64) : varU64.ReadsBack n := by
  intro rest
  have read := Varint.readU64_encode rest n.toNat_lt
  rw [UInt64.ofNat_toNat] at read
  exact read

theorem varI32_readsBack (z : Int32) : varI32.ReadsBack z := Varint.readI32_encodeI32 z

theorem varI64_readsBack (z : Int64) : varI64.ReadsBack z := Varint.readI64_encodeI64 z

theorem bool_readsBack (flag : Bool) : bool.ReadsBack flag := by
  intro rest
  cases flag <;> rfl

theorem u16_readsBack (n : UInt16) : u16.ReadsBack n := by
  have number := (Reader.reads_number "u16" 2 n.toNat_lt).map UInt16.ofNat
  rw [UInt16.ofNat_toNat] at number
  exact number

theorem i64_readsBack (n : Int64) : i64.ReadsBack n := by
  have number := (Reader.reads_number "i64" 8 n.toUInt64.toNat_lt).map Int64.ofNat
  have same : Int64.ofNat n.toUInt64.toNat = n := by
    change (UInt64.ofNat n.toUInt64.toNat).toInt64 = n
    rw [UInt64.ofNat_toNat, Int64.toInt64_toUInt64]
  rw [same] at number
  exact number

theorem uuid_readsBack (id : Uuid) : uuid.ReadsBack id := by
  have taken := (Reader.reads_take "uuid" id.toBytes).map Uuid.ofBytes
  have size : id.toBytes.length = 16 := Bytes.length_ofNat 16 _
  have same : Uuid.ofBytes id.toBytes = id := by
    unfold Uuid.ofBytes Uuid.toBytes
    have whole : id.bits.toNat % Nat.pow 256 16 = id.bits.toNat := Nat.mod_eq_of_lt id.bits.isLt
    rw [Bytes.toNat_ofNat, whole, BitVec.ofNat_toNat, BitVec.setWidth_eq]
  rw [size, same] at taken
  exact taken

theorem bytes_readsBack_of_lt {octets : Bytes} (fits : octets.length ≤ max)
    (bound : octets.length < 2 ^ 32) : (bytes max).ReadsBack octets :=
  (reads_length fits bound).bind (Reader.reads_take _ octets)

theorem bytes_readsBack {octets : Bytes} (fits : octets.length ≤ max) (bound : max < 2 ^ 32) :
    (bytes max).ReadsBack octets :=
  bytes_readsBack_of_lt fits (Nat.lt_of_le_of_lt fits bound)

theorem length_encode_le_of_length_le {text : String} (fits : text.length ≤ max) :
    (Utf8.encode text).length ≤ 4 * max :=
  Nat.le_trans (Utf8.length_encode_le text) (Nat.mul_le_mul_left 4 fits)

theorem string_readsBack_of_lt {text : String} (fits : text.length ≤ max)
    (bound : (Utf8.encode text).length < 2 ^ 32) : (string max).ReadsBack text := by
  have size := length_encode_le_of_length_le fits
  intro rest
  unfold string
  dsimp only
  rw [List.append_assoc, Reader.bind_ok (reads_length size bound _),
    Reader.bind_ok (Reader.reads_take "string" (Utf8.encode text) rest), Utf8.decode_encode]
  dsimp only
  rw [if_neg (Nat.not_lt.mpr fits)]
  rfl

theorem string_readsBack {text : String} (fits : text.length ≤ max) (bound : 4 * max < 2 ^ 32) :
    (string max).ReadsBack text :=
  string_readsBack_of_lt fits (Nat.lt_of_le_of_lt (length_encode_le_of_length_le fits) bound)

theorem option_readsBack_some (back : field.ReadsBack value) :
    (option field).ReadsBack (some value) := by
  have flag : bool.ReadsBack true := bool_readsBack true
  exact flag.bind (back.map some)

theorem option_readsBack_none : (option field).ReadsBack none := by
  have flag : bool.ReadsBack false := bool_readsBack false
  exact flag.bind (Reader.Reads.pure none)

end Field

/-! ## Sizes -/

namespace Field

variable {max : Nat} {text : String} {octets : Bytes}

theorem length_write_varU32_le (n : UInt32) : (varU32.write n).length ≤ 5 :=
  Varint.length_encode_toNat_le n

theorem length_write_string_le (fits : text.length ≤ max) :
    ((string max).write text).length ≤ 5 + 4 * max := by
  have size := Utf8.length_encode_le text
  have prefixed := Varint.length_encode_toNat_le (UInt32.ofNat (Utf8.encode text).length)
  simp only [string, writeLength, List.length_append]
  omega

theorem length_write_bytes_le (fits : octets.length ≤ max) :
    ((bytes max).write octets).length ≤ 5 + max := by
  have prefixed := Varint.length_encode_toNat_le (UInt32.ofNat octets.length)
  simp only [bytes, writeLength, List.length_append]
  omega

theorem length_write_uuid (id : Uuid) : (uuid.write id).length = 16 := Bytes.length_ofNat 16 _

end Field

end GameTransport
