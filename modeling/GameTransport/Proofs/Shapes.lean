import GameTransport.Proofs.Fields

/-! # Fields of every shape

A format is lawful if it reads what it writes, whatever stands after it, and runs out of octets on
anything shorter.  The second half is what lets readers stand one after another: a run of octets that
breaks off breaks off in one of the fields, and the fields before it are read (`RunsShort.bind`).

`Shape` is every nesting of the basic formats under `collection` and `option`.  Both keep a format
lawful, so a shape is lawful by induction on it.
-/

namespace GameTransport

namespace Reader

variable {α β : Type} {reader : Reader α} {next : α → Reader β} {octets more : Bytes} {value : α}

/-- The reader runs out of octets on every strict prefix. -/
def RunsShort (reader : Reader α) (octets : Bytes) : Prop :=
  ∀ part, part <+: octets → part ≠ octets →
    ∃ what needed remaining rest, reader part = .error (.truncated what needed remaining) rest

/-- Nothing is shorter than nothing. -/
theorem RunsShort.nil : RunsShort reader [] :=
  fun _ within strict => absurd (List.prefix_nil.mp within) strict

theorem RunsShort.bind (reads : Reads reader octets value) (first : RunsShort reader octets)
    (later : RunsShort (next value) more) : RunsShort (reader >>= next) (octets ++ more) := by
  intro part within strict
  by_cases whole : octets <+: part
  · -- The first field is whole, and what breaks off is a later one.
    obtain ⟨rest, rfl⟩ := whole
    have within' : rest <+: more := (List.prefix_append_right_inj octets).mp within
    have strict' : rest ≠ more := fun same => strict (congrArg (octets ++ ·) same)
    obtain ⟨what, needed, remaining, left, short⟩ := later rest within' strict'
    exact ⟨what, needed, remaining, left, (bind_ok (reads rest)).trans short⟩
  · have within' : part <+: octets :=
      (List.prefix_or_prefix_of_prefix within (List.prefix_append octets more)).resolve_right whole
    have strict' : part ≠ octets := by
      rintro rfl
      exact whole (List.prefix_refl part)
    obtain ⟨what, needed, remaining, left, short⟩ := first part within' strict'
    exact ⟨what, needed, remaining, left, bind_error short⟩

theorem RunsShort.map (first : RunsShort reader octets) (f : α → β) :
    RunsShort (f <$> reader) octets := by
  intro part within strict
  obtain ⟨what, needed, remaining, left, short⟩ := first part within strict
  exact ⟨what, needed, remaining, left, map_error short⟩

/-- The octets that a reader takes are all that it needs: what follows only looks at the value. -/
theorem RunsShort.checked (reads : Reads reader octets value) (first : RunsShort reader octets) :
    RunsShort (reader >>= next) octets := by
  have none : RunsShort (next value) [] := RunsShort.nil
  have both := RunsShort.bind reads first none
  rw [List.append_nil] at both
  exact both

theorem runsShort_byte (what : String) (b : UInt8) : RunsShort (byte what) [b] := by
  intro part within strict
  rcases part with _ | ⟨first, rest⟩
  · exact ⟨what, 1, 0, [], rfl⟩
  · refine absurd (within.eq_of_length_le ?_) strict
    exact Nat.le_add_left 1 rest.length

theorem runsShort_take (what : String) (octets : Bytes) :
    RunsShort (take what octets.length) octets := by
  intro part within strict
  have shorter : part.length < octets.length :=
    Nat.not_le.mp fun long => strict (within.eq_of_length_le long)
  refine ⟨what, octets.length, part.length, part, ?_⟩
  unfold take
  dsimp only
  rw [if_pos shorter]

/-- Values one after another are one value and the others. -/
theorem repeatFrom_succ (element : Reader α) (count : Nat) (done : List α) :
    repeatFrom element (count + 1) done =
      element >>= fun value => repeatFrom element count (value :: done) := by
  funext buffer
  change _ = EStateM.bind element _ buffer
  rw [repeatFrom, EStateM.bind]
  rcases element buffer with ⟨value, rest⟩ | ⟨fault, rest⟩ <;> rfl

end Reader

namespace Varint

open Reader (RunsShort)

variable {what : String} {overlong : Fault} {left n : Nat}

/-- A number whose last digit is missing is read to its end. -/
theorem runsShort_digits (fits : n < 128 ^ (left + 1)) :
    RunsShort (digits what overlong (left + 1)) (encode n) := by
  induction left generalizing n with
  | zero =>
    have small : n < 128 := by simpa using fits
    rw [encode_of_lt small]
    exact (Reader.runsShort_byte what _).checked fun rest => rfl
  | succ left ih =>
    by_cases small : n < 128
    · rw [encode_of_lt small]
      exact (Reader.runsShort_byte what _).checked fun rest => rfl
    · have higher : n / 128 < 128 ^ (left + 1) := by
        rw [Nat.pow_succ] at fits
        exact Nat.div_lt_of_lt_mul (by rw [Nat.mul_comm]; exact fits)
      rw [encode_of_le (Nat.not_lt.mp small), ← List.singleton_append]
      refine RunsShort.bind (fun rest => rfl) (Reader.runsShort_byte what _) ?_
      rw [if_neg (not_marked_lt n)]
      exact (ih higher).checked (digits_encode · higher)

theorem runsShort_readU32 (fits : n < 2 ^ 32) : RunsShort readU32 (encode n) :=
  (runsShort_digits (Nat.lt_trans fits (by decide))).map UInt32.ofNat

theorem runsShort_readU64 (fits : n < 2 ^ 64) : RunsShort readU64 (encode n) :=
  (runsShort_digits (Nat.lt_trans fits (by decide))).map UInt64.ofNat

end Varint

namespace Field

variable {α : Type} {field : Field α} {admits : α → Prop} {what : String} {max : Nat}

open Reader (RunsShort)

/-- A value is read back, and nothing shorter than it is read. -/
structure Survives (field : Field α) (value : α) : Prop where
  back : field.ReadsBack value
  short : field.read.RunsShort (field.write value)

/-- **The format keeps to what it writes**, of the values that it admits. -/
def Lawful (field : Field α) (admits : α → Prop) : Prop := ∀ value, admits value → field.Survives value

/-- At most `max` octets, and no more than a length can count. -/
def Holds (max : Nat) (octets : Bytes) : Prop := octets.length ≤ max ∧ octets.length < 2 ^ 32

/-- At most `max` characters, whose octets a length can count. -/
def Spells (max : Nat) (text : String) : Prop :=
  text.length ≤ max ∧ (Utf8.encode text).length < 2 ^ 32

/-- At most `max` values, each of which is admitted. -/
def Gathers (max : Nat) (admits : α → Prop) (values : List α) : Prop :=
  values.length ≤ max ∧ values.length < 2 ^ 32 ∧ ∀ value ∈ values, admits value

/-! ## Basic formats -/

theorem bool_survives (flag : Bool) : bool.Survives flag :=
  ⟨bool_readsBack flag, (Reader.runsShort_byte "bool" _).map _⟩

theorem varU32_survives (n : UInt32) : varU32.Survives n :=
  ⟨varU32_readsBack n, Varint.runsShort_readU32 n.toNat_lt⟩

theorem varU64_survives (n : UInt64) : varU64.Survives n :=
  ⟨varU64_readsBack n, Varint.runsShort_readU64 n.toNat_lt⟩

theorem varI32_survives (z : Int32) : varI32.Survives z :=
  ⟨varI32_readsBack z, (Varint.runsShort_readU32 (Varint.fold_lt z.le_toInt z.toInt_lt)).map _⟩

theorem varI64_survives (z : Int64) : varI64.Survives z :=
  ⟨varI64_readsBack z, (Varint.runsShort_readU64 (Varint.fold_lt z.le_toInt z.toInt_lt)).map _⟩

theorem uuid_survives (id : Uuid) : uuid.Survives id := by
  have short := (Reader.runsShort_take "uuid" id.toBytes).map Uuid.ofBytes
  rw [show id.toBytes.length = 16 from length_write_uuid id] at short
  exact ⟨uuid_readsBack id, short⟩

theorem runsShort_length (length : Nat) :
    RunsShort (readLength what max) (writeLength length) :=
  (Varint.runsShort_readU32 (UInt32.ofNat length).toNat_lt).checked (Varint.readU32_encode_toNat _)

theorem bytes_lawful (max : Nat) : (bytes max).Lawful (Holds max) := by
  rintro octets ⟨fits, bound⟩
  exact ⟨bytes_readsBack_of_lt fits bound, RunsShort.bind (reads_length fits bound)
    (runsShort_length _) (Reader.runsShort_take _ octets)⟩

theorem string_lawful (max : Nat) : (string max).Lawful (Spells max) := by
  rintro text ⟨fits, bound⟩
  have size := length_encode_le_of_length_le fits
  refine ⟨string_readsBack_of_lt fits bound, ?_⟩
  -- Both checks of a text are made on its octets once they are all there.
  refine RunsShort.bind (reads_length size bound) (runsShort_length _) ?_
  exact (Reader.runsShort_take "string" _).checked (Reader.reads_take "string" _)

/-! ## Formats from formats -/

/-- Values that survive one by one survive one after another. -/
theorem repeatFrom_survives {values : List α} (each : ∀ value ∈ values, field.Survives value)
    (done : List α) :
    (Reader.repeatFrom field.read values.length done).Reads (values.flatMap field.write)
        (done.reverse ++ values) ∧
      RunsShort (Reader.repeatFrom field.read values.length done) (values.flatMap field.write) := by
  induction values generalizing done with
  | nil =>
    rw [List.append_nil]
    exact ⟨fun rest => rfl, RunsShort.nil⟩
  | cons value values ih =>
    obtain ⟨back, short⟩ := each value List.mem_cons_self
    obtain ⟨backs, shorts⟩ :=
      ih (fun other member => each other (List.mem_cons_of_mem _ member)) (value :: done)
    rw [List.reverse_cons, List.append_assoc, List.singleton_append] at backs
    rw [List.length_cons, List.flatMap_cons, Reader.repeatFrom_succ]
    exact ⟨back.bind backs, RunsShort.bind back short shorts⟩

theorem collection_lawful (lawful : field.Lawful admits) (max : Nat) :
    (collection max field).Lawful (Gathers max admits) := by
  rintro values ⟨fits, bound, admitted⟩
  obtain ⟨backs, shorts⟩ :=
    repeatFrom_survives (fun value member => lawful value (admitted value member)) []
  exact ⟨(reads_length fits bound).bind backs,
    RunsShort.bind (reads_length fits bound) (runsShort_length _) shorts⟩

theorem option_lawful (lawful : field.Lawful admits) :
    (option field).Lawful fun value? => ∀ value ∈ value?, admits value := by
  intro value? admitted
  obtain ⟨back, short⟩ := bool_survives value?.isSome
  cases value? with
  | none => exact ⟨option_readsBack_none, short.checked back⟩
  | some value =>
    obtain ⟨back', short'⟩ := lawful value (admitted value rfl)
    exact ⟨option_readsBack_some back', RunsShort.bind back short (short'.map some)⟩

end Field

/-! ## Every nesting -/

/-- What a field is made of. -/
inductive Shape where
  | bool
  | varU32
  | varU64
  | varI32
  | varI64
  | uuid
  | string (max : Nat)
  | bytes (max : Nat)
  | collection (max : Nat) (element : Shape)
  | option (value : Shape)
  deriving DecidableEq, Repr

namespace Shape

/-- The values of a field. -/
def Value : Shape → Type
  | bool => Bool
  | varU32 => UInt32
  | varU64 => UInt64
  | varI32 => Int32
  | varI64 => Int64
  | uuid => Uuid
  | string _ => String
  | bytes _ => Bytes
  | collection _ element => List element.Value
  | option value => Option value.Value

def field : (shape : Shape) → Field shape.Value
  | bool => Field.bool
  | varU32 => Field.varU32
  | varU64 => Field.varU64
  | varI32 => Field.varI32
  | varI64 => Field.varI64
  | uuid => Field.uuid
  | string max => Field.string max
  | bytes max => Field.bytes max
  | collection max element => Field.collection max element.field
  | option value => Field.option value.field

/-- The values within the limits. -/
def Admits : (shape : Shape) → shape.Value → Prop
  | bool | varU32 | varU64 | varI32 | varI64 | uuid => fun _ => True
  | string max => Field.Spells max
  | bytes max => Field.Holds max
  | collection max element => Field.Gathers max element.Admits
  | option value => fun value? : Option value.Value => ∀ v ∈ value?, value.Admits v

/-- **Fields survive the wire.**  Every format that is built from the basic ones is lawful, and so is
every collection and every option of a format that is lawful. -/
theorem every_field_lawful :
    (∀ shape : Shape, shape.field.Lawful shape.Admits) ∧
    ∀ (α : Type) (field : Field α) (admits : α → Prop), field.Lawful admits →
      (∀ max, (Field.collection max field).Lawful (Field.Gathers max admits)) ∧
      (Field.option field).Lawful fun value? => ∀ value ∈ value?, admits value := by
  refine ⟨fun shape => ?_, fun α field admits lawful =>
    ⟨Field.collection_lawful lawful, Field.option_lawful lawful⟩⟩
  induction shape with
  | bool => exact fun flag _ => Field.bool_survives flag
  | varU32 => exact fun n _ => Field.varU32_survives n
  | varU64 => exact fun n _ => Field.varU64_survives n
  | varI32 => exact fun z _ => Field.varI32_survives z
  | varI64 => exact fun z _ => Field.varI64_survives z
  | uuid => exact fun id _ => Field.uuid_survives id
  | string max => exact Field.string_lawful max
  | bytes max => exact Field.bytes_lawful max
  | collection max element ih => exact Field.collection_lawful ih max
  | option value ih => exact Field.option_lawful ih

/-- Optional names, and a format of one's own around them. -/
theorem every_field_lawful_names :
    let names : Shape := .collection 2 (.option (.string 16))
    let given : names.Value := [some "ping", none]
    names.Admits given ∧ names.field.write given = [2, 1, 4, 112, 105, 110, 103, 0] ∧
      names.field.Survives given ∧ (Field.option names.field).Survives (some given) := by
  intro names given
  have admitted : names.Admits given := by
    refine ⟨by decide, by decide, fun name? listed name known => ?_⟩
    have either : name? = some "ping" ∨ name? = none :=
      (List.mem_cons.mp listed).imp id List.mem_singleton.mp
    rcases either with rfl | rfl <;> cases known
    exact ⟨by decide, by decide +kernel⟩
  refine ⟨admitted, by decide +kernel, every_field_lawful.1 names given admitted, ?_⟩
  refine (every_field_lawful.2 _ names.field names.Admits (every_field_lawful.1 names)).2 _ ?_
  rintro _ ⟨⟩
  exact admitted

end Shape

end GameTransport
