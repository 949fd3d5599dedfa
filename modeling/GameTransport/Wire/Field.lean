import GameTransport.Uuid
import GameTransport.Wire.Varint

/-!
# Fields

A field format is a reader and a writer that belong together.  The basic formats are numbers,
flags, texts, runs of octets and identifiers; `collection` and `option` build formats from
formats.

A format with a length in front of it takes the most that the length may be.  The length is
checked before anything is taken, so a hostile length costs nothing.
-/

namespace GameTransport

/-- How values of a type stand on the wire. -/
structure Field (α : Type) where
  read : Reader α
  write : α → Bytes

namespace Field

/-- Reads a length of at most `max`. -/
def readLength (what : String) (max : Nat) : Reader Nat := do
  let length := (← Varint.readU32).toNat
  if max < length then throw (.sizeExceeded what length max)
  return length

/-- The length of a field as its 32 bits, and no more, are written. -/
def writeLength (length : Nat) : Bytes := Varint.encode (UInt32.ofNat length).toNat

def bool : Field Bool where
  read := Reader.bool
  write flag := [if flag then 1 else 0]

def u16 : Field UInt16 where
  read := Reader.u16
  write n := Bytes.ofNat 2 n.toNat

def i64 : Field Int64 where
  read := Reader.i64
  write n := Bytes.ofNat 8 n.toUInt64.toNat

def varU32 : Field UInt32 where
  read := Varint.readU32
  write n := Varint.encode n.toNat

def varU64 : Field UInt64 where
  read := Varint.readU64
  write n := Varint.encode n.toNat

def varI32 : Field Int32 where
  read := Varint.readI32
  write := Varint.encodeI32

def varI64 : Field Int64 where
  read := Varint.readI64
  write := Varint.encodeI64

/-- A run of at most `max` octets. -/
def bytes (max : Nat) : Field Bytes where
  read := do Reader.take "byte array" (← readLength "byte array" max)
  write bytes := writeLength bytes.length ++ bytes

/-- A text of at most `max` characters.  A character takes at most four octets, so a longer
length than four times `max` is refused unread. -/
def string (max : Nat) : Field String where
  read := do
    let octets ← Reader.take "string" (← readLength "string" (4 * max))
    match Utf8.decode octets with
    | .error fault => throw (.invalidData (.notText fault))
    | .ok text =>
      let length := text.length
      if max < length then throw (.sizeExceeded "string" length max)
      return text
  write text :=
    let octets := Utf8.encode text
    writeLength octets.length ++ octets

def uuid : Field Uuid where
  read := Uuid.ofBytes <$> Reader.take "uuid" 16
  write := Uuid.toBytes

/-- At most `max` values, their number in front. -/
def collection {α : Type} (max : Nat) (element : Field α) : Field (List α) where
  read := do Reader.repeated element.read (← readLength "collection" max)
  write values := writeLength values.length ++ values.flatMap element.write

/-- A flag, and a value if the flag is set. -/
def option {α : Type} (value : Field α) : Field (Option α) where
  read := do
    if ← Reader.bool then some <$> value.read else return none
  write
    | some v => bool.write true ++ value.write v
    | none => bool.write false

end Field

end GameTransport
