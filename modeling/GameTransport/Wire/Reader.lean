import GameTransport.Fault

/-!
# Readers

A reader takes octets off the front of a run.  What it took before it failed stays taken: the rest
is part of the answer in either case, so a reader is a state that can stop with a fault.

Every reader looks at how many octets are left before it takes any, and a run too short is a
`truncated` fault that says what was to be read.
-/

namespace GameTransport

/-- Takes a value off the front of a run of octets. -/
abbrev Reader := EStateM Fault Bytes

namespace Reader

/-- Takes one octet of the field `what`. -/
def byte (what : String) : Reader UInt8
  | [] => .error (.truncated what 1 0) []
  | b :: rest => .ok b rest

/-- Takes `count` octets of the field `what`. -/
def take (what : String) (count : Nat) : Reader Bytes := fun buffer =>
  let remaining := buffer.length
  if remaining < count then .error (.truncated what count remaining) buffer
  else .ok (buffer.take count) (buffer.drop count)

/-- Takes all that is left. -/
def rest : Reader Bytes := fun buffer => .ok buffer []

/-- The number of octets left. -/
def remaining : Reader Nat := fun buffer => .ok buffer.length buffer

/-- Reads `count` values one after another, `done` holding those before them, last first. -/
def repeatFrom {α : Type} (element : Reader α) : Nat → List α → Reader (List α)
  | 0, done, buffer => .ok done.reverse buffer
  | count + 1, done, buffer =>
    match element buffer with
    | .ok value buffer => repeatFrom element count (value :: done) buffer
    | .error fault buffer => .error fault buffer

/-- Reads `count` values one after another. -/
def repeated {α : Type} (element : Reader α) (count : Nat) : Reader (List α) :=
  repeatFrom element count []

/-! ### Numbers of a fixed width

Most significant octet first. -/

def u8 : Reader UInt8 := byte "u8"

def i8 : Reader Int8 := UInt8.toInt8 <$> byte "i8"

/-- Any octet but zero is true. -/
def bool : Reader Bool := (· != 0) <$> byte "bool"

/-- A number of `width` octets. -/
def number (what : String) (width : Nat) : Reader Nat := Bytes.toNat <$> take what width

def u16 : Reader UInt16 := UInt16.ofNat <$> number "u16" 2

def i16 : Reader Int16 := Int16.ofNat <$> number "i16" 2

def i32 : Reader Int32 := Int32.ofNat <$> number "i32" 4

def i64 : Reader Int64 := Int64.ofNat <$> number "i64" 8

def u64 : Reader UInt64 := UInt64.ofNat <$> number "u64" 8

/-- The bits of a floating-point number of single precision. -/
def f32 : Reader UInt32 := UInt32.ofNat <$> number "f32" 4

/-- The bits of a floating-point number of double precision. -/
def f64 : Reader UInt64 := UInt64.ofNat <$> number "f64" 8

end Reader

end GameTransport
