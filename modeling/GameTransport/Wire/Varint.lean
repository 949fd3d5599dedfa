import GameTransport.Wire.Reader

/-!
# Numbers of variable length

A number is written in base 128, least significant digit first; every octet but the last has its
high bit set.  `encode` writes the fewest digits.  A reader allows a number at most so many octets
as its width needs and reduces what it read to that width, so a number has more than one spelling
that is read.

A signed number is folded onto the naturals first: `0, -1, 1, -2, …` go to `0, 1, 2, 3, …`.
-/

namespace GameTransport.Varint

/-- The digits of `n`, all but the last marked. -/
def encode (n : Nat) : Bytes :=
  if n < 128 then [UInt8.ofNat n] else UInt8.ofNat (n % 128 + 128) :: encode (n / 128)

/-- Writes the digits of `n` behind what stands in a buffer, and counts them on from `count`. -/
def writeFrom (n count : Nat) : StateM Bytes Nat := do
  if n < 128 then
    modify (· ++ [UInt8.ofNat n])
    return count + 1
  else
    modify (· ++ [UInt8.ofNat (n % 128 + 128)])
    writeFrom (n / 128) (count + 1)

/-- Writes `n` and tells how many octets it wrote. -/
def write (n : Nat) : StateM Bytes Nat := writeFrom n 0

/-- The number of octets that `encode` writes for `n`: one for each group of seven bits, and one
for zero. -/
def size (n : UInt32) : Nat :=
  if n = 0 then 1 else (n.toNat.log2 + 7) / 7

/-- The most octets a number of 32 bits may take. -/
def maxLength32 : Nat := 5

/-- The most octets a number of 64 bits may take. -/
def maxLength64 : Nat := 10

/-- Reads digits up to the first without a mark, at most `left` of them; a mark on the last of
them is `overlong`. -/
def digits (what : String) (overlong : Fault) : (left : Nat) → Reader Nat
  | 0 => throw overlong
  | left + 1 => do
    let b ← Reader.byte what
    if b < 128 then return b.toNat
    else
      let higher ← digits what overlong left
      return b.toNat - 128 + 128 * higher

/-- Reads a number of at most `limit` octets, unreduced. -/
def read (what : String) (limit : Nat) : Reader Nat :=
  digits what (.sizeExceeded what (limit + 1) limit) limit

def readU32 : Reader UInt32 := UInt32.ofNat <$> read "varint" maxLength32

def readU64 : Reader UInt64 := UInt64.ofNat <$> read "varlong" maxLength64

/-- Folds the integers onto the naturals, those near zero first. -/
def fold (z : Int) : Nat :=
  if 0 ≤ z then 2 * z.toNat else 2 * (-z).toNat - 1

/-- The integer that `fold` sends to `n`. -/
def unfold (n : Nat) : Int :=
  if n % 2 = 0 then (n / 2 : Nat) else -((n / 2 : Nat) + 1 : Int)

theorem unfold_fold (z : Int) : unfold (fold z) = z := by
  unfold fold Varint.unfold
  split <;> omega

theorem fold_unfold (n : Nat) : fold (unfold n) = n := by
  unfold fold Varint.unfold
  split <;> split <;> omega

def readI32 : Reader Int32 := (fun n => Int32.ofInt (unfold n.toNat)) <$> readU32

def readI64 : Reader Int64 := (fun n => Int64.ofInt (unfold n.toNat)) <$> readU64

def encodeI32 (z : Int32) : Bytes := encode (fold z.toInt)

def encodeI64 (z : Int64) : Bytes := encode (fold z.toInt)

end GameTransport.Varint
