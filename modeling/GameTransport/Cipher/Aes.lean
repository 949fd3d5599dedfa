import GameTransport.Bytes

/-!
# AES with a key of 128 bits

The block cipher of FIPS 197, encryption only.  A block is four columns of four octets, each a word
with its first octet highest.  The tables join the substitution of an octet with its share of the
mixing of columns; all of them are computed from the field of 256 elements.
-/

namespace GameTransport.Aes

/-! ### The field -/

/-- Twice an element. -/
def double (x : UInt8) : UInt8 := (x <<< 1) ^^^ (if 0x80 ≤ x then 0x1B else 0)

/-- The product of two elements, over the `count` low bits of the second. -/
def product : (count : Nat) → UInt8 → UInt8 → UInt8
  | 0, _, _ => 0
  | count + 1, x, y =>
    (if y &&& 1 = 1 then x else 0) ^^^ product count (double x) (y >>> 1)

/-- Multiplies an element by so many squares of `x` in a row, the first of them `x * x`. -/
def timesSquares : (count : Nat) → (x y : UInt8) → UInt8
  | 0, _, y => y
  | count + 1, x, y =>
    let square := product 8 x x
    timesSquares count square (product 8 y square)

/-- The inverse of an element, and zero for zero: its power 254, which is 2 + 4 + ⋯ + 128. -/
def inverse (x : UInt8) : UInt8 := timesSquares 7 x 1

def rotate (x : UInt8) (count : UInt8) : UInt8 := (x <<< count) ||| (x >>> (8 - count))

/-- The substitution of one octet. -/
def substitute (x : UInt8) : UInt8 :=
  let y := inverse x
  y ^^^ rotate y 1 ^^^ rotate y 2 ^^^ rotate y 3 ^^^ rotate y 4 ^^^ 0x63

/-- The substitutions of all octets. -/
def substitutions : Array UInt8 :=
  ((List.range 256).map fun n => substitute (UInt8.ofNat n)).toArray

/-! ### Words -/

/-- The word of four octets. -/
def word (a b c d : UInt8) : UInt32 :=
  (a.toUInt32 <<< 24) ||| (b.toUInt32 <<< 16) ||| (c.toUInt32 <<< 8) ||| d.toUInt32

/-- The `index`th octet of a word, from the highest. -/
def octet (w : UInt32) (index : UInt32) : UInt8 := (w >>> (24 - 8 * index)).toUInt8

def wordBytes (w : UInt32) : Bytes := [octet w 0, octet w 1, octet w 2, octet w 3]

/-- The share in a mixed column of an octet that stands first in its column. -/
def mixed (x : UInt8) : UInt32 :=
  let y := substitute x
  word (double y) y y (double y ^^^ y)

def rotateWord (w : UInt32) (count : UInt32) : UInt32 := (w >>> count) ||| (w <<< (32 - count))

/-- The shares of all octets in the `row`th place. -/
def mixedTable (row : UInt32) : Array UInt32 :=
  ((List.range 256).map fun n =>
    let share := mixed (UInt8.ofNat n)
    if row = 0 then share else rotateWord share (8 * row)).toArray

def mixed0 : Array UInt32 := mixedTable 0
def mixed1 : Array UInt32 := mixedTable 1
def mixed2 : Array UInt32 := mixedTable 2
def mixed3 : Array UInt32 := mixedTable 3

/-- Substitutes the octets of a word. -/
def substituteWord (a b c d : UInt32) : UInt32 :=
  let substituted (w index : UInt32) : UInt8 := substitutions.getD (octet w index).toNat 0
  word (substituted a 0) (substituted b 1) (substituted c 2) (substituted d 3)

/-! ### Key and rounds -/

/-- The words of all round keys, four for each of eleven. -/
abbrev Schedule := Array UInt32

/-- Adds `count` words to a schedule, `constant` being the constant of the next round. -/
def extend : (count : Nat) → (constant : UInt8) → Schedule → Schedule
  | 0, _, schedule => schedule
  | count + 1, constant, schedule =>
    let size := schedule.size
    let last := schedule.getD (size - 1) 0
    let before := schedule.getD (size - 4) 0
    if size % 4 = 0 then
      let turned := rotateWord last 24
      let next := before ^^^ substituteWord turned turned turned turned ^^^ word constant 0 0 0
      extend count (double constant) (schedule.push next)
    else extend count constant (schedule.push (before ^^^ last))

/-- Splits octets into words. -/
def words : Bytes → List UInt32
  | a :: b :: c :: d :: rest => word a b c d :: words rest
  | _ => []

/-- The round keys of a key of sixteen octets. -/
def schedule (key : Bytes) : Schedule := extend 40 1 (words key).toArray

/-- One mixed column of the next state. -/
def column (a b c d key : UInt32) : UInt32 :=
  mixed0.getD (octet a 0).toNat 0 ^^^ mixed1.getD (octet b 1).toNat 0 ^^^
    mixed2.getD (octet c 2).toNat 0 ^^^ mixed3.getD (octet d 3).toNat 0 ^^^ key

/-- Nine mixing rounds and the last, which does not mix. -/
def rounds (keys : Schedule) : (left : Nat) → (place : Nat) → (a b c d : UInt32) → Bytes
  | 0, place, a, b, c, d =>
    let final (index : Nat) (a b c d : UInt32) : Bytes :=
      wordBytes (substituteWord a b c d ^^^ keys.getD (place + index) 0)
    final 0 a b c d ++ final 1 b c d a ++ final 2 c d a b ++ final 3 d a b c
  | left + 1, place, a, b, c, d =>
    rounds keys left (place + 4)
      (column a b c d (keys.getD place 0)) (column b c d a (keys.getD (place + 1) 0))
      (column c d a b (keys.getD (place + 2) 0)) (column d a b c (keys.getD (place + 3) 0))

/-- Encrypts a block of sixteen octets. -/
def block (keys : Schedule) (plain : Bytes) : Bytes :=
  match words plain with
  | [a, b, c, d] =>
    rounds keys 9 4 (a ^^^ keys.getD 0 0) (b ^^^ keys.getD 1 0) (c ^^^ keys.getD 2 0)
      (d ^^^ keys.getD 3 0)
  | _ => []

end GameTransport.Aes
