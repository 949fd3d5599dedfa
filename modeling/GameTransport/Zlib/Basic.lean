import GameTransport.Bytes

/-!
# Compressed data

What the layers above ask of a compression library: `deflate` turns data into one complete stream,
and `inflate` turns such a stream back, writing into a buffer of a given capacity.  The envelopes
take any such pair, so what they need of it can be said of it.
-/

namespace GameTransport.Zlib

/-- How inflating ended. -/
inductive Inflated where
  /-- The data breaks the format. -/
  | corrupt
  /-- The data ran out, or the buffer was full and one octet more was to be written. -/
  | stopped (output : Bytes)
  /-- The stream ended with its checksum; `unread` octets stand after it. -/
  | finished (output : Bytes) (unread : Nat)
  deriving DecidableEq, Repr

/-- A pair of a compressor and a decompressor. -/
structure Library where
  /-- The stream for some data at a level. -/
  deflate : (level : Nat) → Bytes → Bytes
  /-- Inflates into a buffer of `capacity` octets. -/
  inflate : (capacity : Nat) → Bytes → Inflated

/-- The checksum of a stream (Adler-32): the sum of the octets, from one, and the sum of those
sums, both modulo 65521. -/
def checksum (bytes : Bytes) : Nat :=
  let (low, high) := bytes.foldl
    (fun (sums : Nat × Nat) b =>
      let low := (sums.1 + b.toNat) % 65521
      (low, (sums.2 + low) % 65521))
    (1, 0)
  high * 65536 + low

/-- The numbers of a code of lengths or distances: `base` and the count of extra bits of each
symbol. -/
structure Range where
  base : Nat
  extra : Nat
  deriving DecidableEq, Repr

/-- Ranges one after another from `base`, each as long as its extra bits can count. -/
def ranges (base : Nat) : List Nat → List Range
  | [] => []
  | extra :: rest => ⟨base, extra⟩ :: ranges (base + Nat.pow 2 extra) rest

/-- The lengths of a match, by the symbol less 257.  The longest has a symbol of its own. -/
def lengthRanges : Array Range :=
  (ranges 3 [0, 0, 0, 0, 0, 0, 0, 0, 1, 1, 1, 1, 2, 2, 2, 2, 3, 3, 3, 3, 4, 4, 4, 4, 5, 5, 5, 5]
    ++ [Range.mk 258 0]).toArray

/-- The distances of a match, by their symbol. -/
def distanceRanges : Array Range :=
  (ranges 1 [0, 0, 0, 0, 1, 1, 2, 2, 3, 3, 4, 4, 5, 5, 6, 6, 7, 7, 8, 8, 9, 9, 10, 10, 11, 11,
    12, 12, 13, 13]).toArray

/-- The lengths of the fixed code for literals and lengths. -/
def fixedLiteralLengths : List Nat :=
  List.replicate 144 8 ++ List.replicate 112 9 ++ List.replicate 24 7 ++ List.replicate 8 8

/-- The lengths of the fixed code for distances. -/
def fixedDistanceLengths : List Nat := List.replicate 32 5

end GameTransport.Zlib
