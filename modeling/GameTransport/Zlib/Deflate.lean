import GameTransport.Zlib.Basic

/-!
# Deflating

An encoder of RFC 1950 and RFC 1951.  It writes one block with the fixed codes, in which an octet
run that occurred before is a match with the last place where its first three octets occurred.
Data that such a block would not make shorter, and all data at level zero, is stored.
-/

namespace GameTransport.Zlib.Deflate

/-! ### Bits -/

/-- What has been written: whole octets, and `count` bits that do not fill one. -/
structure Sink where
  octets : ByteArray
  pending : Nat
  count : Nat

namespace Sink

/-- Moves whole octets out of the pending bits. -/
def spill (octets : ByteArray) (pending count : Nat) : Sink :=
  if count < 8 then ⟨octets, pending, count⟩
  else spill (octets.push (UInt8.ofNat pending)) (pending / 256) (count - 8)

/-- Writes the `width` low bits of `value`, lowest first. -/
def bits (sink : Sink) (width value : Nat) : Sink :=
  spill sink.octets (sink.pending + value <<< sink.count) (sink.count + width)

/-- The octets written, the last of them filled with zeros. -/
def close (sink : Sink) : ByteArray :=
  if sink.count = 0 then sink.octets else sink.octets.push (UInt8.ofNat sink.pending)

end Sink

/-- The `width` low bits of `n` in reverse. -/
def reversed : (width : Nat) → (n : Nat) → Nat
  | 0, _ => 0
  | width + 1, n => n % 2 * Nat.pow 2 width + reversed width (n / 2)

/-! ### Fixed codes -/

/-- The width and the word of a literal, a length symbol or the end of the block.  Words go out
highest bit first. -/
def literalWord (symbol : Nat) : Nat × Nat :=
  if symbol < 144 then (8, reversed 8 (48 + symbol))
  else if symbol < 256 then (9, reversed 9 (400 + (symbol - 144)))
  else if symbol < 280 then (7, reversed 7 (symbol - 256))
  else (8, reversed 8 (192 + (symbol - 280)))

/-- The words of all symbols. -/
def literalWords : Array (Nat × Nat) := ((List.range 288).map literalWord).toArray

def Sink.symbol (sink : Sink) (symbol : Nat) : Sink :=
  let (width, word) := literalWords.getD symbol (0, 0)
  sink.bits width word

/-- The last of some ranges that does not lie beyond `n`: its index, and how far `n` is into
it. -/
def locate (ranges : Array Range) (n : Nat) : Nat × Nat × Nat :=
  let found := ranges.toList.zipIdx.foldl
    (fun (best : Nat × Range) (range, index) => if range.base ≤ n then (index, range) else best)
    (0, ⟨0, 0⟩)
  (found.1, found.2.extra, n - found.2.base)

/-- The symbol, the width and the value of the extra bits of each length. -/
def lengthSymbols : Array (Nat × Nat × Nat) :=
  ((List.range 259).map (locate lengthRanges)).toArray

/-- Writes a match. -/
def Sink.pair (sink : Sink) (length distance : Nat) : Sink :=
  let (symbol, extra, offset) := lengthSymbols.getD length (0, 0, 0)
  let sink := (sink.symbol (257 + symbol)).bits extra offset
  let (symbol, extra, offset) := locate distanceRanges distance
  (sink.bits 5 (reversed 5 symbol)).bits extra offset

/-! ### Matches -/

/-- The size of the table of places. -/
def tableSize : Nat := 32768

/-- The longest match. -/
def maxMatch : Nat := 258

/-- Where in the table the three octets at `index` belong. -/
def slot (input : ByteArray) (index : Nat) : Nat :=
  let octet (i : Nat) : Nat := (input[i]?.getD 0).toNat
  (octet index * 5003 + octet (index + 1) * 131 + octet (index + 2)) % tableSize

/-- The number of equal octets from `left` and from `right` on, at most `limit`. -/
def common (input : ByteArray) (left right : Nat) : (limit : Nat) → (found : Nat) → Nat
  | 0, found => found
  | limit + 1, found =>
    if input[left + found]? = input[right + found]? then common input left right limit (found + 1)
    else found

/-- Writes literals and matches from `index` on.  `places` holds one more than the last place of
the octets that belong to each slot. -/
def body (input : ByteArray) :
    (fuel index : Nat) → (places : Array Nat) → Sink → Sink
  | 0, _, _, sink => sink
  | fuel + 1, index, places, sink =>
    if h : index < input.size then
      if index + 3 ≤ input.size then
        let slot := slot input index
        let place := places.getD slot 0
        let places := places.setIfInBounds slot (index + 1)
        let distance := index + 1 - place
        let length :=
          if place = 0 || tableSize < distance then 0
          else common input (place - 1) index (min maxMatch (input.size - index)) 0
        if 3 ≤ length then body input fuel (index + length) places (sink.pair length distance)
        else body input fuel (index + 1) places (sink.symbol input[index].toNat)
      else body input fuel (index + 1) places (sink.symbol input[index].toNat)
    else sink

/-- One block with the fixed codes. -/
def fixedBlock (input : ByteArray) : ByteArray :=
  let opened := (Sink.mk ByteArray.empty 0 0).bits 3 3
  ((body input input.size 0 (Array.replicate tableSize 0) opened).symbol 256).close

/-- The most octets of a stored block. -/
def maxStored : Nat := 65535

/-- Blocks of stored octets. -/
def storedBlocks : (fuel : Nat) → Bytes → Bytes
  | 0, _ => []
  | fuel + 1, bytes =>
    let rest := bytes.drop maxStored
    let block := bytes.take maxStored
    let length := block.length
    let low (n : Nat) : Bytes := [UInt8.ofNat n, UInt8.ofNat (n / 256)]
    let head : UInt8 := if rest.isEmpty then 1 else 0
    (head :: low length ++ low (maxStored - length) ++ block)
      ++ (if rest.isEmpty then [] else storedBlocks fuel rest)

end Deflate

/-- A stream of the standard format. -/
def deflate (level : Nat) (bytes : Bytes) : Bytes :=
  let stored (_ : Unit) : Bytes :=
    Deflate.storedBlocks (bytes.length / Deflate.maxStored + 1) bytes
  let blocks :=
    if level = 0 then stored ()
    else
      let block := (Deflate.fixedBlock bytes.toByteArray).toList
      if block.length < bytes.length + 5 then block else stored ()
  [0x78, 0x9C] ++ blocks ++ Bytes.ofNat 4 (checksum bytes)

end GameTransport.Zlib
