import GameTransport.Zlib.Basic

/-!
# Inflating

The decoder of RFC 1950 and RFC 1951.  Input is taken bit by bit, low bits first; output goes to a
buffer of a fixed capacity, of which any part may be repeated.

Decoding stops at the first of four events: the checksum has been read, the data breaks the
format, the input has run out, or one octet more is to be written than the buffer holds.
-/

namespace GameTransport.Zlib.Inflate

/-- Where decoding is. -/
structure State where
  /-- The bits taken so far. -/
  position : Nat
  output : ByteArray

/-- Why decoding stops before the end of the stream. -/
inductive Stop where
  | corrupt
  /-- No more input, or no more room. -/
  | exhausted

/-- A step of decoding. -/
abbrev Step := EStateM Stop State

/-- Takes one bit. -/
def bit (input : ByteArray) : Step Nat := fun s =>
  let index := s.position / 8
  if h : index < input.size then
    let b := (input[index] >>> UInt8.ofNat (s.position % 8)) &&& 1
    .ok b.toNat { s with position := s.position + 1 }
  else .error .exhausted s

/-- Takes a number of `count` bits. -/
def bits (input : ByteArray) : (count : Nat) → Step Nat
  | 0 => return 0
  | count + 1 => do
    let low ← bit input
    let high ← bits input count
    return low + 2 * high

/-- Goes on to the next whole octet. -/
def align : Step Unit := modify fun s => { s with position := (s.position + 7) / 8 * 8 }

/-- Takes the octets of a number, the first of them lowest. -/
def octets (input : ByteArray) (count : Nat) : Step Nat := bits input (8 * count)

/-- Writes one octet. -/
def put (capacity : Nat) (b : UInt8) : Step Unit := fun s =>
  if s.output.size < capacity then .ok () { s with output := s.output.push b }
  else .error .exhausted s

/-- Repeats `count` octets of the output from `distance` back. -/
def repeatBack (capacity distance : Nat) : (count : Nat) → Step Unit
  | 0 => return
  | count + 1 => do
    let s ← get
    let some b := s.output[s.output.size - distance]? | throw .corrupt
    put capacity b
    repeatBack capacity distance count

/-! ### Prefix codes -/

/-- The words of one length in a canonical prefix code. -/
structure Level where
  /-- How many words have the length. -/
  count : Nat
  /-- How many runs of bits of the length begin longer words. -/
  begun : Nat

/-- A canonical prefix code: its words of each length, from one bit on, and its symbols in the
order of their words. -/
structure Code where
  levels : List Level
  symbols : Array Nat

/-- The longest word of a code. -/
def maxWord : Nat := 15

/-- The levels with the given numbers of words, and the number of runs one bit shorter than the
first of them that begin words. -/
def levelsOf : List Nat → List Level × Nat
  | [] => ([], 0)
  | count :: longer =>
    let (rest, begun) := levelsOf longer
    (⟨count, begun⟩ :: rest, (count + begun + 1) / 2)

/-- The code whose symbols have words of the given lengths; zero stands for no word. -/
def Code.ofLengths (lengths : List Nat) : Code :=
  let indexed := lengths.zipIdx
  let ofLength (length : Nat) : List Nat :=
    indexed.filterMap fun (l, symbol) => if l = length then some symbol else none
  let groups := (List.range maxWord).map fun l => ofLength (l + 1)
  { levels := (levelsOf (groups.map List.length)).1
    symbols := groups.flatten.toArray }

/-- The words of length `maxWord` that begin with no word of a code: negative for lengths that no
code has. -/
def Code.unused (code : Code) : Int :=
  code.levels.foldl (fun (free : Int) level => 2 * free - level.count) 1

/-- Takes a word of a code bit by bit, up to the first bit with which no word goes on.  `word` is
what has been taken, `first` the first word of its length, and `index` the number of shorter
words. -/
def symbolFrom (input : ByteArray) (symbols : Array Nat) :
    List Level → (word first index : Nat) → Step Nat
  | [], _, _, _ => throw .corrupt
  | level :: longer, word, first, index => do
    let word := 2 * word + (← bit input)
    let first := 2 * first
    let next := first + level.count
    if word < next then
      let some symbol := symbols[index + (word - first)]? | throw .corrupt
      return symbol
    else if word < next + level.begun then
      symbolFrom input symbols longer word next (index + level.count)
    else throw .corrupt

/-- Takes the symbol that the next word stands for. -/
def symbol (input : ByteArray) (code : Code) : Step Nat :=
  symbolFrom input code.symbols code.levels 0 0 0

/-! ### Blocks -/

/-- Takes the extra bits of a length or distance. -/
def inRange (input : ByteArray) (ranges : Array Range) (index : Nat) : Step Nat := do
  let some range := ranges[index]? | throw .corrupt
  return range.base + (← bits input range.extra)

/-- Takes literals and matches up to the end of the block.  Each takes a bit at least, so the
number of bits bounds them. -/
def matchesOf (input : ByteArray) (capacity : Nat) (literals distances : Code) :
    (fuel : Nat) → Step Unit
  | 0 => throw .exhausted
  | fuel + 1 => do
    let s ← symbol input literals
    if s < 256 then
      put capacity (UInt8.ofNat s)
      matchesOf input capacity literals distances fuel
    else if s = 256 then return
    else
      let length ← inRange input lengthRanges (s - 257)
      let distance ← inRange input distanceRanges (← symbol input distances)
      if (← get).output.size < distance then throw .corrupt
      repeatBack capacity distance length
      matchesOf input capacity literals distances fuel

/-- Copies `count` octets. -/
def copy (input : ByteArray) (capacity : Nat) : (count : Nat) → Step Unit
  | 0 => return
  | count + 1 => do
    let b ← octets input 1
    put capacity (UInt8.ofNat b)
    copy input capacity count

/-- A block that is not compressed. -/
def stored (input : ByteArray) (capacity : Nat) : Step Unit := do
  align
  let length ← octets input 2
  let complement ← octets input 2
  if length + complement ≠ 65535 then throw .corrupt
  copy input capacity length

/-- The order in which the lengths of the code of lengths stand. -/
def lengthOrder : List Nat :=
  [16, 17, 18, 0, 8, 7, 9, 6, 10, 5, 11, 4, 12, 3, 13, 2, 14, 1, 15]

/-- Takes the lengths of two codes, `wanted` of them in all.  `done` holds those taken, last
first. -/
def lengthsFrom (input : ByteArray) (code : Code) (wanted : Nat) :
    (fuel : Nat) → (done : List Nat) → Step (List Nat)
  | 0, _ => throw .corrupt
  | fuel + 1, done => do
    if done.length = wanted then return done.reverse
    else if wanted < done.length then throw .corrupt
    else
      let s ← symbol input code
      if s < 16 then lengthsFrom input code wanted fuel (s :: done)
      else if s = 16 then
        let last :: _ := done | throw .corrupt
        let count := 3 + (← bits input 2)
        lengthsFrom input code wanted fuel (List.replicate count last ++ done)
      else
        let count ← if s = 17 then (3 + ·) <$> bits input 3 else (11 + ·) <$> bits input 7
        lengthsFrom input code wanted fuel (List.replicate count 0 ++ done)

/-- Whether no word is longer than one bit. -/
def Code.isShort (code : Code) : Bool := code.levels.tail.all fun level => level.count = 0

/-- A code must use all its words, unless it has no symbol or gives a single one a word of one
bit. -/
def Code.isAdmissible (code : Code) : Bool :=
  code.unused = 0 || (0 < code.unused && code.isShort)

/-- The codes in front of a block that has codes of its own. -/
def codes (input : ByteArray) : Step (Code × Code) := do
  let literalCount := 257 + (← bits input 5)
  let distanceCount := 1 + (← bits input 5)
  let lengthCount := 4 + (← bits input 4)
  if 286 < literalCount || 30 < distanceCount then throw .corrupt
  let given ← (lengthOrder.take lengthCount).mapM fun s => do return (s, ← bits input 3)
  let lengthLengths := (List.range 19).map fun s => (given.lookup s).getD 0
  let lengthCode := Code.ofLengths lengthLengths
  if lengthCode.unused ≠ 0 then throw .corrupt
  let wanted := literalCount + distanceCount
  let lengths ← lengthsFrom input lengthCode wanted (wanted + 1) []
  let literals := Code.ofLengths (lengths.take literalCount)
  let distances := Code.ofLengths (lengths.drop literalCount)
  if literals.isAdmissible && distances.isAdmissible then return (literals, distances)
  else throw .corrupt

def fixedLiterals : Code := Code.ofLengths fixedLiteralLengths

def fixedDistances : Code := Code.ofLengths fixedDistanceLengths

/-- Takes blocks up to the last.  Each takes a bit at least. -/
def blocks (input : ByteArray) (capacity : Nat) : (fuel : Nat) → Step Unit
  | 0 => throw .exhausted
  | fuel + 1 => do
    let last ← bit input
    let kind ← bits input 2
    let symbols := 8 * input.size + 1
    match kind with
    | 0 => stored input capacity
    | 1 => matchesOf input capacity fixedLiterals fixedDistances symbols
    | 2 =>
      let (literals, distances) ← codes input
      matchesOf input capacity literals distances symbols
    | _ => throw .corrupt
    if last = 1 then return else blocks input capacity fuel

/-- The two octets in front: the method with the size of the window, and flags that make the two a
multiple of 31. -/
def header (input : ByteArray) : Step Unit := do
  let method ← octets input 1
  let flags ← octets input 1
  let hasDictionary := flags / 32 % 2 = 1
  if method % 16 ≠ 8 || 7 < method / 16 || (method * 256 + flags) % 31 ≠ 0 || hasDictionary then
    throw .corrupt

/-- Header, blocks and checksum. -/
def stream (input : ByteArray) (capacity : Nat) : Step Unit := do
  header input
  blocks input capacity (8 * input.size + 1)
  align
  let stored ← (List.range 4).mapM fun _ => octets input 1
  let written := checksum (← get).output.toList
  if Bytes.toNat (stored.map UInt8.ofNat) ≠ written then throw .corrupt

end Inflate

/-- Inflates a stream of the standard format. -/
def inflate (capacity : Nat) (bytes : Bytes) : Inflated :=
  let input := bytes.toByteArray
  match Inflate.stream input capacity ⟨0, ByteArray.empty⟩ with
  | .ok () s => .finished s.output.toList (input.size - s.position / 8)
  | .error .corrupt _ => .corrupt
  | .error .exhausted s => .stopped s.output.toList

end GameTransport.Zlib
