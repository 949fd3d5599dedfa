import GameTransport.KeyExchange.Rsa

/-!
# Public keys in DER

A public key travels as a SubjectPublicKeyInfo: the name of the algorithm, and a string of bits
that holds the modulus and the exponent.  An element of DER is a tag, a length and so many octets;
a length of 128 or more is written as the number of its octets and those octets.
-/

namespace GameTransport.Der

/-- The fewest octets of a number. -/
def octets (n : Nat) : Bytes := Bytes.ofNat (n.log2 / 8 + 1) n

/-- The length of an element. -/
def length (n : Nat) : Bytes :=
  if n < 128 then [UInt8.ofNat n]
  else
    let digits := octets n
    UInt8.ofNat (128 + digits.length) :: digits

/-- An element. -/
def element (tag : UInt8) (content : Bytes) : Bytes := tag :: length content.length ++ content

/-- The octets of a number that is not negative: a zero goes before a set high bit. -/
def unsigned (n : Nat) : Bytes :=
  let digits := octets n
  if (digits.headD 0) < 128 then digits else 0 :: digits

def sequence : UInt8 := 0x30
def integer : UInt8 := 0x02
def bitString : UInt8 := 0x03

/-- The name of the algorithm: the object 1.2.840.113549.1.1.1, without parameters. -/
def algorithm : Bytes :=
  element sequence
    (element 0x06 [0x2A, 0x86, 0x48, 0x86, 0xF7, 0x0D, 0x01, 0x01, 0x01] ++ element 0x05 [])

/-- A public key in DER. -/
def encode (key : Rsa.PublicKey) : Bytes :=
  let numbers := element sequence
    (element integer (unsigned key.modulus) ++ element integer (unsigned key.exponent))
  element sequence (algorithm ++ element bitString (0 :: numbers))

/-- Takes a length off the front. -/
def length? : Bytes → Option (Nat × Bytes)
  | [] => none
  | b :: rest =>
    if b < 128 then some (b.toNat, rest)
    else
      let count := b.toNat - 128
      if rest.length < count then none
      else some (Bytes.toNat (rest.take count), rest.drop count)

/-- Takes an element with a tag off the front: its content and what stands after it. -/
def element? (tag : UInt8) : Bytes → Option (Bytes × Bytes)
  | [] => none
  | b :: rest =>
    if b = tag then
      match length? rest with
      | none => none
      | some (size, rest) =>
        if rest.length < size then none else some (rest.take size, rest.drop size)
    else none

/-- The public key that some octets are. -/
def decode? (bytes : Bytes) : Option Rsa.PublicKey := do
  let (info, []) ← element? sequence bytes | none
  let (name, info) ← element? sequence info
  guard (element sequence name = algorithm)
  let (0 :: bits, []) ← element? bitString info | none
  let (numbers, []) ← element? sequence bits | none
  let (modulus, numbers) ← element? integer numbers
  let (exponent, []) ← element? integer numbers | none
  return ⟨modulus.toNat, exponent.toNat⟩

end GameTransport.Der
