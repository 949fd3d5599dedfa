import GameTransport.Bytes

/-!
# RSA

Keys and the encryption of short messages under them, with the padding of PKCS #1 version 1.5.

```text
[00][02][padding: octets other than zero, eight at least][00][message]
```
-/

namespace GameTransport.Rsa

/-! ### Arithmetic -/

/-- `base ^ exponent` modulo `modulus`, by squaring. -/
def power (modulus base exponent : Nat) : Nat :=
  if exponent = 0 then 1 % modulus
  else
    let half := power modulus (base * base % modulus) (exponent / 2)
    if exponent % 2 = 1 then base * half % modulus else half

/-- The greatest common divisor of two numbers, and the factor of the first in it, as a difference
of naturals and hence an integer. -/
def divisor (a b : Nat) : Nat × Int × Int :=
  if b = 0 then (a, 1, 0)
  else
    let (g, x, y) := divisor b (a % b)
    (g, y, x - (a / b : Nat) * y)
termination_by b
decreasing_by exact Nat.mod_lt _ (Nat.pos_of_ne_zero ‹_›)

/-- The inverse of `a` modulo `modulus`, where there is one. -/
def inverse (a modulus : Nat) : Nat :=
  ((divisor a modulus).2.1 % (modulus : Int)).toNat

/-! ### Keys -/

structure PublicKey where
  modulus : Nat
  exponent : Nat
  deriving DecidableEq, Repr

structure KeyPair where
  publicKey : PublicKey
  privateExponent : Nat
  deriving DecidableEq, Repr

/-- The number of octets of a key's numbers. -/
def PublicKey.size (key : PublicKey) : Nat := (key.modulus.log2 + 8) / 8

/-- The pair of two primes, with the usual public exponent. -/
def KeyPair.ofPrimes (p q : Nat) : KeyPair :=
  let exponent := 65537
  { publicKey := ⟨p * q, exponent⟩
    privateExponent := inverse exponent (Nat.lcm (p - 1) (q - 1)) }

/-! ### Messages -/

/-- The least padding. -/
def minPadding : Nat := 8

/-- Pads a message to `size` octets.  The padding repeats the octets of `filler`; none of them may
be zero. -/
def pad? (size : Nat) (filler : Bytes) (message : Bytes) : Option Bytes :=
  let room := size - message.length - 3
  let filler := filler.filter (· != 0)
  if size < message.length + minPadding + 3 || filler.isEmpty then none
  else
    let padding := ((List.replicate room filler).flatten).take room
    some (0 :: 2 :: padding ++ 0 :: message)

/-- The message in a padded one. -/
def unpad? : Bytes → Option Bytes
  | 0 :: 2 :: rest =>
    let padding := rest.takeWhile (· != 0)
    match rest.dropWhile (· != 0) with
    | _ :: message => if minPadding ≤ padding.length then some message else none
    | [] => none
  | _ => none

/-- A message under a public key. -/
def PublicKey.encrypt? (key : PublicKey) (filler message : Bytes) : Option Bytes :=
  (pad? key.size filler message).map fun padded =>
    Bytes.ofNat key.size (power key.modulus padded.toNat key.exponent)

/-- What a message under the public key says.  None if it is no number below the modulus, or if
the padding is not in order. -/
def KeyPair.decrypt? (pair : KeyPair) (message : Bytes) : Option Bytes :=
  let key := pair.publicKey
  let number := message.toNat
  if number < key.modulus then
    unpad? (Bytes.ofNat key.size (power key.modulus number pair.privateExponent))
  else none

end GameTransport.Rsa
