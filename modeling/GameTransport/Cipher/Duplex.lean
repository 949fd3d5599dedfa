import GameTransport.Cipher.Aes
import GameTransport.Cipher.Cfb8

/-!
# Both directions of an encrypted stream

After the key exchange both ends hold a secret of sixteen octets.  It is the key and the first
register of each direction; the two directions know nothing of each other after that.
-/

namespace GameTransport

/-- What the two ends agree on. -/
structure SharedSecret where
  bytes : Bytes
  length_eq : bytes.length = 16 := by decide
  deriving DecidableEq, Repr

namespace SharedSecret

/-- The number of octets of a secret. -/
def length : Nat := 16

def ofBytes? (bytes : Bytes) : Option SharedSecret :=
  if h : bytes.length = length then some ⟨bytes, h⟩ else none

end SharedSecret

/-- One stream out and one stream in. -/
structure Duplex where
  outbound : Cfb8
  inbound : Cfb8

namespace Duplex

/-- The streams under a secret. -/
def ofSecret (secret : SharedSecret) : Duplex :=
  let block := Aes.block (Aes.schedule secret.bytes)
  ⟨⟨block, secret.bytes⟩, ⟨block, secret.bytes⟩⟩

def encrypt (duplex : Duplex) (plain : Bytes) : Bytes × Duplex :=
  let (cipher, outbound) := duplex.outbound.encrypt plain
  (cipher, { duplex with outbound })

def decrypt (duplex : Duplex) (cipher : Bytes) : Bytes × Duplex :=
  let (plain, inbound) := duplex.inbound.decrypt cipher
  (plain, { duplex with inbound })

@[simp] theorem length_encrypt (duplex : Duplex) (plain : Bytes) :
    (duplex.encrypt plain).1.length = plain.length := by
  simp [encrypt]

@[simp] theorem length_decrypt (duplex : Duplex) (cipher : Bytes) :
    (duplex.decrypt cipher).1.length = cipher.length := by
  simp [decrypt]

end Duplex

end GameTransport
