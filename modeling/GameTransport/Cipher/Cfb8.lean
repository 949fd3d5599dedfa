import GameTransport.Bytes

/-!
# Cipher feedback, one octet at a time

The register holds the last sixteen octets of ciphertext.  Each octet of the stream is combined
with the first octet of the encrypted register, and the octet of ciphertext, whichever side of the
step it is on, is shifted into the register.  So a stream may be cut anywhere.

Any function may stand for the block cipher.
-/

namespace GameTransport

/-- One direction of a stream. -/
structure Cfb8 where
  /-- The block cipher under its key. -/
  block : Bytes → Bytes
  /-- The last octets of ciphertext. -/
  register : Bytes

namespace Cfb8

/-- What the next octet of the stream is combined with. -/
def mask (stream : Cfb8) : UInt8 := (stream.block stream.register).headD 0

/-- Shifts an octet of ciphertext into the register. -/
def shift (stream : Cfb8) (cipher : UInt8) : Cfb8 :=
  { stream with register := stream.register.tail ++ [cipher] }

def encryptByte (stream : Cfb8) (plain : UInt8) : UInt8 × Cfb8 :=
  let cipher := plain ^^^ stream.mask
  (cipher, stream.shift cipher)

def decryptByte (stream : Cfb8) (cipher : UInt8) : UInt8 × Cfb8 :=
  (cipher ^^^ stream.mask, stream.shift cipher)

/-- Takes octets one after another through a step; `done` holds the results so far, last first. -/
def passFrom (step : Cfb8 → UInt8 → UInt8 × Cfb8) (done : Bytes) (stream : Cfb8) :
    Bytes → Bytes × Cfb8
  | [] => (done.reverse, stream)
  | b :: rest =>
    let (result, stream) := step stream b
    passFrom step (result :: done) stream rest

def encrypt (stream : Cfb8) (plain : Bytes) : Bytes × Cfb8 := passFrom encryptByte [] stream plain

def decrypt (stream : Cfb8) (cipher : Bytes) : Bytes × Cfb8 := passFrom decryptByte [] stream cipher

theorem length_passFrom (step : Cfb8 → UInt8 → UInt8 × Cfb8) (done : Bytes) (stream : Cfb8)
    (bytes : Bytes) : (passFrom step done stream bytes).1.length = done.length + bytes.length := by
  induction bytes generalizing done stream with
  | nil => simp [passFrom]
  | cons b rest ih =>
    rw [passFrom, ih]
    simp only [List.length_cons]
    omega

@[simp] theorem length_encrypt (stream : Cfb8) (plain : Bytes) :
    (stream.encrypt plain).1.length = plain.length := by
  simp [encrypt, length_passFrom]

@[simp] theorem length_decrypt (stream : Cfb8) (cipher : Bytes) :
    (stream.decrypt cipher).1.length = cipher.length := by
  simp [decrypt, length_passFrom]

end Cfb8

end GameTransport
