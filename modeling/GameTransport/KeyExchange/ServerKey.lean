import GameTransport.Cipher.Duplex
import GameTransport.Fault
import GameTransport.KeyExchange.Der

/-!
# The server's side of the key exchange

The server sends its public key and a token.  The client answers with a secret and the token, both
under that key.  The answer is accepted if the token can be read and is the one that was sent, and
the secret can be read and has the right length; the first of these that fails is the fault.

A login needs of a key only how it is sent and what it decrypts, so any decryption may stand for
RSA.
-/

namespace GameTransport

/-- A key pair as a login sees it. -/
structure ServerKey where
  /-- The public half in DER. -/
  publicDer : Bytes
  /-- What a message under the public half says, if it says anything. -/
  decrypt? : Bytes → Option Bytes

namespace ServerKey

/-- The number of octets of a token. -/
def tokenLength : Nat := 4

def ofKeyPair (pair : Rsa.KeyPair) : ServerKey where
  publicDer := Der.encode pair.publicKey
  decrypt? := pair.decrypt?

/-- The secret in an answer, if the answer gives `expected` back. -/
def openResponse (key : ServerKey) (secret token expected : Bytes) : Except Fault SharedSecret :=
  match key.decrypt? token with
  | none => .error (.crypto .tokenUnreadable)
  | some given =>
    if given ≠ expected then .error .tokenMismatch
    else match key.decrypt? secret with
      | none => .error (.crypto .secretUnreadable)
      | some bytes =>
        match SharedSecret.ofBytes? bytes with
        | none => .error (.crypto (.secretLength SharedSecret.length bytes.length))
        | some secret => .ok secret

end ServerKey

end GameTransport
