import GameTransport.Packet.Basic

/-!
# The packets of LOGIN

The client gives its name.  A server that wants the stream encrypted sends its public key and a
token, and the client answers with a secret and the token under that key.  Before it lets the
client in, the server may switch compression on.
-/

namespace GameTransport

/-- The most characters of a player's name. -/
def maxUsername : Nat := 16

/-- The most octets of a field under the public key. -/
def maxEncrypted : Nat := 256

/-- The most characters of a reason for closing a connection. -/
def maxReason : Nat := 262144

/-- Gives the name, and the identifier if the client has one. -/
structure LoginStart where
  username : String
  uuid : Option Uuid
  deriving DecidableEq, Repr

/-- Carries the public key of the server, in DER, and a token. -/
structure EncryptionRequest where
  serverId : String
  publicKey : Bytes
  verifyToken : Bytes
  deriving DecidableEq, Repr

/-- Carries the secret and the token under the public key. -/
structure EncryptionResponse where
  sharedSecret : Bytes
  verifyToken : Bytes
  deriving DecidableEq, Repr

/-- Closes the connection, with a reason in JSON. -/
structure LoginDisconnect where
  reason : String
  deriving DecidableEq, Repr

/-- Lets the client in. -/
structure LoginSuccess where
  uuid : Uuid
  username : String
  deriving DecidableEq, Repr

/-- Announces compression of payloads from a threshold on. -/
structure SetCompression where
  threshold : UInt32
  deriving DecidableEq, Repr

/-- The most characters of a server's name. -/
def EncryptionRequest.maxServerId : Nat := 20

/-- The most octets of a public key. -/
def EncryptionRequest.maxPublicKey : Nat := 1024

instance : Packet LoginStart where
  id := 0x00
  name := "LoginStart"
  read := do
    let username ← (Field.string maxUsername).read
    let uuid ← (Field.option Field.uuid).read
    return { username, uuid }
  write packet :=
    (Field.string maxUsername).write packet.username
      ++ (Field.option Field.uuid).write packet.uuid

instance : Packet EncryptionRequest where
  id := 0x01
  name := "EncryptionRequest"
  read := do
    let serverId ← (Field.string EncryptionRequest.maxServerId).read
    let publicKey ← (Field.bytes EncryptionRequest.maxPublicKey).read
    let verifyToken ← (Field.bytes maxEncrypted).read
    return { serverId, publicKey, verifyToken }
  write packet :=
    (Field.string EncryptionRequest.maxServerId).write packet.serverId
      ++ (Field.bytes EncryptionRequest.maxPublicKey).write packet.publicKey
      ++ (Field.bytes maxEncrypted).write packet.verifyToken

instance : Packet EncryptionResponse where
  id := 0x01
  name := "EncryptionResponse"
  read := do
    let sharedSecret ← (Field.bytes maxEncrypted).read
    let verifyToken ← (Field.bytes maxEncrypted).read
    return { sharedSecret, verifyToken }
  write packet :=
    (Field.bytes maxEncrypted).write packet.sharedSecret
      ++ (Field.bytes maxEncrypted).write packet.verifyToken

instance : Packet LoginDisconnect where
  id := 0x00
  name := "LoginDisconnect"
  read := LoginDisconnect.mk <$> (Field.string maxReason).read
  write packet := (Field.string maxReason).write packet.reason

instance : Packet LoginSuccess where
  id := 0x02
  name := "LoginSuccess"
  read := do
    let uuid ← Field.uuid.read
    let username ← (Field.string maxUsername).read
    return { uuid, username }
  write packet :=
    Field.uuid.write packet.uuid ++ (Field.string maxUsername).write packet.username

instance : Packet SetCompression where
  id := 0x03
  name := "SetCompression"
  read := SetCompression.mk <$> Field.varU32.read
  write packet := Field.varU32.write packet.threshold

end GameTransport
