import GameTransport.ConnectionState
import GameTransport.Entropy
import GameTransport.Json.Value
import GameTransport.KeyExchange.ServerKey
import GameTransport.LegacyPing
import GameTransport.Metrics
import GameTransport.Packet.Play
import GameTransport.ServerConfig
import GameTransport.ServerStatus

/-!
# Sessions

A session is what handlers and hooks see of a connection.  They never touch the stream or the
codec: they queue actions, which the connection carries out in order once the handler is done.
The order is what makes a login work:

```text
enable encryption → send SetCompression → enable compression → send LoginSuccess → go to PLAY
```

A session keeps a value of type `α` for the application that the server is part of.
-/

namespace GameTransport

/-- What all connections of a server share. -/
structure ServerContext where
  config : ServerConfig
  /-- The key pair of a server whose logins go through the key exchange. -/
  key : Option ServerKey
  metrics : Metrics := {}

namespace ServerContext

/-- The context of a server that just started; `key` is a fresh key pair. -/
def start (config : ServerConfig) (key : ServerKey) : ServerContext :=
  { config, key := if config.onlineMode then some key else none }

/-- What a client in STATUS is told. -/
def status (server : ServerContext) : ServerStatus where
  versionName := server.config.versionName
  protocol := server.config.protocolVersion
  maxPlayers := server.config.maxPlayers
  online := server.metrics.playersOnline
  motd := server.config.motd

/-- What an old client is told. -/
def legacyStatus (server : ServerContext) : LegacyPing.Status where
  protocol := server.config.protocolVersion
  version := server.config.versionName
  motd := server.config.motd
  online := server.metrics.playersOnline
  max := server.config.maxPlayers

end ServerContext

/-- Work for the connection. -/
inductive Action where
  /-- Sends a packet: the number of its kind and its body. -/
  | send (packet : Bytes)
  | enableCompression (threshold level : Nat)
  | enableEncryption (secret : SharedSecret)
  | transition (target : ConnectionState)
  /-- Closes the connection after what was queued before. -/
  | disconnect
  deriving DecidableEq, Repr

structure Session (α : Type) where
  id : ConnectionId
  peer : Option SocketAddress
  /-- The state of the connection, as of the last transition carried out. -/
  state : ConnectionState := .handshaking
  server : ServerContext
  /-- As the handshake told. -/
  protocolVersion : Option Int32 := none
  username : Option String := none
  uuid : Option Uuid := none
  /-- The token of the key exchange that is under way. -/
  verifyToken : Option Bytes := none
  /-- In the order in which they were queued. -/
  actions : List Action := []
  entropy : Entropy
  app : α

namespace Session

variable {α : Type}

/-! ### Queueing -/

def queue (session : Session α) (action : Action) : Session α :=
  { session with actions := session.actions ++ [action] }

def send {β : Type} [Packet β] (session : Session α) (packet : β) : Session α :=
  session.queue (.send (Packet.encode packet))

def sendRaw (session : Session α) (packet : RawPacket) : Session α :=
  session.queue (.send packet.encode)

/-- Asks for a transition.  Whether it can be made shows when it is. -/
def requestTransition (session : Session α) (target : ConnectionState) : Session α :=
  session.queue (.transition target)

def enableCompression (session : Session α) (threshold level : Nat) : Session α :=
  session.queue (.enableCompression threshold level)

def enableEncryption (session : Session α) (secret : SharedSecret) : Session α :=
  session.queue (.enableEncryption secret)

def disconnect (session : Session α) : Session α := session.queue .disconnect

/-- A reason for closing a connection, as clients show it. -/
def reasonJson (reason : String) : String := Json.writeObject [("text", Json.quote reason)]

/-- Closes the connection, and says why in the states that have a packet for it. -/
def disconnectWith (session : Session α) (reason : String) : Session α :=
  let reason := reasonJson reason
  match session.state with
  | .login => (session.send (LoginDisconnect.mk reason)).disconnect
  | .play => (session.send (Disconnect.mk reason)).disconnect
  | .handshaking | .status => session.disconnect

def hasPendingActions (session : Session α) : Bool := !session.actions.isEmpty

def takeActions (session : Session α) : List Action × Session α :=
  (session.actions, { session with actions := [] })

/-! ### Login -/

def setProtocolVersion (session : Session α) (version : Int32) : Session α :=
  { session with protocolVersion := some version }

def setProfile (session : Session α) (username : String) (uuid : Option Uuid) : Session α :=
  { session with username := some username, uuid }

/-- Draws a token for a key exchange. -/
def issueVerifyToken (session : Session α) : Bytes × Session α :=
  let (token, entropy) := session.entropy.draw ServerKey.tokenLength
  (token, { session with verifyToken := some token, entropy })

/-- Takes the token of the key exchange that is under way. -/
def takeVerifyToken (session : Session α) : Option Bytes × Session α :=
  (session.verifyToken, { session with verifyToken := none })

/-- Draws an identifier. -/
def drawUuid (session : Session α) : Uuid × Session α :=
  let (bytes, entropy) := session.entropy.draw 16
  (Uuid.ofRandom bytes, { session with entropy })

/-- Changes the counters of the server. -/
def count (session : Session α) (change : Metrics → Metrics) : Session α :=
  { session with server := { session.server with metrics := change session.server.metrics } }

end Session

end GameTransport
