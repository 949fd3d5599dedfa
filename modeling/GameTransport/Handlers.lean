import GameTransport.Packet.Handshake
import GameTransport.Packet.Status
import GameTransport.Session
import GameTransport.StateRegistries

/-!
# The default registries

They take a client from the handshake into PLAY.

```text
HANDSHAKING  Handshake           remember the protocol version, go to the state asked for
STATUS       StatusRequest       StatusResponse
             PingRequest         PongResponse, close
LOGIN        LoginStart          with a key pair: EncryptionRequest; without: finish the login
             EncryptionResponse  check the token, enable encryption, finish the login
PLAY         KeepAlive           nothing

finish the login: with a threshold, SetCompression and compression; LoginSuccess; go to PLAY
```

PLAY is left open: an application adds its own packets to the builder.  Without an identity
service the identifier that a client sends is believed; one that sends none is given a random one.
-/

namespace GameTransport

namespace Handlers

variable {α : Type}

def handshake : Handler (Session α) Handshake := fun packet =>
  modify fun session =>
    (session.setProtocolVersion packet.protocolVersion).requestTransition packet.nextState

def statusRequest : Handler (Session α) StatusRequest := fun _ =>
  modify fun session => session.send (StatusResponse.mk session.server.status.toJson)

def pingRequest : Handler (Session α) PingRequest := fun packet =>
  modify fun session => (session.send (PongResponse.mk packet.payload)).disconnect

/-- Announces compression and switches it on, if the server compresses. -/
def announceCompression (session : Session α) : Session α :=
  match session.server.config.compressionThreshold with
  | some threshold =>
    (session.send (SetCompression.mk threshold.toUInt32)).enableCompression threshold.toNat
      session.server.config.compressionLevel.toNat
  | none => session

/-- The identifier of the player, drawn if the client sent none. -/
def playerUuid (session : Session α) : Uuid × Session α :=
  match session.uuid with
  | some uuid => (uuid, session)
  | none => session.drawUuid

/-- Lets the client in. -/
def finishLogin (session : Session α) : Session α :=
  let (uuid, session) := playerUuid (announceCompression session)
  let username := session.username.getD ""
  ((session.setProfile username (some uuid)).send (LoginSuccess.mk uuid username)).requestTransition
    .play

def loginStart : Handler (Session α) LoginStart := fun packet => do
  if (← get).username.isSome then throw (.invalidData .duplicateLogin)
  if packet.username.isEmpty then throw (.invalidData .emptyUsername)
  modify (·.setProfile packet.username packet.uuid)
  modify fun session =>
    match session.server.key with
    | some key =>
      let (verifyToken, session) := session.issueVerifyToken
      session.send { serverId := "", publicKey := key.publicDer, verifyToken : EncryptionRequest }
    | none => finishLogin session

def encryptionResponse : Handler (Session α) EncryptionResponse := fun packet => do
  let (expected?, session) := (← get).takeVerifyToken
  set session
  let some expected := expected? | throw (.invalidData .unrequestedResponse)
  let some key := session.server.key | throw (.crypto .noKeyPair)
  match key.openResponse packet.sharedSecret packet.verifyToken expected with
  | .error fault => throw fault
  | .ok secret => set (finishLogin (session.enableEncryption secret))

def keepAlive : Handler (Session α) KeepAlive := fun _ => return

/-- The registry of PLAY before an application adds to it. -/
def play : Registry.Builder (Session α) :=
  let empty : Registry.Builder (Session α) := { name := ConnectionState.play.name }
  ((empty.addWith keepAlive).onAttach (·.count Metrics.joined)).onDetach (·.count Metrics.left)

/-- The default registries with another one for PLAY. -/
def withPlay (play : Registry.Builder (Session α)) : StateRegistries (Session α) where
  handshaking :=
    let empty : Registry.Builder (Session α) := { name := ConnectionState.handshaking.name }
    (empty.addWith handshake).build
  status :=
    let empty : Registry.Builder (Session α) := { name := ConnectionState.status.name }
    ((empty.addWith statusRequest).addWith pingRequest).build
  login :=
    let empty : Registry.Builder (Session α) := { name := ConnectionState.login.name }
    ((empty.addWith loginStart).addWith encryptionResponse).build
  play := play.build

/-- The default registries. -/
def registries : StateRegistries (Session α) := withPlay play

end Handlers

end GameTransport
