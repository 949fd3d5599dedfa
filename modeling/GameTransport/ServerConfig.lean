import GameTransport.Address
import GameTransport.Envelope
import GameTransport.Frame
import GameTransport.Note

/-!
# Configuration of a server

A configuration is checked before a server is made from it.  The first of four problems, in a
fixed order, refuses it; a limit of players beyond the limit of connections is only noted.
-/

namespace GameTransport

structure ServerConfig where
  bindAddress : SocketAddress := { ip := .unspecified, port := 25565 }
  /-- The most connections at a time. -/
  maxConnections : UInt64 := 1000
  /-- The most connections that wait to be accepted. -/
  backlog : UInt32 := 1024
  /-- How long a connection may be silent. -/
  readTimeout : Duration := .ofSeconds 30
  /-- The number of workers; zero stands for one for each core. -/
  workerThreads : UInt64 := 0
  /-- From which length on payloads are compressed; none if they never are. -/
  compressionThreshold : Option UInt64 := some 256
  compressionLevel : UInt32 := UInt32.ofNat Compression.defaultLevel
  /-- Whether a login goes through the key exchange. -/
  onlineMode : Bool := true
  motd : String := "A Cobble server"
  maxPlayers : UInt64 := 20
  versionName : String := "1.21"
  protocolVersion : Int32 := 767
  deriving DecidableEq, Repr

namespace ServerConfig

/-- The configuration where nothing is configured. -/
def standard : ServerConfig := {}

/-- Why a configuration is refused. -/
inductive Problem where
  | noConnections
  | noReadTimeout
  | levelTooHigh
  | thresholdTooHigh
  deriving DecidableEq, Repr

def Problem.message : Problem → String
  | noConnections => "max_connections must be > 0"
  | noReadTimeout => "read_timeout must be > 0"
  | levelTooHigh => "compression_level must be 0-9"
  | thresholdTooHigh => "compression_threshold must be <= " ++ toString Frame.maxPayload

/-- How the operator is told that a configuration is refused. -/
def Problem.refusal (problem : Problem) : String := "Invalid configuration: " ++ problem.message

/-- The first problem of a configuration. -/
def problem? (config : ServerConfig) : Option Problem :=
  if config.maxConnections = 0 then some .noConnections
  else if config.readTimeout.nanos = 0 then some .noReadTimeout
  else if Compression.maxLevel < config.compressionLevel.toNat then some .levelTooHigh
  else if config.compressionThreshold.any fun t => Frame.maxPayload < t.toNat then
    some .thresholdTooHigh
  else none

/-- What checking a configuration notes.  A refused one is not looked at so far. -/
def notes (config : ServerConfig) : List Note :=
  if config.problem?.isNone && config.maxConnections < config.maxPlayers then
    let players := toString config.maxPlayers.toNat
    let connections := toString config.maxConnections.toNat
    [.warn ("max_players (" ++ players ++ ") exceeds max_connections (" ++ connections ++ ")")]
  else []

/-- The compression that a configuration asks for. -/
def compression? (config : ServerConfig) : Option Compression :=
  config.compressionThreshold.map fun t => ⟨t.toNat, config.compressionLevel.toNat⟩

end ServerConfig

end GameTransport
