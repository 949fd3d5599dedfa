import GameTransport.ConnectionId
import GameTransport.Duration
import GameTransport.Text.Hexadecimal
import GameTransport.Text.Utf8

/-!
# Faults

Every fault of the transport ends the connection on which it arises.  A fault is a cause, not a
text: `Fault.message` is the one place with the wording.  A fault of the stream itself, or a
silence that lasts too long, is expected churn (`Fault.isTransport`); all else is the doing of the
peer or of a handler.
-/

namespace GameTransport

/-- Why the stream below the frames failed. -/
inductive StreamFault where
  | connectionReset
  | unexpectedEnd
  | brokenPipe
  /-- The stream ended inside a frame. -/
  | cutFrame
  /-- The connection has closed, or its mailbox is full. -/
  | notAccepting (id : ConnectionId)
  /-- Told by the system in its own words. -/
  | other (text : String)
  deriving DecidableEq, Repr

def StreamFault.message : StreamFault → String
  | .connectionReset => "connection reset"
  | .unexpectedEnd => "unexpected end of file"
  | .brokenPipe => "broken pipe"
  | .cutFrame => "bytes remaining on stream"
  | .notAccepting id => "Connection " ++ id.text ++ " is not accepting packets"
  | .other text => text

/-- What is wrong with data that has the right length. -/
inductive DataFault where
  | notText (fault : Utf8.Fault)
  | malformedStatus
  /-- The client began a login twice. -/
  | duplicateLogin
  | emptyUsername
  /-- An answer to a key exchange that is not under way. -/
  | unrequestedResponse
  /-- Told by a handler in its own words. -/
  | other (text : String)
  deriving DecidableEq, Repr

def DataFault.message : DataFault → String
  | .notText fault => "Invalid UTF-8: " ++ fault.message
  | .malformedStatus => "Malformed status JSON"
  | .duplicateLogin => "Duplicate login start"
  | .emptyUsername => "Empty username"
  | .unrequestedResponse => "Encryption response without a pending request"
  | .other text => text

/-- What is wrong with a compression envelope. -/
inductive EnvelopeFault where
  | belowThreshold (declared threshold : Nat)
  | aboveMaximum (declared max : Nat)
  /-- The compressed data breaks its own format. -/
  | corrupt
  | sizeMismatch (inflated declared : Nat)
  | missingChecksum
  | trailing (count : Nat)
  /-- Told by a handler in its own words. -/
  | other (text : String)
  deriving DecidableEq, Repr

def EnvelopeFault.message : EnvelopeFault → String
  | .belowThreshold declared threshold =>
    s!"declared size {declared} is below threshold {threshold}"
  | .aboveMaximum declared max => s!"declared size {declared} exceeds maximum {max}"
  | .corrupt => "deflate decompression error"
  | .sizeMismatch inflated declared => s!"inflated {inflated} bytes, envelope declared {declared}"
  | .missingChecksum => "zlib stream ended before its checksum"
  | .trailing count => s!"{count} bytes after the end of the zlib stream"
  | .other text => text

/-- Why a key exchange failed. -/
inductive CryptoFault where
  | tokenUnreadable
  | secretUnreadable
  | secretLength (expected actual : Nat)
  /-- The server has no key pair. -/
  | noKeyPair
  /-- Told by a handler in its own words. -/
  | other (text : String)
  deriving DecidableEq, Repr

def CryptoFault.message : CryptoFault → String
  | .tokenUnreadable => "Verify token decryption failed: decryption error"
  | .secretUnreadable => "Shared secret decryption failed: decryption error"
  | .secretLength expected actual => s!"Shared secret must be {expected} bytes, got {actual}"
  | .noKeyPair => "No server keypair"
  | .other text => text

/-- Why a connection, or a server, cannot go on. -/
inductive Fault where
  | stream (cause : StreamFault)
  /-- No octet arrived for so long. -/
  | timeout (silence : Duration)
  | sizeExceeded (what : String) (length max : Nat)
  | truncated (what : String) (needed remaining : Nat)
  | invalidData (cause : DataFault)
  | badEnvelope (cause : EnvelopeFault)
  /-- No packet with this number is known to the registry named `registry`. -/
  | unknownPacket (registry : String) (id : UInt32)
  | trailingBytes (packet : String) (remaining : Nat)
  | invalidNextState (id : Int32)
  /-- `source` and `target` are names of connection states. -/
  | invalidTransition (source target : String)
  | tokenMismatch
  | crypto (cause : CryptoFault)
  /-- The handler of `packet` failed with `cause`. -/
  | handler (packet : String) (cause : Fault)
  | config (problem : String)
  | poolShutDown
  deriving DecidableEq, Repr

namespace Fault

/-- The wording of a fault. -/
def message : Fault → String
  | .stream cause => "IO error: " ++ cause.message
  | .timeout silence => "No data received for " ++ silence.text
  | .sizeExceeded what length max => s!"{what} too large: {length} (max {max})"
  | .truncated what needed remaining =>
    s!"Not enough bytes for {what}: need {needed}, have {remaining}"
  | .invalidData cause => "Invalid data: " ++ cause.message
  | .badEnvelope cause => "Compression error: " ++ cause.message
  | .unknownPacket registry id =>
    "Unknown packet ID 0x" ++ Hexadecimal.pad 2 id.toNat ++ " in state " ++ registry
  | .trailingBytes packet remaining => s!"Packet {packet} has {remaining} unread trailing bytes"
  | .invalidNextState id => "Invalid next state: " ++ toString id.toInt
  | .invalidTransition source target => s!"Invalid state transition: {source} -> {target}"
  | .tokenMismatch => "Verify token mismatch"
  | .crypto cause => "Encryption error: " ++ cause.message
  | .handler packet cause => s!"Handler for {packet} failed: " ++ cause.message
  | .config problem => "Configuration error: " ++ problem
  | .poolShutDown => "Event loop pool has been shut down"

/-- Whether the stream or a silence is to blame, below any number of handlers. -/
def isTransport : Fault → Bool
  | .stream _ | .timeout _ => true
  | .handler _ cause => cause.isTransport
  | _ => false

/-- The wording of the cause that a fault wraps, if it wraps one. -/
def cause? : Fault → Option String
  | .stream cause => some cause.message
  | .handler _ cause => some cause.message
  | _ => none

end Fault

end GameTransport
