import GameTransport.Handlers.Untyped
import GameTransport.Link
import GameTransport.LoopPool
import GameTransport.Main
import GameTransport.Packet.Kind
import GameTransport.Proofs.Admission
import GameTransport.Proofs.Agreement
import GameTransport.Proofs.Arrival
import GameTransport.Proofs.Blame
import GameTransport.Proofs.Endings
import GameTransport.Proofs.FrameGrammar
import GameTransport.Proofs.Gauges
import GameTransport.Proofs.Hooks
import GameTransport.Proofs.Inflating
import GameTransport.Proofs.Kinds
import GameTransport.Proofs.Login
import GameTransport.Proofs.LoopCalls
import GameTransport.Proofs.OldClients
import GameTransport.Proofs.Outbound
import GameTransport.Proofs.Passage
import GameTransport.Proofs.Registrations
import GameTransport.Proofs.Rejections
import GameTransport.Proofs.Representation
import GameTransport.Proofs.Resuming
import GameTransport.Proofs.Schedules
import GameTransport.Proofs.SeenStates
import GameTransport.Proofs.Servers
import GameTransport.Proofs.Shapes
import GameTransport.Proofs.StatusTalks
import GameTransport.Proofs.Tallies
import GameTransport.Proofs.Timeouts
import GameTransport.Proofs.Untyped
import GameTransport.ProtocolState
import GameTransport.Server
import GameTransport.Zlib.Machine
import GameTransport.Zlib.Standard
import GameTransport.Proofs.StoredStreams
import GameTransport.Proofs.Pieces
import GameTransport.Proofs.Unpacking
import GameTransport.Proofs.Packing
import GameTransport.Proofs.CipherChunks
import GameTransport.Proofs.Dispatches
import GameTransport.Proofs.QueueOrder
import GameTransport.Proofs.Rounds
import GameTransport.Proofs.TextLimits
import GameTransport.Proofs.Settings
import GameTransport.Proofs.Followers
import GameTransport.Proofs.FailedFrames
import GameTransport.Proofs.Comments
import GameTransport.Proofs.Thresholds
import GameTransport.Proofs.CutAnswers
import GameTransport.Proofs.Digits
