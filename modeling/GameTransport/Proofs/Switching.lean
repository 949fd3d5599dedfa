import GameTransport.Proofs.Inlets
import Mathlib.Logic.Function.Basic

/-! # Two codecs that are switched in step

Two peers send each other payloads and turn on the same layers in the course of it.  A `Plan` says
where: a switch is made by each peer when the first side has sent so many payloads and the second so
many.  A peer makes the next switch of the plan at that place and before it encodes or decodes
again; it does not send beyond a place at which it has still to switch.

`Step` is one call of one peer, or the delivery of some of the octets that are on the way to it.
Nothing orders the steps but the plan.
-/

namespace GameTransport.Codec

/-- The two ends of a connection. -/
inductive Side where
  | near
  | far
  deriving DecidableEq, Repr

/-- The end that a side talks to. -/
def Side.other : Side → Side
  | near => far
  | far => near

@[simp] theorem Side.other_other (side : Side) : side.other.other = side := by
  cases side <;> rfl

@[simp] theorem Side.other_ne (side : Side) : side.other ≠ side := by
  cases side <;> exact nofun

@[simp] theorem Side.ne_other (side : Side) : side ≠ side.other := side.other_ne.symm

theorem Side.eq_or_eq_other (side actor : Side) : side = actor ∨ side = actor.other := by
  cases side <;> cases actor <;> simp [Side.other]

/-- A layer that both ends turn on. -/
inductive Layer where
  | compression (threshold level : Nat)
  | encryption (secret : SharedSecret)
  deriving DecidableEq

namespace Layer

def enable : Layer → Codec → Codec
  | compression threshold level, codec => codec.enableCompression threshold level
  | encryption secret, codec => codec.enableEncryption secret

def isEncryption : Layer → Bool
  | compression _ _ => false
  | encryption _ => true

end Layer

/-- A layer and the place where it is turned on: how many payloads each side has sent by then. -/
structure Switch where
  layer : Layer
  sent : Side → Nat

/-- The switches that both ends make, in this order. -/
structure Plan where
  switches : List Switch
  /-- Places are reached one after another. -/
  rising : switches.Pairwise fun earlier later => ∀ side, earlier.sent side ≤ later.sent side
  /-- Encryption is turned on once at most. -/
  once : switches.Pairwise fun earlier later =>
    ¬ (earlier.layer.isEncryption ∧ later.layer.isEncryption)

/-- One end: its codec with what it has received, the switches that it has still to make, and the
payloads that went through its codec. -/
structure Peer where
  inlet : Inlet := ⟨{}, []⟩
  pending : List Switch
  encoded : List Bytes := []
  decoded : List Bytes := []
  /-- What a call of `decode` failed with. -/
  fault? : Option Fault := none

namespace Peer

/-- The peer stands where the switch is to be made. -/
def At (peer : Peer) (side : Side) (switch : Switch) : Prop :=
  peer.encoded.length = switch.sent side ∧ peer.decoded.length = switch.sent side.other

/-- The next switch is to be made now. -/
def Due (peer : Peer) (side : Side) : Prop :=
  ∃ switch ∈ peer.pending.head?, peer.At side switch

/-- One more payload can be sent before the next switch. -/
def HasRoom (peer : Peer) (side : Side) : Prop :=
  ∀ switch ∈ peer.pending.head?, peer.encoded.length < switch.sent side

/-- Octets reach the peer. -/
def receive (peer : Peer) (octets : Bytes) : Peer :=
  { peer with inlet := peer.inlet.arrive octets }

/-- The codec encoded a payload. -/
def send (peer : Peer) (payload : Bytes) (codec : Codec) : Peer :=
  { peer with inlet := { peer.inlet with codec }, encoded := peer.encoded ++ [payload] }

/-- The codec decoded a payload. -/
def take (peer : Peer) (payload : Bytes) (inlet : Inlet) : Peer :=
  { peer with inlet, decoded := peer.decoded ++ [payload] }

/-- The first of the pending switches is made. -/
def switch (peer : Peer) (layer : Layer) (rest : List Switch) : Peer :=
  { peer with inlet := { peer.inlet with codec := layer.enable peer.inlet.codec }, pending := rest }

end Peer

/-- Two peers and the octets that are on the way to each. -/
structure Pair where
  peer : Side → Peer
  transit : Side → Bytes

namespace Pair

/-- Nothing has been sent. -/
def start (plan : Plan) : Pair := ⟨fun _ => { pending := plan.switches }, fun _ => []⟩

def setPeer (pair : Pair) (side : Side) (peer : Peer) : Pair :=
  { pair with peer := Function.update pair.peer side peer }

def setTransit (pair : Pair) (side : Side) (octets : Bytes) : Pair :=
  { pair with transit := Function.update pair.transit side octets }

variable (pair : Pair) (side : Side) (peer : Peer) (octets : Bytes)

@[simp] theorem peer_setPeer : (pair.setPeer side peer).peer side = peer :=
  Function.update_self ..

@[simp] theorem peer_setPeer_other :
    (pair.setPeer side peer).peer side.other = pair.peer side.other :=
  Function.update_of_ne side.other_ne ..

theorem transit_setPeer : (pair.setPeer side peer).transit = pair.transit := rfl

@[simp] theorem peer_setTransit : (pair.setTransit side octets).peer = pair.peer := rfl

@[simp] theorem transit_setTransit : (pair.setTransit side octets).transit side = octets :=
  Function.update_self ..

@[simp] theorem transit_setTransit_of_other :
    (pair.setTransit side.other octets).transit side = pair.transit side :=
  Function.update_of_ne side.ne_other ..

@[simp] theorem transit_setTransit_other :
    (pair.setTransit side octets).transit side.other = pair.transit side.other :=
  Function.update_of_ne side.other_ne ..

end Pair

variable (z : Zlib.Library)

/-- What `actor` does next, or what reaches it. -/
inductive Step (actor : Side) (pair : Pair) : Pair → Prop
  | encoded {payload octets : Bytes} {codec : Codec} (nonempty : payload ≠ [])
      (room : (pair.peer actor).HasRoom actor)
      (call : encode z payload (pair.peer actor).inlet.codec = .ok octets codec) :
      Step actor pair ((pair.setPeer actor ((pair.peer actor).send payload codec)).setTransit
        actor.other (pair.transit actor.other ++ octets))
  | refused {payload : Bytes} {fault : Fault} {codec : Codec}
      (early : ¬ (pair.peer actor).Due actor)
      (call : encode z payload (pair.peer actor).inlet.codec = .error fault codec) :
      Step actor pair (pair.setPeer actor
        { pair.peer actor with inlet := { (pair.peer actor).inlet with codec } })
  | delivered {octets rest : Bytes} (way : pair.transit actor = octets ++ rest) :
      Step actor pair ((pair.setPeer actor ((pair.peer actor).receive octets)).setTransit
        actor rest)
  | decoded {payload : Bytes} {inlet : Inlet} (early : ¬ (pair.peer actor).Due actor)
      (call : decode z (pair.peer actor).inlet = .ok (some payload) inlet) :
      Step actor pair (pair.setPeer actor ((pair.peer actor).take payload inlet))
  | idled {inlet : Inlet} (early : ¬ (pair.peer actor).Due actor)
      (call : decode z (pair.peer actor).inlet = .ok none inlet) :
      Step actor pair (pair.setPeer actor { pair.peer actor with inlet })
  | failed {fault : Fault} {inlet : Inlet} (early : ¬ (pair.peer actor).Due actor)
      (call : decode z (pair.peer actor).inlet = .error fault inlet) :
      Step actor pair (pair.setPeer actor
        { pair.peer actor with inlet, fault? := some fault })
  | switched {switch : Switch} {rest : List Switch}
      (next : (pair.peer actor).pending = switch :: rest)
      (due : (pair.peer actor).At actor switch) :
      Step actor pair (pair.setPeer actor ((pair.peer actor).switch switch.layer rest))

/-- What two peers that keep to a plan can come to. -/
inductive Course (plan : Plan) : Pair → Prop
  | start : Course plan (.start plan)
  | step {pair later : Pair} {actor : Side} (before : Course plan pair)
      (step : Step z actor pair later) : Course plan later

end GameTransport.Codec
