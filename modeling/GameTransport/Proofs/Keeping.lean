import GameTransport.Proofs.Mirrors
import GameTransport.Proofs.Switching

/-! # Peers that keep to a plan

The plan alone says what a payload is framed by: the compression that was turned on last before it
(`Plan.codecAt`).  It says where encryption sets in, too (`cutOf`).  A peer `Keeps` to the plan if
the switches that it made lie behind it and those still to be made ahead; its layers are what the
switches come to that it made.  Every call of its codec and every switch keeps it to the plan.
-/

namespace GameTransport.Codec

/-! ## The layers that switches come to -/

namespace Layer

def compression? : Layer → Option Compression
  | compression threshold level => some ⟨threshold, level⟩
  | encryption _ => none

end Layer

/-- Where encryption sets in, and the stream that each direction starts with. -/
structure Cut where
  stream : Cfb8
  sent : Side → Nat

def Switch.cut? (switch : Switch) : Option Cut :=
  match switch.layer with
  | .compression _ _ => none
  | .encryption secret => some ⟨(Duplex.ofSecret secret).outbound, switch.sent⟩

/-- The compression that some switches come to. -/
def compressionOf (switches : List Switch) : Option Compression :=
  (switches.filterMap (·.layer.compression?)).getLast?

/-- The encryption that some switches come to. -/
def cutOf (switches : List Switch) : Option Cut := switches.findSome? Switch.cut?

namespace Plan

/-- What the payload of a number is framed by: the switches up to it come to that. -/
def codecAt (plan : Plan) (side : Side) (number : Nat) : Codec :=
  { compression := compressionOf (plan.switches.filter (·.sent side ≤ number)) }

end Plan

/-- A peer has made the switches behind it and none of those ahead. -/
structure Keeps (plan : Plan) (side : Side) (peer : Peer) (made : List Switch) : Prop where
  whole : plan.switches = made ++ peer.pending
  behind : ∀ switch ∈ made, switch.sent side ≤ peer.encoded.length ∧
    switch.sent side.other ≤ peer.decoded.length
  ahead : ∀ switch ∈ peer.pending, peer.encoded.length ≤ switch.sent side ∧
    peer.decoded.length ≤ switch.sent side.other
  compression_eq : peer.inlet.codec.compression = compressionOf made
  cipher_isSome : peer.inlet.codec.cipher.isSome = (cutOf made).isSome
  counted : peer.inlet.Counted

variable {z : Zlib.Library} {plan : Plan} {side : Side} {peer : Peer} {made : List Switch}
  {octets payload : Bytes} {number : Nat}

/-! ## Switches -/

theorem compressionOf_concat (switch : Switch) :
    compressionOf (made ++ [switch]) =
      (switch.layer.compression?).or (compressionOf made) := by
  unfold compressionOf
  rw [List.filterMap_append]
  cases layer : switch.layer.compression? <;> simp [layer]

theorem cutOf_append (rest : List Switch) :
    cutOf (made ++ rest) = (cutOf made).or (cutOf rest) :=
  List.findSome?_append

@[simp] theorem cutOf_singleton (switch : Switch) : cutOf [switch] = switch.cut? :=
  List.findSome?_singleton

/-- The place of the cut is the place of a switch. -/
theorem exists_of_cutOf {switches : List Switch} {cut : Cut} (h : cutOf switches = some cut) :
    ∃ switch ∈ switches, switch.layer.isEncryption ∧ switch.sent = cut.sent := by
  obtain ⟨switch, member, found⟩ := List.exists_of_findSome?_eq_some h
  refine ⟨switch, member, ?_⟩
  unfold Switch.cut? at found
  split at found
  · cases found
  · rename_i on
    cases found
    exact ⟨by rw [on]; rfl, rfl⟩

namespace Keeps

/-- The payload of a number between the switches made and those to be made is framed by the
peer's own layers. -/
theorem compression_eq_codecAt (keeps : Keeps plan side peer made) (sending : Side)
    (behind : ∀ switch ∈ made, switch.sent sending ≤ number)
    (ahead : ∀ switch ∈ peer.pending, number < switch.sent sending) :
    peer.inlet.codec.compression = (plan.codecAt sending number).compression := by
  have first : made.filter (·.sent sending ≤ number) = made :=
    List.filter_eq_self.mpr fun switch member => decide_eq_true (behind switch member)
  have last : peer.pending.filter (·.sent sending ≤ number) = [] :=
    List.filter_eq_nil_iff.mpr fun switch member => by
      simpa using ahead switch member
  rw [keeps.compression_eq, Plan.codecAt, keeps.whole, List.filter_append, first, last,
    List.append_nil]

/-- A peer that encrypts is past the cut. -/
theorem cut_of_isSome (keeps : Keeps plan side peer made)
    (on : peer.inlet.codec.cipher.isSome) :
    ∃ cut, cutOf plan.switches = some cut ∧ cut.sent side ≤ peer.encoded.length ∧
      cut.sent side.other ≤ peer.decoded.length := by
  rw [keeps.cipher_isSome] at on
  obtain ⟨cut, found⟩ := Option.isSome_iff_exists.mp on
  obtain ⟨switch, member, -, place⟩ := exists_of_cutOf found
  refine ⟨cut, ?_, ?_⟩
  · rw [keeps.whole, cutOf_append, found, Option.some_or]
  · rw [← place]
    exact keeps.behind switch member

/-- A peer that does not encrypt has the cut ahead. -/
theorem exists_of_cut (keeps : Keeps plan side peer made) (off : peer.inlet.codec.cipher = none)
    {cut : Cut} (h : cutOf plan.switches = some cut) :
    ∃ switch ∈ peer.pending, switch.sent = cut.sent := by
  have none' : cutOf made = none := by
    have := keeps.cipher_isSome
    rw [off] at this
    exact Option.isNone_iff_eq_none.mp (by simpa using this.symm)
  rw [keeps.whole, cutOf_append, none', Option.none_or] at h
  obtain ⟨switch, member, -, place⟩ := exists_of_cutOf h
  exact ⟨switch, member, place⟩

/-- The first of the pending switches is the first to be reached. -/
theorem le_of_pending (keeps : Keeps plan side peer made) {switch first : Switch}
    (head : first ∈ peer.pending.head?) (member : switch ∈ peer.pending) (sending : Side) :
    first.sent sending ≤ switch.sent sending := by
  have rising := plan.rising
  rw [keeps.whole] at rising
  have later := (List.pairwise_append.mp rising).2.1
  obtain ⟨rest, pending⟩ := List.head?_eq_some_iff.mp head
  rw [pending] at later member
  rcases List.mem_cons.mp member with rfl | member
  · exact Nat.le_refl _
  · exact (List.pairwise_cons.mp later).1 switch member sending

theorem lt_of_hasRoom (keeps : Keeps plan side peer made) (room : peer.HasRoom side)
    {switch : Switch} (member : switch ∈ peer.pending) :
    peer.encoded.length < switch.sent side := by
  obtain ⟨first, rest, pending⟩ := List.exists_cons_of_ne_nil (List.ne_nil_of_mem member)
  have head : first ∈ peer.pending.head? := by rw [pending]; rfl
  exact Nat.lt_of_lt_of_le (room first head) (keeps.le_of_pending head member side)

theorem not_at_of_not_due (keeps : Keeps plan side peer made) (early : ¬ peer.Due side)
    {switch : Switch} (member : switch ∈ peer.pending) : ¬ peer.At side switch := by
  intro reached
  -- The first of the pending switches is reached no later, and then it is due.
  obtain ⟨first, rest, pending⟩ := List.exists_cons_of_ne_nil (List.ne_nil_of_mem member)
  have head : first ∈ peer.pending.head? := by rw [pending]; rfl
  have own := keeps.le_of_pending head member side
  have others := keeps.le_of_pending head member side.other
  have bounds := keeps.ahead first (by rw [pending]; exact List.mem_cons_self)
  refine early ⟨first, head, ?_⟩
  unfold Peer.At at reached ⊢
  omega

end Keeps

/-! ## What a call leaves of the layers -/

section Calls

variable {inlet after : Inlet}

theorem isSome_outbound? (codec : Codec) : codec.outbound?.isSome = codec.cipher.isSome := by
  unfold outbound?
  rw [Option.isSome_map]

theorem outbound?_of_decode_some (h : decode z inlet = .ok (some payload) after) :
    after.codec.outbound? = inlet.codec.outbound? := by
  obtain ⟨frame, found, _⟩ := decode_eq_some h
  rw [← Inlet.outbound?_decrypt inlet, (Inlet.takeFrame_eq_some found).2]
  rfl

theorem compression_of_decode_some (h : decode z inlet = .ok (some payload) after) :
    after.codec.compression = inlet.codec.compression := by
  obtain ⟨frame, found, _⟩ := decode_eq_some h
  exact compression_of_takeFrame found

end Calls

/-! ## A peer keeps to the plan -/

namespace Keeps

theorem start (plan : Plan) (side : Side) : Keeps plan side { pending := plan.switches } [] where
  whole := rfl
  behind := nofun
  ahead := fun _ _ => ⟨Nat.zero_le _, Nat.zero_le _⟩
  compression_eq := rfl
  cipher_isSome := rfl
  counted := Nat.le_refl 0

theorem send {codec : Codec} (keeps : Keeps plan side peer made) (room : peer.HasRoom side)
    (call : encode z payload peer.inlet.codec = .ok octets codec) :
    Keeps plan side (peer.send payload codec) made := by
  refine ⟨keeps.whole, fun switch member => ?_, fun switch member => ?_, ?_, ?_, ?_⟩
  · have := keeps.behind switch member
    simp only [Peer.send, List.length_append, List.length_singleton]
    omega
  · have := keeps.ahead switch member
    have := keeps.lt_of_hasRoom room member
    simp only [Peer.send, List.length_append, List.length_singleton]
    omega
  · exact (compression_encode call).trans keeps.compression_eq
  · exact (isEncrypted_encode call).trans keeps.cipher_isSome
  · have := keeps.counted
    unfold Inlet.Counted at *
    simp only [Peer.send, decrypted_encode call]
    exact this

theorem arrive (keeps : Keeps plan side peer made) (octets : Bytes) :
    Keeps plan side (peer.receive octets) made :=
  ⟨keeps.whole, keeps.behind, keeps.ahead, keeps.compression_eq, keeps.cipher_isSome,
    keeps.counted.arrive octets⟩

theorem idle {inlet : Inlet} (keeps : Keeps plan side peer made)
    (call : decode z peer.inlet = .ok none inlet) :
    Keeps plan side { peer with inlet } made := by
  obtain rfl := decode_eq_none call
  refine ⟨keeps.whole, keeps.behind, keeps.ahead, ?_, ?_, keeps.counted.decrypt⟩
  · exact Inlet.compression_decrypt.trans keeps.compression_eq
  · have := Inlet.outbound?_decrypt peer.inlet
    rw [← isSome_outbound?, this, isSome_outbound?]
    exact keeps.cipher_isSome

theorem take {inlet : Inlet} (keeps : Keeps plan side peer made)
    (ahead : ∀ switch ∈ peer.pending, peer.decoded.length < switch.sent side.other)
    (call : decode z peer.inlet = .ok (some payload) inlet) :
    Keeps plan side (peer.take payload inlet) made := by
  refine ⟨keeps.whole, fun switch member => ?_, fun switch member => ?_, ?_, ?_, ?_⟩
  · have := keeps.behind switch member
    simp only [Peer.take, List.length_append, List.length_singleton]
    omega
  · have := keeps.ahead switch member
    have := ahead switch member
    simp only [Peer.take, List.length_append, List.length_singleton]
    omega
  · exact (compression_of_decode_some call).trans keeps.compression_eq
  · simp only [Peer.take]
    rw [← isSome_outbound?, outbound?_of_decode_some call, isSome_outbound?]
    exact keeps.cipher_isSome
  · exact keeps.counted.decode_some call

theorem switch {switch : Switch} {rest : List Switch} (keeps : Keeps plan side peer made)
    (next : peer.pending = switch :: rest) (due : peer.At side switch) :
    Keeps plan side (peer.switch switch.layer rest) (made ++ [switch]) := by
  obtain ⟨own, others⟩ := due
  refine ⟨?_, ?_, ?_, ?_, ?_, ?_⟩
  · rw [List.append_assoc, List.singleton_append]
    exact next ▸ keeps.whole
  · intro other member
    rcases List.mem_append.mp member with member | member
    · exact keeps.behind other member
    · rw [List.mem_singleton.mp member]
      exact ⟨Nat.le_of_eq own.symm, Nat.le_of_eq others.symm⟩
  · intro other member
    have head : switch ∈ peer.pending.head? := by rw [next]; rfl
    have later : other ∈ peer.pending := by rw [next]; exact List.mem_cons_of_mem _ member
    have first := keeps.le_of_pending head later side
    have second := keeps.le_of_pending head later side.other
    exact ⟨Nat.le_trans (Nat.le_of_eq own) first, Nat.le_trans (Nat.le_of_eq others) second⟩
  · rw [compressionOf_concat]
    unfold Peer.switch
    cases switch.layer with
    | compression threshold level => rfl
    | encryption secret => exact keeps.compression_eq
  · have isSome := keeps.cipher_isSome
    rw [cutOf_append, cutOf_singleton]
    unfold Peer.switch Switch.cut?
    cases switch.layer with
    | compression threshold level => simpa [Layer.enable, enableCompression] using isSome
    | encryption secret => simp [Layer.enable, enableEncryption]
  · have := keeps.counted
    unfold Inlet.Counted Peer.switch at *
    cases switch.layer with
    | compression threshold level => exact this
    | encryption secret => exact Nat.zero_le _

/-- The encryption that is turned on is that of the plan. -/
theorem cut_of_switch {secret : SharedSecret} {switch : Switch} {rest : List Switch}
    (keeps : Keeps plan side peer made) (next : peer.pending = switch :: rest)
    (layer : switch.layer = .encryption secret) :
    peer.inlet.codec.cipher = none ∧
      cutOf plan.switches = some ⟨(Duplex.ofSecret secret).outbound, switch.sent⟩ := by
  have once := plan.once
  rw [keeps.whole, next] at once
  -- A plan turns encryption on once, so no switch before this one has done it.
  have first : cutOf made = none := by
    rw [Option.eq_none_iff_forall_ne_some]
    intro cut found
    obtain ⟨earlier, member, on, -⟩ := exists_of_cutOf found
    exact (List.pairwise_append.mp once).2.2 earlier member switch List.mem_cons_self
      ⟨on, by rw [layer]; rfl⟩
  constructor
  · have off := keeps.cipher_isSome
    rw [first] at off
    simpa using off
  · rw [keeps.whole, next, cutOf_append, first, Option.none_or, cutOf, List.findSome?_cons]
    unfold Switch.cut?
    rw [layer]

end Keeps

end GameTransport.Codec
