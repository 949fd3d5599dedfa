import GameTransport.Proofs.Early
import GameTransport.Proofs.FrameGrammar
import GameTransport.Proofs.Histories
import GameTransport.Proofs.Passes

/-! # A buffer without its last octets

What a conversation does with a frame it does whatever stands behind the frame, so of a buffer the
front alone is enough for the frames that are in it.  An inlet is the front of another
(`Inlet.FrontOf`) if the other holds more octets behind the same; they may have been decrypted along
with the octets before them.  Each call of `decode` that takes a frame out of the front keeps this
(`Inlet.FrontOf.decode`), and so does whatever answers the frame (`Inlet.likeness_frontOf`).

So frames that were answered (`Conversation.Answers`) are answered the same way when nothing stands
behind them, and then nothing is left over (`Conversation.Answers.of_front`).
-/

namespace GameTransport

variable {α : Type}

namespace Frame

/-- A frame that is taken off a buffer is taken off the front of the buffer that holds all of it. -/
theorem split?_front {buffer more payload rest : Bytes}
    (found : split? (buffer ++ more) = .ok (some (payload, rest)))
    (within : more.length ≤ rest.length) :
    ∃ rest', split? buffer = .ok (some (payload, rest')) := by
  obtain ⟨length, short, spells, whole⟩ := split?_eq_some_iff.mp found
  rcases List.append_eq_append_iff.mp whole with ⟨held, same, rfl⟩ | ⟨rest', rfl, -⟩
  · -- The frame ends with the buffer.
    rw [List.length_append] at within
    obtain rfl : held = [] := List.eq_nil_of_length_eq_zero (by omega)
    rw [List.append_nil] at same
    exact ⟨[], split?_eq_some_iff.mpr ⟨length, short, spells, by rw [List.append_nil, same]⟩⟩
  · exact ⟨rest', split?_eq_some_iff.mpr ⟨length, short, spells, rfl⟩⟩

end Frame

namespace Codec

variable {z : Zlib.Library} {codec codec' codec'' : Codec}

/-! ## Layers -/

/-- Two codecs have the same layers if they differ in nothing but how much they have decrypted. -/
structure SameLayers (codec codec' : Codec) : Prop where
  compression : codec'.compression = codec.compression
  outbound : codec'.outbound? = codec.outbound?
  /-- The key of the octets that come in. -/
  inbound : codec'.inbound?.map (·.block) = codec.inbound?.map (·.block)

namespace SameLayers

theorem refl (codec : Codec) : SameLayers codec codec := ⟨rfl, rfl, rfl⟩

theorem symm (same : SameLayers codec codec') : SameLayers codec' codec :=
  ⟨same.compression.symm, same.outbound.symm, same.inbound.symm⟩

theorem trans (same : SameLayers codec codec') (same' : SameLayers codec' codec'') :
    SameLayers codec codec'' :=
  ⟨same'.compression.trans same.compression, same'.outbound.trans same.outbound,
    same'.inbound.trans same.inbound⟩

theorem decrypt (inlet : Inlet) : SameLayers inlet.codec inlet.decrypt.codec where
  compression := Inlet.compression_decrypt
  outbound := Inlet.outbound?_decrypt inlet
  inbound := by
    unfold Inlet.decrypt inbound?
    dsimp only
    split
    · rfl
    · rename_i on
      split
      · rfl
      · rw [on]
        exact congrArg some (Cfb8.block_decrypt _ _)

/-- Decoding leaves the layers alone, whatever it comes to. -/
theorem decode (z : Zlib.Library) (inlet : Inlet) :
    SameLayers inlet.codec (stateOf (Codec.decode z inlet)).codec := by
  rcases stateOf_decode z inlet with same | ⟨frame, found⟩
  · rw [same]
    exact decrypt inlet
  · obtain ⟨-, codec_eq⟩ := Inlet.takeFrame_eq_some found
    rw [codec_eq]
    exact (decrypt inlet).trans ⟨rfl, rfl, rfl⟩

end SameLayers

/-! ## The front of an inlet -/

namespace Inlet

variable {front whole whole' : Inlet} {payload : Bytes}

/-- The second inlet holds more octets behind those of the first, decrypted along with them or not. -/
def FrontOf (front whole : Inlet) : Prop :=
  front.Counted ∧ ∃ more,
    whole = front.arrive more ∨ front.decrypt = front ∧ whole = (front.arrive more).decrypt

namespace FrontOf

theorem buffer_eq (frontOf : front.FrontOf whole) : ∃ more, whole.buffer = front.buffer ++ more := by
  obtain ⟨counted, more, rfl | ⟨settled, rfl⟩⟩ := frontOf
  · exact ⟨more, rfl⟩
  · obtain ⟨plain, longer⟩ := buffer_decrypt_arrive counted more
    rw [settled] at longer
    exact ⟨plain, longer⟩

theorem counted (frontOf : front.FrontOf whole) : whole.Counted := by
  obtain ⟨counted, more, rfl | ⟨-, rfl⟩⟩ := frontOf
  · exact counted.arrive more
  · exact (counted.arrive more).decrypt

theorem sameLayers (frontOf : front.FrontOf whole) : SameLayers front.codec whole.codec := by
  obtain ⟨-, more, rfl | ⟨-, rfl⟩⟩ := frontOf
  · exact .refl _
  · exact .decrypt (front.arrive more)

/-- **A frame that is all in the front is taken out of the front.** -/
theorem decode (frontOf : front.FrontOf whole)
    (decoded : Codec.decode z whole = .ok (some payload) whole')
    (within : whole.buffer.length ≤ front.buffer.length + whole'.buffer.length) :
    ∃ front', Codec.decode z front = .ok (some payload) front' ∧ front'.FrontOf whole' ∧
      front'.buffer.length + whole.buffer.length = front.buffer.length + whole'.buffer.length := by
  obtain ⟨counted, more, same⟩ := frontOf
  have size : whole.buffer.length = front.buffer.length + more.length := by
    rcases same with rfl | ⟨-, rfl⟩ <;> simp
  have early : Early more front whole := same.imp_right And.right
  rw [early.decode_eq counted] at decoded
  rcases call : Codec.decode z front with ⟨_ | found, front'⟩ | ⟨fault, front'⟩
  · -- A frame that is not complete in the front ends behind it.
    obtain ⟨frame, taken, -⟩ := decode_eq_some decoded
    obtain ⟨plain, longer⟩ := buffer_decrypt_arrive counted more
    have split := (takeFrame_eq_some taken).1
    have behind := congrArg List.length longer
    rw [longer] at split
    rw [length_decrypt, List.length_append, length_decrypt, buffer_arrive, List.length_append] at behind
    obtain ⟨rest, complete⟩ := Frame.split?_front split (by omega)
    rw [split?_of_decode_none call] at complete
    cases complete
  · rw [decode_arrive_some counted call more] at decoded
    cases decoded
    obtain ⟨frame, taken, -⟩ := decode_eq_some call
    refine ⟨front', rfl, ⟨counted.decode_some call, more, .inr ⟨decrypt_of_takeFrame counted taken,
      rfl⟩⟩, ?_⟩
    rw [size, length_decrypt, buffer_arrive, List.length_append]
    omega
  · rw [decode_arrive_error counted call more] at decoded
    cases decoded

end FrontOf

/-- **Whatever a conversation does, the front stays the front.** -/
theorem likeness_frontOf (buffer buffer' : Bytes) :
    Likeness (fun _ => True) fun codec codec' => FrontOf ⟨codec', buffer'⟩ ⟨codec, buffer⟩ where
  compression_eq frontOf := frontOf.sameLayers.compression.symm
  outbound?_eq frontOf := frontOf.sameLayers.outbound.symm
  withOutbound {codec codec'} frontOf stream := by
    obtain ⟨counted, more, same | ⟨settled, same⟩⟩ := frontOf
    · cases same
      exact ⟨counted, more, .inl rfl⟩
    · have early : Early more ⟨codec', buffer'⟩ ⟨codec, buffer⟩ := .inr same
      refine ⟨counted, more, (early.withOutbound stream).imp_right fun same => ⟨?_, same⟩⟩
      rw [decrypt_withOutbound, settled]
  enableCompression {codec codec'} frontOf threshold level := by
    obtain ⟨counted, more, same | ⟨settled, same⟩⟩ := frontOf
    · cases same
      exact ⟨counted, more, .inl rfl⟩
    · have early : Early more ⟨codec', buffer'⟩ ⟨codec, buffer⟩ := .inr same
      refine ⟨counted, more, (early.enableCompression threshold level).imp_right
        fun same => ⟨?_, same⟩⟩
      rw [decrypt_enableCompression, settled]
  enableEncryption {codec codec'} frontOf _ secret := by
    -- What was decrypted along with the front stands behind it from now on.
    obtain ⟨more, longer⟩ := frontOf.buffer_eq
    obtain rfl : buffer = buffer' ++ more := longer
    refine ⟨Nat.zero_le _, more, .inl ?_⟩
    unfold arrive Codec.enableEncryption
    rw [frontOf.sameLayers.compression]

end Inlet

end Codec

/-! ## What a happening is about -/

/-- The gist of a happening: what it is, whatever conversation it finds. -/
inductive Gist where
  | heard (payload : Bytes)
  | carried (action : Action)
  deriving DecidableEq, Repr

/-- A frame is dispatched. -/
def Gist.isHeard : Gist → Bool
  | heard _ => true
  | carried _ => false

def Happening.gist : Happening α → Gist
  | heard payload _ => .heard payload
  | carried action _ => .carried action

namespace Conversation

open Codec (Inlet Likeness SameLayers)

variable {z : Zlib.Library} {registries : StateRegistries (Session α)}

section Alike

variable {Like : Codec → Codec → Prop} {c : Conversation α} {codec : Codec}

theorem gist_historyAll (like : Likeness (fun _ => True) Like) (alike : Like c.codec codec)
    (batch : List Action) :
    (historyAll z registries batch (c.withCodec codec)).map Happening.gist =
      (historyAll z registries batch c).map Happening.gist := by
  induction batch generalizing c codec with
  | nil => rfl
  | cons action rest ih =>
    have first := @tracks_perform α z registries _ Like c codec like alike action fun _ _ => trivial
    rw [historyAll, historyAll]
    rcases performed : perform z registries action c with ⟨_ | _, d⟩ | ⟨fault, d⟩
    · rw [performed] at first
      obtain ⟨codec', same, -⟩ := first
      rw [same]
      rfl
    · rw [performed] at first
      obtain ⟨codec', same, alike'⟩ := first
      rw [same]
      exact congrArg (Gist.carried action :: ·) (ih alike')
    · rw [performed] at first
      obtain ⟨codec', same⟩ := first
      rw [same]

theorem gist_historyOut (like : Likeness (fun _ => True) Like) (alike : Like c.codec codec) :
    (historyOut z registries (c.withCodec codec)).map Happening.gist =
      (historyOut z registries c).map Happening.gist := by
  fun_induction historyOut z registries c generalizing codec with
  | case1 c pending ih =>
    have pending' : (c.withCodec codec).session.hasPendingActions := pending
    have batch := @tracks_batch α z registries _ Like c codec like alike pending fun _ _ => trivial
    have first : (historyAll z registries (c.withCodec codec).takeBatch.1
        (c.withCodec codec).takeBatch.2).map Happening.gist =
        (historyAll z registries c.takeBatch.1 c.takeBatch.2).map Happening.gist :=
      @gist_historyAll α z registries Like c.takeBatch.2 codec like alike c.takeBatch.1
    rw [historyOut_of_pending pending', List.map_append, List.map_append, first]
    congr 1
    rcases performed : performAll z registries c.takeBatch.1 c.takeBatch.2 with
      ⟨_ | _, d⟩ | ⟨fault, d⟩
    · rw [performed] at batch
      obtain ⟨codec', same, -⟩ := batch
      rw [same]
    · rw [performed] at batch
      obtain ⟨codec', same, alike'⟩ := batch
      rw [same]
      exact ih d performed alike'
    · rw [performed] at batch
      obtain ⟨codec', same⟩ := batch
      rw [same]
  | case2 c idle =>
    have idle' : ¬ (c.withCodec codec).session.hasPendingActions := idle
    rw [historyOut_of_idle idle']

theorem gist_historyIn (like : Likeness (fun _ => True) Like) (alike : Like c.codec codec)
    (payload : Bytes) :
    (historyIn z registries payload (c.withCodec codec)).map Happening.gist =
      (historyIn z registries payload c).map Happening.gist := by
  unfold historyIn dispatch active
  dsimp only [withCodec, count]
  refine congrArg (Gist.heard payload :: ·) ?_
  rcases dispatched : (registries.active c.state).dispatch payload
    (c.session.count Metrics.received) with ⟨outcome, session⟩ | ⟨fault, session⟩
  · exact @gist_historyOut α z registries Like { c with session } codec like alike
  · rfl

end Alike

/-! ## Frames that are answered -/

variable (z registries) in
/-- So many frames at the front of a buffer are answered, and the conversation goes on: what is left of
the buffer, and the conversation then. -/
inductive Answers : Nat → Bytes → Conversation α → Bytes → Conversation α → Prop
  | none {buffer : Bytes} {c : Conversation α} : Answers 0 buffer c buffer c
  | next {n : Nat} {buffer payload rest : Bytes} {inlet : Inlet} {c d e : Conversation α}
    (decoded : Codec.decode z ⟨c.codec, buffer⟩ = .ok (some payload) inlet)
    (answered : answer z registries payload { c with codec := inlet.codec } = .ok true d)
    (later : Answers n inlet.buffer d rest e) : Answers (n + 1) buffer c rest e

/-- What is carried out is no frame. -/
theorem countP_isHeard_historyAll (batch : List Action) (c : Conversation α) :
    ((historyAll z registries batch c).map Happening.gist).countP Gist.isHeard = 0 := by
  induction batch generalizing c with
  | nil => rfl
  | cons action rest ih =>
    rw [historyAll]
    rcases perform z registries action c with ⟨_ | _, d⟩ | ⟨fault, d⟩
    · rfl
    · exact ih d
    · rfl

theorem countP_isHeard_historyOut (c : Conversation α) :
    ((historyOut z registries c).map Happening.gist).countP Gist.isHeard = 0 := by
  fun_induction historyOut z registries c with
  | case1 c pending ih =>
    rw [List.map_append, List.countP_append, countP_isHeard_historyAll, Nat.zero_add]
    rcases performed : performAll z registries c.takeBatch.1 c.takeBatch.2 with
      ⟨_ | _, d⟩ | ⟨fault, d⟩
    · rfl
    · exact ih d performed
    · rfl
  | case2 c idle => rfl

theorem countP_isHeard_historyIn (payload : Bytes) (c : Conversation α) :
    ((historyIn z registries payload c).map Happening.gist).countP Gist.isHeard = 1 := by
  unfold historyIn
  rcases dispatch registries payload (c.count Metrics.received) with ⟨outcome, d⟩ | ⟨fault, d⟩
  · rw [List.map_cons, List.countP_cons]
    dsimp only
    rw [countP_isHeard_historyOut]
    rfl
  · rfl

namespace Answers

variable {n : Nat} {buffer rest : Bytes} {c d : Conversation α}

theorem drain_eq (answers : Answers z registries n buffer c rest d) :
    c.drain z registries buffer = d.drain z registries rest := by
  induction answers with
  | none => rfl
  | next decoded answered later ih =>
    rw [drain_of_some decoded, answered]
    exact ih

theorem length_le (answers : Answers z registries n buffer c rest d) :
    rest.length ≤ buffer.length := by
  induction answers with
  | none => exact Nat.le_refl _
  | next decoded answered later ih =>
    have shorter := Codec.length_lt_of_decode decoded
    dsimp only at shorter
    omega

/-- A buffer that is drained has its frames answered until no more is complete. -/
theorem of_drain {left : Bytes} {e : Conversation α}
    (drained : c.drain z registries buffer = .ok (some left) e) :
    ∃ n rest d inlet, Answers z registries n buffer c rest d ∧
      Codec.decode z ⟨d.codec, rest⟩ = .ok Option.none inlet ∧ left = inlet.buffer ∧
      e = d.withCodec inlet.codec := by
  fun_induction Conversation.drain z registries buffer c with
  | case1 buffer c fault inlet failed => cases drained
  | case2 buffer c inlet idle =>
    cases drained
    exact ⟨0, buffer, c, inlet, .none, idle, rfl, rfl⟩
  | case3 buffer c payload inlet decoded d answered ih =>
    obtain ⟨n, rest, d', inlet', later, idle, same, same'⟩ := ih drained
    exact ⟨n + 1, rest, d', inlet', .next decoded answered later, idle, same, same'⟩
  | case4 buffer c payload inlet decoded d answered => cases drained
  | case5 buffer c payload inlet decoded fault d answered => cases drained

/-- **Frames that were answered are answered with nothing behind them**, and nothing is left over. -/
theorem exists_front (answers : Answers z registries n buffer c rest d) :
    ∃ gists : List Gist, gists.countP Gist.isHeard = n ∧
      (c.history z registries buffer).map Happening.gist =
        gists ++ (d.history z registries rest).map Happening.gist ∧
      ∀ {codec : Codec} {front : Bytes}, Inlet.FrontOf ⟨codec, front⟩ ⟨c.codec, buffer⟩ →
        buffer.length = front.length + rest.length →
        ∃ codec', Inlet.FrontOf ⟨codec', []⟩ ⟨d.codec, rest⟩ ∧
          (c.withCodec codec).drain z registries front = .ok (some []) (d.withCodec codec') ∧
          ((c.withCodec codec).history z registries front).map Happening.gist = gists := by
  induction answers with
  | @none buffer c =>
    refine ⟨[], rfl, rfl, fun {codec front} frontOf size => ?_⟩
    obtain rfl : front = [] := List.eq_nil_of_length_eq_zero (by omega)
    have idle : Codec.decode z ⟨(c.withCodec codec).codec, []⟩ = _ := Codec.decode_of_empty rfl
    refine ⟨codec, frontOf, drain_of_none idle, ?_⟩
    rw [history_of_none idle]
    rfl
  | @next n buffer payload rest inlet c d e decoded answered later ih =>
    obtain ⟨gists, frames, begins, alone⟩ := ih
    refine ⟨(historyIn z registries payload { c with codec := inlet.codec }).map Happening.gist ++ gists,
      ?_, ?_, fun {codec front} frontOf size => ?_⟩
    · rw [List.countP_append, countP_isHeard_historyIn, frames, Nat.add_comm]
    · rw [history_of_some decoded, answered, List.map_append, begins, List.append_assoc]
    · -- The first frame is all in the front, and what answers it keeps the front the front.
      have shorter := later.length_le
      obtain ⟨inlet', decoded', frontOf', taken⟩ := frontOf.decode decoded (by dsimp only; omega)
      have like := Inlet.likeness_frontOf inlet.buffer inlet'.buffer
      have tracks := @tracks_answer α z registries _ _ { c with codec := inlet.codec } inlet'.codec
        like frontOf' payload fun _ _ => trivial
      have same := @gist_historyIn α z registries _ { c with codec := inlet.codec } inlet'.codec
        like frontOf' payload
      rw [answered] at tracks
      obtain ⟨codec', answered', frontOf''⟩ := tracks
      have given : answer z registries payload { c.withCodec codec with codec := inlet'.codec } =
        .ok true (d.withCodec codec') := answered'
      obtain ⟨codec'', left, drained, told⟩ := alone frontOf'' (by dsimp only at taken; omega)
      refine ⟨codec'', left, ?_, ?_⟩
      · rw [drain_of_some decoded', given]
        exact drained
      · rw [history_of_some decoded', List.map_append, given]
        exact congr (congrArg _ same) told

end Answers

end Conversation

end GameTransport
