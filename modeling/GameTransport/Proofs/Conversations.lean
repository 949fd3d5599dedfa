import GameTransport.Conversation

/-! # Steps of a conversation

What `carryOut` and `drain` come to, one batch and one payload at a time. -/

namespace GameTransport.Conversation

variable {α : Type} {z : Zlib.Library} {registries : StateRegistries (Session α)}
  {c : Conversation α} {buffer payload : Bytes} {inlet : Codec.Inlet} {fault : Fault}

theorem carryOut_of_idle (idle : ¬ c.session.hasPendingActions) :
    carryOut z registries c = .ok true c := by
  rw [carryOut, dif_neg idle]

theorem carryOut_of_pending (pending : c.session.hasPendingActions) :
    carryOut z registries c =
      match performAll z registries c.takeBatch.1 c.takeBatch.2 with
      | .ok true d => carryOut z registries d
      | .ok false d => .ok false d
      | .error fault d => .error fault d := by
  rw [carryOut, dif_pos pending]
  split
  · rename_i performed; rw [performed]
  · rename_i performed; rw [performed]
  · rename_i performed; rw [performed]

theorem drain_of_error (failed : Codec.decode z ⟨c.codec, buffer⟩ = .error fault inlet) :
    drain z registries buffer c =
      .error fault ({ c with codec := inlet.codec }.count Metrics.received) := by
  rw [drain]
  split
  · rename_i other; rw [failed] at other; cases other; rfl
  · rename_i other; rw [failed] at other; cases other
  · rename_i other; rw [failed] at other; cases other

theorem drain_of_none (idle : Codec.decode z ⟨c.codec, buffer⟩ = .ok none inlet) :
    drain z registries buffer c = .ok (some inlet.buffer) { c with codec := inlet.codec } := by
  rw [drain]
  split
  · rename_i other; rw [idle] at other; cases other
  · rename_i other; rw [idle] at other; cases other; rfl
  · rename_i other; rw [idle] at other; cases other

theorem drain_of_some (decoded : Codec.decode z ⟨c.codec, buffer⟩ = .ok (some payload) inlet) :
    drain z registries buffer c =
      match answer z registries payload { c with codec := inlet.codec } with
      | .ok true d => drain z registries inlet.buffer d
      | .ok false d => .ok none d
      | .error fault d => .error fault d := by
  rw [drain]
  split
  · rename_i other; rw [decoded] at other; cases other
  · rename_i other; rw [decoded] at other; cases other
  · rename_i other; rw [decoded] at other; cases other; rfl

end GameTransport.Conversation
