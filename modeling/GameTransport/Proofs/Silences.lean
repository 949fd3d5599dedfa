import GameTransport.Proofs.Blame
import GameTransport.Proofs.Posts
import GameTransport.Proofs.Rests
import GameTransport.Vigil

/-! # Who speaks of a silence

A connection can end with a silence of its client.  Of all moves of a task only one leads there
(`Task.expire`), provided that no packet is read as a silence (`StateRegistries.KeepTime`): what
a handler reports is wrapped, and whatever else can go wrong is something else.
-/

namespace GameTransport

/-- No packet is read as a silence of the client.  A handler may fail with whatever it likes, since its
faults are wrapped; the faults of a reader are not. -/
def StateRegistries.KeepTime {σ : Type} (registries : StateRegistries σ) : Prop :=
  ∀ state id entry, Registry.entry? (registries.active state) id = some entry →
    ∀ body silence rest, entry.packet.read body ≠ .error (.timeout silence) rest

/-- The silence that a fault reports. -/
def Fault.silence? : Fault → Option Duration
  | .timeout silence => some silence
  | _ => none

theorem Fault.silence?_of_isFormat {fault : Fault} (format : fault.isFormat) :
    fault.silence? = none := by
  cases fault <;> first | rfl | cases format

/-- The kinds of the default handlers keep time, and so does every kind whose faults are about
octets. -/
theorem Handlers.keepTime {α : Type} : (registries : StateRegistries (Session α)).KeepTime := by
  intro state id entry known body silence rest read
  have format : (Fault.timeout silence).isFormat := blamesPeer_of_entry known body _ rest read
  cases format

namespace Moment

/-- The silence that the connection ends with. -/
def silenced? : Moment → Option Duration
  | ending (.error fault) | leaving (.error fault) | left (.error fault) | ended (.error fault) =>
    fault.silence?
  | _ => none

/-- The connection has not been given up. -/
def isOpen : Moment → Bool
  | closing | ending _ | leaving _ | left _ | ended _ => false
  | _ => true

end Moment

section

variable {α : Type} {registries : StateRegistries (Session α)} {z : Zlib.Library}

/-- A payload that is refused is refused for something else. -/
theorem StateRegistries.KeepTime.dispatch (keep : registries.KeepTime) {c d : Conversation α}
    {payload : Bytes} {fault : Fault}
    (failed : c.dispatch registries payload = .error fault d) : fault.silence? = none := by
  have served := Registry.served_dispatch (c.active registries) payload c.session
  rw [Conversation.dispatch] at failed
  rcases outcome : (c.active registries).dispatch payload c.session with
    ⟨dispatched, session⟩ | ⟨fault', session⟩ <;> rw [outcome] at failed served
  · cases failed
  · cases failed
    cases served with
    | refused reason =>
      cases reason with
      | numberless unread =>
        exact Fault.silence?_of_isFormat (Varint.blamesPeer_readU32 _ _ _ unread)
      | unknown id => rfl
      | unread known unread =>
        cases fault with
        | timeout silence => exact absurd unread (keep _ _ _ known _ _ _)
        | _ => rfl
      | overlong entry remaining => rfl
    | failed number known takes read done => rfl

/-- So does an action that fails. -/
theorem Conversation.silence?_of_perform {c d : Conversation α} {action : Action} {fault : Fault}
    (failed : c.perform z registries action = .error fault d) : fault.silence? = none := by
  cases action with
  | send packet =>
    rw [perform] at failed
    rcases fed : feed z packet c with ⟨_, e⟩ | ⟨fault', e⟩ <;> rw [fed] at failed <;> cases failed
    exact Fault.silence?_of_isFormat (isFormat_of_feed fed)
  | transition target =>
    by_cases allowed : c.state.canMoveTo target
    · rw [perform_transition_of_canMoveTo allowed] at failed
      cases failed
    · rw [perform_transition_of_not_canMoveTo allowed] at failed
      cases failed
      rfl
  | enableCompression threshold level => cases failed
  | enableEncryption secret => cases failed
  | disconnect => cases failed

end

namespace Task

variable {α : Type} {registries : StateRegistries (Session α)} {z : Zlib.Library} {t t' : Task α}
  {deed? : Option Deed}

/-! ## What a task leaves alone as it goes on -/

/-- The task goes on: it does not speak of a silence unless it did before, and the mailbox and the
silence of the client are not its business. -/
structure GoesOn (t t' : Task α) : Prop where
  silenced : t'.moment.silenced? = t.moment.silenced?
  silence : t'.connection.silence = t.connection.silence
  mailbox : t'.connection.mailbox.length ≤ t.connection.mailbox.length

theorem goesOn_look (c : Connection α) :
    GoesOn ⟨c, .waiting true⟩ (Task.look z ⟨c, .waiting true⟩).2 := by
  rw [look, conversation_mk]
  rcases decoded : Codec.decode z ⟨c.conversation.codec, c.buffer⟩ with
    ⟨_ | payload, inlet⟩ | ⟨fault, inlet⟩
  · exact ⟨rfl, rfl, Nat.le_refl _⟩
  · exact ⟨rfl, rfl, Nat.le_refl _⟩
  · exact ⟨Fault.silence?_of_isFormat (Codec.isFormat_of_decode decoded), rfl, Nat.le_refl _⟩

theorem goesOn_hear (keep : registries.KeepTime) (c : Connection α) (payload : Bytes) :
    GoesOn ⟨c, .hearing payload⟩ (Task.hear registries payload ⟨c, .hearing payload⟩).2 := by
  rw [hear, conversation_mk]
  rcases failed : c.conversation.dispatch registries payload with ⟨outcome, d⟩ | ⟨fault, d⟩
  · exact ⟨rfl, rfl, Nat.le_refl _⟩
  · exact ⟨keep.dispatch failed, rfl, Nat.le_refl _⟩

theorem goesOn_act (c : Connection α) (left : List Action) :
    GoesOn ⟨c, .acting left⟩ (Task.act registries z left ⟨c, .acting left⟩).2 := by
  rcases left with _ | ⟨action, rest⟩
  · rw [act]
    split <;> exact ⟨rfl, rfl, Nat.le_refl _⟩
  · rw [act, conversation_mk]
    rcases failed : c.conversation.perform z registries action with ⟨_ | _, d⟩ | ⟨fault, d⟩
    · exact ⟨rfl, rfl, Nat.le_refl _⟩
    · exact ⟨rfl, rfl, Nat.le_refl _⟩
    · exact ⟨Conversation.silence?_of_perform failed, rfl, Nat.le_refl _⟩

theorem goesOn_encode (c : Connection α) (packet : Bytes) (fresh : Bool) :
    GoesOn ⟨c, .posting packet fresh⟩ (Task.encode z packet fresh ⟨c, .posting packet fresh⟩).2 := by
  rw [encode, conversation_mk]
  rcases failed : c.conversation.feed z packet with ⟨_, d⟩ | ⟨fault, d⟩
  · exact ⟨rfl, rfl, Nat.le_refl _⟩
  · exact ⟨Fault.silence?_of_isFormat (Conversation.isFormat_of_feed failed), rfl, Nat.le_refl _⟩

/-- **What a task does by itself has nothing to do with silences.** -/
theorem goesOn_proceed (keep : registries.KeepTime) (t : Task α) :
    GoesOn t (t.proceed registries z).2 := by
  obtain ⟨c, moment⟩ := t
  cases moment with
  | waiting fresh =>
    cases fresh with
    | true => exact goesOn_look c
    | false => exact ⟨rfl, rfl, Nat.le_refl _⟩
  | hearing payload => exact goesOn_hear keep c payload
  | acting left => exact goesOn_act c left
  | posting packet fresh => exact goesOn_encode c packet fresh
  | ending result => rcases result with fault | ⟨⟨⟩⟩ <;> exact ⟨rfl, rfl, Nat.le_refl _⟩
  | leaving result => rcases result with fault | ⟨⟨⟩⟩ <;> exact ⟨rfl, rfl, Nat.le_refl _⟩
  | left result => rcases result with fault | ⟨⟨⟩⟩ <;> exact ⟨rfl, rfl, Nat.zero_le _⟩
  | _ => exact ⟨rfl, rfl, Nat.le_refl _⟩

theorem silenced?_of_writes {c : Connection α} {moment : Moment} (writes : Task.writes ⟨c, moment⟩) :
    moment.silenced? = none := by
  cases moment <;> first | rfl | cases writes

theorem goesOn_cut (t : Task α) (cause : StreamFault) (count : Nat) :
    GoesOn t (t.cut cause count).2 := by
  obtain ⟨c, moment⟩ := t
  rw [cut]
  split
  · rename_i writes
    exact ⟨(silenced?_of_writes writes).symm, rfl, Nat.le_refl _⟩
  · split
    · rename_i waits opening
      cases waits
      exact ⟨rfl, rfl, Nat.le_refl _⟩
    · rename_i waits serving
      cases waits
      exact ⟨rfl, rfl, Nat.le_refl _⟩
    · exact ⟨rfl, rfl, Nat.le_refl _⟩

theorem goesOn_finish (t : Task α) : GoesOn t t.finish.2 := by
  obtain ⟨c, moment⟩ := t
  rw [finish]
  split
  · rename_i waits opening
    cases waits
    exact ⟨rfl, rfl, Nat.le_refl _⟩
  · rename_i waits serving
    cases waits
    split <;> exact ⟨rfl, rfl, Nat.le_refl _⟩
  · exact ⟨rfl, rfl, Nat.le_refl _⟩

theorem goesOn_deliver (t : Task α) : GoesOn t t.deliver.2 := by
  obtain ⟨c, moment⟩ := t
  rw [deliver]
  split
  · rename_i waits serving first
    cases waits
    exact ⟨rfl, rfl, by rw [first]; exact Nat.le_succ _⟩
  · rename_i waits serving first
    cases waits
    exact ⟨rfl, rfl, by rw [first]; exact Nat.le_succ _⟩
  · exact ⟨rfl, rfl, Nat.le_refl _⟩

/-! ## What every step keeps -/

theorem readTimeout_step (step : Step registries z t deed? t') :
    t'.connection.readTimeout = t.connection.readTimeout := by
  cases step <;> rfl

/-- No step leads back to the opening. -/
theorem opening_of_step (step : Step registries z t deed? t')
    (opening : t'.connection.phase = .opening) : t.connection.phase = .opening := by
  cases step
  case read => cases opening
  case ended => cases opening
  all_goals exact opening

/-- A connection that was given up stays so. -/
theorem isOpen_of_step (step : Step registries z t deed? t') (stays : t'.moment.isOpen) :
    t.moment.isOpen := by
  cases step
  case broken => cases stays
  case idle | accepted | elapsed => exact stays
  all_goals first | rfl | cases stays

end Task

end GameTransport
