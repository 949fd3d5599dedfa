import GameTransport.Proofs.Histories

/-! # What a connection can end with

A connection ends with a fault of a payload that is refused, of an action that fails, of a frame that
cannot be opened, of a message that cannot be encoded, or of the stream.  An `Invariant` says in which
conversations these steps are made.  So if each of them leads to a fault of some kind wherever the
invariant holds (`Invariant.Spares`), then every course of events ends with a fault of that kind or
without one (`Invariant.Spares.run`).
-/

namespace GameTransport

variable {α : Type}

namespace Invariant

open Conversation (perform performAll carryOut dispatch answer drain feed)

/-- What each kind of step can fail with where an invariant holds. -/
structure Spares (z : Zlib.Library) (registries : StateRegistries (Session α)) (I : Invariant α)
    (P : Fault → Prop) : Prop where
  refused : ∀ {h c d payload fault}, I.between h c →
    dispatch registries payload c = .error fault d → P fault
  failed : ∀ {h action rest c d fault}, I.amid h (action :: rest) c →
    perform z registries action c = .error fault d → P fault
  undecoded : ∀ {inlet after fault}, Codec.decode z inlet = .error fault after → P fault
  unencoded : ∀ {packet fault} {c d : Conversation α}, feed z packet c = .error fault d → P fault
  silent : ∀ silence, P (.timeout silence)
  cut : P (.stream .cutFrame)

namespace Spares

variable {registries : StateRegistries (Session α)} {z : Zlib.Library} {I : Invariant α}
  {P : Fault → Prop} {h : List (Happening α)} {c d : Conversation α} {fault : Fault}

theorem performAll (spares : I.Spares z registries P) (kept : I.Kept z registries)
    {batch : List Action} (amid : I.amid h batch c)
    (failed : performAll z registries batch c = .error fault d) : P fault := by
  induction batch generalizing h c with
  | nil => cases failed
  | cons action rest ih =>
    rw [Conversation.performAll] at failed
    rcases performed : perform z registries action c with ⟨_ | _, e⟩ | ⟨fault', e⟩ <;>
      rw [performed] at failed
    · cases failed
    · exact ih (kept.carried amid performed) failed
    · cases failed
      exact spares.failed amid performed

theorem carryOut (spares : I.Spares z registries P) (kept : I.Kept z registries)
    (amid : I.amid h [] c) (failed : carryOut z registries c = .error fault d) : P fault := by
  fun_induction Conversation.carryOut z registries c generalizing h with
  | case1 c pending e performed ih =>
    have batch := kept.performAll (kept.taken amid)
    rw [performed] at batch
    exact ih batch failed
  | case2 c pending e performed => cases failed
  | case3 c pending fault' e performed =>
    cases failed
    exact spares.performAll kept (kept.taken amid) performed
  | case4 c idle => cases failed

theorem answer (spares : I.Spares z registries P) (kept : I.Kept z registries)
    (between : I.between h c) {payload : Bytes}
    (failed : answer z registries payload c = .error fault d) : P fault := by
  have counted := kept.quiet between (.counted Metrics.received)
  rw [Conversation.answer] at failed
  rcases dispatched : dispatch registries payload (c.count Metrics.received) with
    ⟨outcome, e⟩ | ⟨fault', e⟩ <;> rw [dispatched] at failed
  · dsimp only at failed
    rcases out : Conversation.carryOut z registries e with ⟨goesOn, e'⟩ | ⟨fault', e'⟩ <;>
      rw [out] at failed <;> cases failed
    exact spares.carryOut kept (kept.heard counted dispatched) out
  · cases failed
    exact spares.refused counted dispatched

theorem drain (spares : I.Spares z registries P) (kept : I.Kept z registries)
    (between : I.between h c) {buffer : Bytes}
    (failed : drain z registries buffer c = .error fault d) : P fault := by
  fun_induction Conversation.drain z registries buffer c generalizing h with
  | case1 buffer c fault' inlet undecoded =>
    cases failed
    exact spares.undecoded undecoded
  | case2 buffer c inlet idle => cases failed
  | case3 buffer c payload inlet whole e answered ih =>
    have decoded : I.between h { c with codec := inlet.codec } :=
      kept.decoded between (congrArg stateOf whole)
    have given := kept.answer decoded payload
    rw [answered] at given
    exact ih given failed
  | case4 buffer c payload inlet whole e answered => cases failed
  | case5 buffer c payload inlet whole fault' e answered =>
    have decoded : I.between h { c with codec := inlet.codec } :=
      kept.decoded between (congrArg stateOf whole)
    cases failed
    exact spares.answer kept decoded answered

end Spares

end Invariant

namespace Connection

variable {registries : StateRegistries (Session α)} {z : Zlib.Library} {I : Invariant α}
  {P : Fault → Prop} {h : List (Happening α)} {c : Connection α} {d : Conversation α}

/-- If the connection has ended with a fault, it is of this kind. -/
def Ends (P : Fault → Prop) (c : Connection α) : Prop :=
  ∀ fault, c.result? = some (.error fault) → P fault

namespace Ends

theorem of_open (stays : c.isClosed = false) : Ends P c := by
  intro fault ended
  rw [result?] at ended
  rw [isClosed] at stays
  cases phase : c.phase <;> rw [phase] at ended stays <;> cases ended
  cases stays

theorem close_ok (d : Conversation α) (c : Connection α) :
    Ends P (c.close registries (.ok ()) d) := by
  intro fault ended
  rw [result?_close] at ended
  cases ended

theorem close_error {fault : Fault} (spared : P fault) (d : Conversation α) (c : Connection α) :
    Ends P (c.close registries (.error fault) d) := by
  intro other ended
  rw [result?_close] at ended
  cases ended
  exact spared

theorem drain (spares : I.Spares z registries P) (kept : I.Kept z registries)
    (serving : c.phase = .serving) (between : I.between h c.conversation) :
    Ends P (c.drain registries z) := by
  rw [Connection.drain]
  rcases out : c.conversation.drain z registries c.buffer with ⟨_ | buffer, d⟩ | ⟨fault, d⟩
  · exact close_ok d c
  · exact of_open (by rw [isClosed, serving]; rfl)
  · exact close_error (spares.drain kept between out) d c

theorem receive (spares : I.Spares z registries P) (kept : I.Kept z registries) {octets : Bytes}
    (obeys : Obeys registries I h c) (ends : Ends P c) : Ends P (c.receive registries z octets) := by
  obtain ⟨conversation, readTimeout, phase, buffer, mailbox, silence, notes⟩ := c
  rcases octets with _ | ⟨first, rest⟩
  · cases phase <;> exact ends
  · cases phase with
    | opening =>
      -- A legacy client is answered and let go, whatever else it has sent.
      by_cases old : first = LegacyPing.opening
      · simp only [Connection.receive, if_pos old]
        exact close_ok _ _
      · simp only [Connection.receive, if_neg old]
        exact drain spares kept rfl obeys
    | serving => exact drain spares kept rfl obeys
    | closed result => exact ends

theorem finish (spares : I.Spares z registries P) (ends : Ends P c) :
    Ends P (c.finish registries) := by
  rw [Connection.finish]
  split
  · exact close_ok _ _
  · split
    · exact close_ok _ _
    · exact close_error spares.cut _ _
  · exact ends

theorem elapse (spares : I.Spares z registries P) {time : Duration} (ends : Ends P c) :
    Ends P (c.elapse registries time) := by
  rw [Connection.elapse]
  split
  · exact ends
  · dsimp only
    split
    · exact close_error (spares.silent _) _ _
    · exact ends

theorem deliverMessage (spares : I.Spares z registries P) {message : Message}
    (serving : c.phase = .serving) : Ends P (c.deliverMessage registries z message) := by
  cases message with
  | packet packet =>
    simp only [Connection.deliverMessage, Conversation.push]
    rcases out : c.conversation.feed z packet with ⟨_, d⟩ | ⟨fault, d⟩
    · exact of_open (by rw [isClosed, serving]; rfl)
    · exact close_error (spares.unencoded out) d c
  | disconnect => exact close_ok _ _

theorem deliverAll (spares : I.Spares z registries P) {messages : List Message} (ends : Ends P c) :
    Ends P (c.deliverAll registries z messages) := by
  induction messages generalizing c with
  | nil => exact ends
  | cons message rest ih =>
    rw [Connection.deliverAll]
    split
    · rename_i serving
      exact ih (deliverMessage spares serving)
    · exact ends
    · exact ends

theorem step (spares : I.Spares z registries P) (kept : I.Kept z registries) {event : Event}
    (obeys : Obeys registries I h c) (ends : Ends P c) : Ends P (c.step registries z event) := by
  cases event with
  | received octets => exact receive spares kept obeys ends
  | finished => exact finish spares ends
  | elapsed time => exact elapse spares ends
  | posted message =>
    simp only [Connection.step, Connection.post]
    split <;> exact ends
  | delivered =>
    simp only [Connection.step, Connection.deliver]
    split
    · exact deliverAll spares ends
    · exact ends
    · exact ends

end Ends

end Connection

namespace Invariant.Spares

variable {registries : StateRegistries (Session α)} {z : Zlib.Library} {I : Invariant α}
  {P : Fault → Prop} {h : List (Happening α)} {c : Connection α}

/-- **What every step is spared, every course of events is spared.** -/
theorem run (spares : I.Spares z registries P) (kept : I.Kept z registries)
    (obeys : c.Obeys registries I h) (ends : c.Ends P) (events : List Event) :
    (c.run registries z events).Ends P := by
  induction events generalizing h c with
  | nil => exact ends
  | cons event rest ih => exact ih (obeys.step kept) (ends.step spares kept obeys)

/-- A connection that has just been accepted is open, or its client may not be silent at all. -/
theorem start (spares : I.Spares z registries P) {session : Session α} :
    (Connection.start registries session).Ends P :=
  Connection.Ends.elapse spares (Connection.Ends.of_open rfl)

end Invariant.Spares

end GameTransport
