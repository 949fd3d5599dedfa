import GameTransport.Proofs.Callbacks
import GameTransport.Proofs.Histories
import GameTransport.Proofs.Rekeying

/-! # A stream that is cut into reads

Where no octet is decrypted again, the octets of a read may as well arrive one by one
(`Connection.receive_octets`), so two ways of cutting a stream come to the same.

Where one is, they need not: encryption that is turned on twice tells a stream in one read from the
same stream in three (`Connection.run_reads_ne_of_redecrypted`).
-/

namespace GameTransport

namespace Connection

variable {α : Type} (registries : StateRegistries (Session α)) (z : Zlib.Library)

/-- How many octets are decrypted already each time that a read has encryption turned on. -/
def redecryptedBy (octets : Bytes) (c : Connection α) : List Nat :=
  match octets, c.phase with
  | first :: _, .opening =>
    if first = LegacyPing.opening then [] else c.conversation.redecrypted z registries octets
  | _ :: _, .serving => c.conversation.redecrypted z registries (c.buffer ++ octets)
  | _, _ => []

/-- The same for reads one after another. -/
def redecrypted : List Bytes → Connection α → List Nat
  | [], _ => []
  | octets :: rest, c =>
    c.redecryptedBy registries z octets ++ redecrypted rest (c.receive registries z octets)

/-- What is counted as decrypted is in the buffer, and before the first read nothing is. -/
def Sound (c : Connection α) : Prop :=
  match c.phase with
  | .opening => c.buffer = [] ∧ c.conversation.codec.decrypted = 0
  | .serving => (Codec.Inlet.mk c.conversation.codec c.buffer).Counted
  | .closed _ => True

/-- Two connections are the same, or have closed the same way. -/
def Alike (c d : Connection α) : Prop :=
  c = d ∨ c.isClosed ∧
    ∃ codec buffer, d = { c with conversation := c.conversation.withCodec codec, buffer }

variable {registries} {z} {c d : Connection α}

/-! ## Closed connections -/

theorem step_of_isClosed (closed : c.isClosed) (event : Event) :
    c.step registries z event = c := by
  obtain ⟨conversation, readTimeout, phase, buffer, mailbox, silence, notes⟩ := c
  cases phase with
  | opening => cases closed
  | serving => cases closed
  | closed result =>
    cases event with
    | received octets => cases octets <;> rfl
    | finished => rfl
    | elapsed time => rfl
    | posted message => rfl
    | delivered => rfl

theorem run_of_isClosed (closed : c.isClosed) (events : List Event) :
    c.run registries z events = c := by
  unfold run
  induction events with
  | nil => rfl
  | cons event rest ih => rw [List.foldl_cons, step_of_isClosed closed, ih]

/-- Nothing happens in a connection that has closed. -/
theorem history_of_isClosed (closed : c.isClosed) (events : List Event) :
    c.history registries z events = [] := by
  have nothing (event : Event) : c.happenings registries z event = [] := by
    obtain ⟨conversation, readTimeout, phase, buffer, mailbox, silence, notes⟩ := c
    cases phase with
    | opening => cases closed
    | serving => cases closed
    | closed result =>
      rcases event with (_ | ⟨first, rest⟩) | _ | _ | _ | _ <;> rfl
  induction events with
  | nil => rfl
  | cons event rest ih => rw [history, step_of_isClosed closed, nothing, ih, List.nil_append]

namespace Alike

theorem refl (c : Connection α) : Alike c c := .inl rfl

theorem trans {e : Connection α} (h : Alike c d) (h' : Alike d e) : Alike c e := by
  rcases h with rfl | ⟨closed, codec, buffer, rfl⟩
  · exact h'
  · rcases h' with rfl | ⟨-, codec', buffer', rfl⟩
    · exact .inr ⟨closed, codec, buffer, rfl⟩
    · exact .inr ⟨closed, codec', buffer', rfl⟩

theorem run (h : Alike c d) (events : List Event) :
    Alike (c.run registries z events) (d.run registries z events) := by
  rcases h with rfl | ⟨closed, codec, buffer, rfl⟩
  · exact refl _
  · rw [run_of_isClosed closed, run_of_isClosed (by exact closed)]
    exact .inr ⟨closed, codec, buffer, rfl⟩

/-- All that can be seen of such connections is the same. -/
theorem observed (h : Alike c d) :
    d.conversation.written = c.conversation.written ∧ d.result? = c.result? ∧
      d.session = c.session ∧ d.notes = c.notes := by
  rcases h with rfl | ⟨-, codec, buffer, rfl⟩
  · exact ⟨rfl, rfl, rfl, rfl⟩
  · exact ⟨rfl, rfl, rfl, rfl⟩

theorem close (conversation : Conversation α) (codec : Codec) (result : Except Fault Unit)
    (buffer : Bytes) :
    Alike (c.close registries result conversation)
      ({ c with buffer }.close registries result (conversation.withCodec codec)) := by
  cases result with
  | ok done => exact .inr ⟨rfl, codec, buffer, rfl⟩
  | error fault =>
    refine .inr ⟨rfl, codec, buffer, ?_⟩
    have same : (conversation.withCodec codec).caught registries fault =
        (conversation.caught registries fault).withCodec codec := by
      unfold Conversation.caught
      dsimp only
      split <;> rfl
    unfold Connection.close
    dsimp only
    rw [same]
    rfl

end Alike

/-! ## Reads -/

theorem receive_of_isClosed (closed : c.isClosed) (octets : Bytes) :
    c.receive registries z octets = c :=
  step_of_isClosed closed (.received octets)

theorem redecryptedBy_of_isClosed (closed : c.isClosed) (octets : Bytes) :
    c.redecryptedBy registries z octets = [] := by
  obtain ⟨conversation, readTimeout, phase, buffer, mailbox, silence, notes⟩ := c
  cases phase with
  | opening => cases closed
  | serving => cases closed
  | closed result => cases octets <;> rfl

theorem Sound.of_isClosed (closed : c.isClosed) : c.Sound := by
  obtain ⟨conversation, readTimeout, phase, buffer, mailbox, silence, notes⟩ := c
  cases phase with
  | opening => cases closed
  | serving => cases closed
  | closed result => trivial

theorem Sound.counted (sound : c.Sound) (serving : c.phase = .serving) (octets : Bytes) :
    (Codec.Inlet.mk c.conversation.codec (c.buffer ++ octets)).Counted := by
  unfold Sound at sound
  rw [serving] at sound
  exact Codec.Inlet.Counted.arrive sound octets

theorem Sound.fresh (sound : c.Sound) (opening : c.phase = .opening) :
    c.buffer = [] ∧ { c with phase := .serving }.Sound := by
  unfold Sound at sound
  rw [opening] at sound
  refine ⟨sound.1, ?_⟩
  change c.conversation.codec.decrypted ≤ c.buffer.length
  rw [sound.2]
  exact Nat.zero_le _

theorem isClosed_close (result : Except Fault Unit) (conversation : Conversation α) :
    (c.close registries result conversation).isClosed := by
  cases result <;> rfl

/-- What a connection makes of what its buffer came to. -/
def settle (registries : StateRegistries (Session α)) (c : Connection α) :
    EStateM.Result Fault (Conversation α) (Option Bytes) → Connection α
  | .ok (some buffer) conversation => { c with conversation, buffer }
  | .ok none conversation => c.close registries (.ok ()) conversation
  | .error fault conversation => c.close registries (.error fault) conversation

theorem receive_of_serving {octets : Bytes} (serving : c.phase = .serving) (nonempty : octets ≠ []) :
    c.receive registries z octets =
      { c with buffer := c.buffer ++ octets, silence := ⟨0⟩ }.settle registries
        (c.conversation.drain z registries (c.buffer ++ octets)) := by
  obtain ⟨conversation, readTimeout, phase, buffer, mailbox, silence, notes⟩ := c
  obtain ⟨x, xs, rfl⟩ := List.exists_cons_of_ne_nil nonempty
  cases serving
  rfl

theorem redecryptedBy_of_serving {octets : Bytes} (serving : c.phase = .serving)
    (nonempty : octets ≠ []) :
    c.redecryptedBy registries z octets =
      c.conversation.redecrypted z registries (c.buffer ++ octets) := by
  obtain ⟨conversation, readTimeout, phase, buffer, mailbox, silence, notes⟩ := c
  obtain ⟨x, xs, rfl⟩ := List.exists_cons_of_ne_nil nonempty
  cases serving
  rfl

/-- What was in the buffer and in the conversation before does not matter. -/
theorem settle_alike (conversation : Conversation α) (buffer : Bytes)
    (outcome : EStateM.Result Fault (Conversation α) (Option Bytes)) :
    Alike (c.settle registries outcome)
      ({ c with conversation, buffer }.settle registries outcome) := by
  rcases outcome with ⟨_ | rest, d⟩ | ⟨fault, d⟩
  · exact Alike.close d d.codec (.ok ()) buffer
  · exact .inl rfl
  · exact Alike.close d d.codec (.error fault) buffer

theorem sound_settle {late : Bytes}
    {outcome other : EStateM.Result Fault (Conversation α) (Option Bytes)}
    (serving : c.phase = .serving) (drains : Conversation.Drains z registries late outcome other) :
    (c.settle registries outcome).Sound := by
  rcases outcome with ⟨_ | rest, d⟩ | ⟨fault, d⟩
  · exact .of_isClosed (isClosed_close (.ok ()) d)
  · unfold settle Sound
    dsimp only
    rw [serving]
    exact drains.1
  · exact .of_isClosed (isClosed_close (.error fault) d)

/-- What arrives at a connection that has closed is as if it had arrived early. -/
theorem closed_receive (result : Except Fault Unit) (conversation : Conversation α) (codec : Codec)
    (buffer late : Bytes) :
    (c.close registries result conversation).Sound ∧
      Alike ((c.close registries result conversation).receive registries z late)
        ({ c with buffer }.close registries result (conversation.withCodec codec)) ∧
      ∀ count ∈ (c.close registries result conversation).redecryptedBy registries z late,
        count = 0 := by
  have closed := @isClosed_close α registries c result conversation
  refine ⟨.of_isClosed closed, ?_, ?_⟩
  · rw [receive_of_isClosed closed]
    exact Alike.close conversation codec result buffer
  · rw [redecryptedBy_of_isClosed closed]
    exact nofun

/-- Where octets have arrived early, a connection does what it does if they arrive then. -/
theorem receive_append_of_serving {xs ys : Bytes} (serving : c.phase = .serving)
    (first : xs ≠ []) (second : ys ≠ []) (sound : c.Sound)
    (clean : ∀ count ∈ c.redecryptedBy registries z (xs ++ ys), count = 0) :
    (c.receive registries z xs).Sound ∧
      Alike ((c.receive registries z xs).receive registries z ys)
        (c.receive registries z (xs ++ ys)) ∧
      ∀ count ∈ (c.receive registries z xs).redecryptedBy registries z ys, count = 0 := by
  have counted := sound.counted serving xs
  have early : Codec.Inlet.Early ys ⟨c.conversation.codec, c.buffer ++ xs⟩
      ⟨c.conversation.codec, c.buffer ++ (xs ++ ys)⟩ :=
    .inl (by rw [← List.append_assoc]; rfl)
  have both : xs ++ ys ≠ [] := List.append_ne_nil_of_left_ne_nil first ys
  rw [redecryptedBy_of_serving serving both] at clean
  have drains := Conversation.drains_early counted early clean
  rw [receive_of_serving serving first, receive_of_serving serving both]
  rcases outcome : c.conversation.drain z registries (c.buffer ++ xs) with
    ⟨_ | rest, d⟩ | ⟨fault, d⟩
  · -- The first read has closed the connection: the second finds it closed.
    rw [outcome] at drains
    obtain ⟨codec, same⟩ := drains
    rw [show c.conversation.drain z registries (c.buffer ++ (xs ++ ys)) = _ from same]
    exact closed_receive (.ok ()) d codec (c.buffer ++ (xs ++ ys)) ys
  · -- The second read goes on where the first has stopped.
    rw [outcome] at drains
    obtain ⟨counted', same, clean'⟩ := drains
    rw [show c.conversation.drain z registries (c.buffer ++ (xs ++ ys)) = _ from same]
    have serving' : (settle registries { c with buffer := c.buffer ++ xs, silence := ⟨0⟩ }
      (.ok (some rest) d)).phase = .serving := serving
    refine ⟨sound_settle serving ⟨counted', same, clean'⟩, ?_, ?_⟩
    · rw [receive_of_serving serving' second]
      exact settle_alike c.conversation (c.buffer ++ (xs ++ ys)) _
    · rw [redecryptedBy_of_serving serving' second]
      exact clean'
  · rw [outcome] at drains
    obtain ⟨codec, same⟩ := drains
    rw [show c.conversation.drain z registries (c.buffer ++ (xs ++ ys)) = _ from same]
    exact closed_receive (.error fault) d codec (c.buffer ++ (xs ++ ys)) ys

/-- The first read opens a connection and is answered like every other. -/
theorem receive_of_opening {x : UInt8} {xs : Bytes} (opening : c.phase = .opening)
    (empty : c.buffer = []) (framed : x ≠ LegacyPing.opening) :
    c.receive registries z (x :: xs) =
      { c with phase := .serving }.receive registries z (x :: xs) := by
  obtain ⟨conversation, readTimeout, phase, buffer, mailbox, silence, notes⟩ := c
  cases opening
  cases empty
  unfold receive
  dsimp only
  rw [if_neg framed]
  rfl

theorem redecryptedBy_of_opening {x : UInt8} {xs : Bytes} (opening : c.phase = .opening)
    (empty : c.buffer = []) (framed : x ≠ LegacyPing.opening) :
    c.redecryptedBy registries z (x :: xs) =
      { c with phase := .serving }.redecryptedBy registries z (x :: xs) := by
  obtain ⟨conversation, readTimeout, phase, buffer, mailbox, silence, notes⟩ := c
  cases opening
  cases empty
  unfold redecryptedBy
  dsimp only
  rw [if_neg framed]
  rfl

theorem receive_of_legacy (opening : c.phase = .opening) (more : Bytes) :
    c.receive registries z (LegacyPing.opening :: more) = c.answerLegacy registries := by
  unfold receive
  rw [opening]
  dsimp only
  rw [if_pos rfl]

theorem isClosed_answerLegacy : (c.answerLegacy registries).isClosed := isClosed_close _ _

/-- **The octets of a read may as well arrive in two reads**, if none of them is decrypted again. -/
theorem receive_append {xs ys : Bytes} (first : xs ≠ []) (second : ys ≠ []) (sound : c.Sound)
    (clean : ∀ count ∈ c.redecryptedBy registries z (xs ++ ys), count = 0) :
    (c.receive registries z xs).Sound ∧
      Alike ((c.receive registries z xs).receive registries z ys)
        (c.receive registries z (xs ++ ys)) ∧
      ∀ count ∈ (c.receive registries z xs).redecryptedBy registries z ys, count = 0 := by
  cases phase : c.phase with
  | opening =>
    obtain ⟨empty, sound'⟩ := sound.fresh phase
    obtain ⟨x, xs, rfl⟩ := List.exists_cons_of_ne_nil first
    by_cases old : x = LegacyPing.opening
    · -- An old client has its answer after one octet, whatever follows.
      have closed := @isClosed_answerLegacy α registries c
      rw [List.cons_append, old, receive_of_legacy phase, receive_of_legacy phase,
        receive_of_isClosed closed, redecryptedBy_of_isClosed closed]
      exact ⟨.of_isClosed closed, .refl _, nofun⟩
    · rw [List.cons_append] at clean ⊢
      rw [redecryptedBy_of_opening phase empty old] at clean
      rw [receive_of_opening phase empty old, receive_of_opening phase empty old]
      exact receive_append_of_serving rfl first second sound' clean
  | serving => exact receive_append_of_serving phase first second sound clean
  | closed result =>
    have closed : c.isClosed := by
      unfold isClosed
      rw [phase]
      rfl
    rw [receive_of_isClosed closed, receive_of_isClosed closed, receive_of_isClosed closed,
      redecryptedBy_of_isClosed closed]
    exact ⟨sound, .refl c, nofun⟩

theorem receive_nil : c.receive registries z [] = c := by
  obtain ⟨conversation, readTimeout, phase, buffer, mailbox, silence, notes⟩ := c
  cases phase <;> rfl

/-- A read that decrypts nothing again leaves what is counted in the buffer. -/
theorem Sound.receive {octets : Bytes} (sound : c.Sound)
    (clean : ∀ count ∈ c.redecryptedBy registries z octets, count = 0) :
    (c.receive registries z octets).Sound := by
  have served {d : Connection α} (nonempty : octets ≠ []) (serving : d.phase = .serving)
      (sound : d.Sound) (clean : ∀ count ∈ d.redecryptedBy registries z octets, count = 0) :
      (d.receive registries z octets).Sound := by
    rw [redecryptedBy_of_serving serving nonempty] at clean
    rw [receive_of_serving serving nonempty]
    have drains := Conversation.drains_early (sound.counted serving octets)
      (Codec.Inlet.Early.refl _) clean
    exact sound_settle serving drains
  rcases octets with _ | ⟨x, xs⟩
  · rw [receive_nil]
    exact sound
  · cases phase : c.phase with
    | opening =>
      obtain ⟨empty, sound'⟩ := sound.fresh phase
      by_cases old : x = LegacyPing.opening
      · rw [old, receive_of_legacy phase]
        exact .of_isClosed isClosed_answerLegacy
      · rw [redecryptedBy_of_opening phase empty old] at clean
        rw [receive_of_opening phase empty old]
        exact served (List.cons_ne_nil _ _) rfl sound' clean
    | serving => exact served (List.cons_ne_nil _ _) phase sound clean
    | closed result =>
      have closed : c.isClosed := by
        unfold isClosed
        rw [phase]
        rfl
      rw [receive_of_isClosed closed]
      exact sound

/-! ## Streams -/

/-- Octets arrive one by one. -/
def trickle (octets : Bytes) : List Event := octets.map fun b => .received [b]

theorem run_append (first rest : List Event) :
    c.run registries z (first ++ rest) = (c.run registries z first).run registries z rest :=
  List.foldl_append

/-- **The octets of a read may as well arrive one by one.** -/
theorem receive_octets {octets : Bytes} (sound : c.Sound)
    (clean : ∀ count ∈ c.redecryptedBy registries z octets, count = 0) :
    Alike (c.run registries z (trickle octets)) (c.receive registries z octets) := by
  induction octets generalizing c with
  | nil =>
    rw [receive_nil]
    exact .refl c
  | cons b rest ih =>
    rcases rest with _ | ⟨b', rest⟩
    · exact .refl _
    · obtain ⟨sound', alike, clean'⟩ :=
        @receive_append α registries z c [b] (b' :: rest) nofun nofun sound clean
      exact (ih sound' clean').trans alike

/-- **The octets of a stream may as well arrive one by one.** -/
theorem run_octets {chunks : List Bytes} (sound : c.Sound)
    (clean : ∀ count ∈ c.redecrypted registries z chunks, count = 0) :
    Alike (c.run registries z (trickle chunks.flatten))
      (c.run registries z (chunks.map .received)) := by
  induction chunks generalizing c with
  | nil => exact .refl c
  | cons octets rest ih =>
    rw [redecrypted] at clean
    have clean' : ∀ count ∈ c.redecryptedBy registries z octets, count = 0 :=
      fun count member => clean count (List.mem_append_left _ member)
    have first := receive_octets sound clean'
    have later := ih (sound.receive clean') fun count member =>
      clean count (List.mem_append_right _ member)
    rw [List.flatten_cons, trickle, List.map_append, run_append]
    exact (first.run _).trans later

theorem sound_start (session : Session α) : (start registries session).Sound := by
  unfold start elapse
  dsimp only
  split
  · exact ⟨rfl, rfl⟩
  · split
    · exact .of_isClosed (isClosed_close _ _)
    · exact ⟨rfl, rfl⟩

end Connection

/-! ## Recording does not change what is decrypted again -/

namespace Conversation

variable {α : Type} {z : Zlib.Library} {registries : StateRegistries (Session α)}

theorem redecryptedAll_recorded (batch : List Action) (c : Conversation (Recorded α)) :
    redecryptedAll z registries.recorded batch c = redecryptedAll z registries batch c.plain := by
  induction batch generalizing c with
  | nil => rfl
  | cons action rest ih =>
    have performed := @perform_recorded α registries z c action
    have same : redecryptedBy action c = redecryptedBy action c.plain := by cases action <;> rfl
    rw [redecryptedAll, redecryptedAll, same, ← performed]
    rcases perform z registries.recorded action c with ⟨_ | _, d⟩ | ⟨fault, d⟩
    · rfl
    · exact congrArg _ (ih d)
    · rfl

theorem redecryptedOut_recorded (c : Conversation (Recorded α)) :
    redecryptedOut z registries.recorded c = redecryptedOut z registries c.plain := by
  fun_induction redecryptedOut z registries.recorded c with
  | case1 c pending ih =>
    have pending' : c.plain.session.hasPendingActions := pending
    have batch : withState plain (performAll z registries.recorded c.takeBatch.1 c.takeBatch.2) =
        performAll z registries c.plain.takeBatch.1 c.plain.takeBatch.2 :=
      performAll_recorded z c.takeBatch.2 c.takeBatch.1
    rw [redecryptedOut_of_pending pending', redecryptedAll_recorded, ← batch]
    congr 1
    rcases performed : performAll z registries.recorded c.takeBatch.1 c.takeBatch.2 with
      ⟨_ | _, d⟩ | ⟨fault, d⟩
    · rfl
    · exact ih d performed
    · rfl
  | case2 c idle =>
    have idle' : ¬ c.plain.session.hasPendingActions := idle
    rw [redecryptedOut, dif_neg idle']

theorem redecryptedIn_recorded (payload : Bytes) (c : Conversation (Recorded α)) :
    redecryptedIn z registries.recorded payload c = redecryptedIn z registries payload c.plain := by
  have dispatched : withState plain (dispatch registries.recorded payload (c.count Metrics.received)) =
      dispatch registries payload (c.plain.count Metrics.received) := dispatch_recorded _ payload
  unfold redecryptedIn
  rw [← dispatched]
  rcases dispatch registries.recorded payload (c.count Metrics.received) with
    ⟨outcome, d⟩ | ⟨fault, d⟩
  · exact redecryptedOut_recorded d
  · rfl

theorem redecrypted_recorded (buffer : Bytes) (c : Conversation (Recorded α)) :
    redecrypted z registries.recorded buffer c = redecrypted z registries buffer c.plain := by
  fun_induction redecrypted z registries.recorded buffer c with
  | case1 buffer c payload inlet decoded ih =>
    have given : withState plain (answer z registries.recorded payload { c with codec := inlet.codec }) =
        answer z registries payload { c.plain with codec := inlet.codec } :=
      answer_recorded z { c with codec := inlet.codec } payload
    rw [@redecrypted_of_some α z registries c.plain buffer payload inlet decoded,
      redecryptedIn_recorded, ← given]
    congr 1
    rcases answered : answer z registries.recorded payload { c with codec := inlet.codec } with
      ⟨_ | _, d⟩ | ⟨fault, d⟩
    · rfl
    · exact ih d
    · rfl
  | case2 buffer c inlet idle =>
    exact (@redecrypted_of_none α z registries c.plain buffer inlet idle).symm
  | case3 buffer c fault inlet failed =>
    exact (@redecrypted_of_error α z registries c.plain buffer inlet fault failed).symm

end Conversation

namespace Connection

variable {α : Type} {z : Zlib.Library} {registries : StateRegistries (Session α)}

theorem redecryptedBy_recorded (octets : Bytes) (c : Connection (Recorded α)) :
    c.redecryptedBy registries.recorded z octets = c.plain.redecryptedBy registries z octets := by
  obtain ⟨conversation, readTimeout, phase, buffer, mailbox, silence, notes⟩ := c
  rcases octets with _ | ⟨first, rest⟩
  · cases phase <;> rfl
  · cases phase with
    | opening =>
      unfold redecryptedBy plain
      dsimp only
      rw [Conversation.redecrypted_recorded]
    | serving => exact Conversation.redecrypted_recorded _ _
    | closed result => rfl

theorem redecrypted_recorded (chunks : List Bytes) (c : Connection (Recorded α)) :
    c.redecrypted registries.recorded z chunks = c.plain.redecrypted registries z chunks := by
  induction chunks generalizing c with
  | nil => rfl
  | cons octets rest ih =>
    rw [redecrypted, redecrypted, redecryptedBy_recorded, ih, receive_recorded]

/-! ## From the first read to the last -/

/-- A client's stream, cut into reads, from the first read to the end of the stream. -/
def reads (chunks : List Bytes) : List Event := chunks.map .received ++ [.finished]

theorem isClosed_finish (c : Connection α) : (c.finish registries).isClosed := by
  obtain ⟨conversation, readTimeout, phase, buffer, mailbox, silence, notes⟩ := c
  cases phase with
  | opening => exact isClosed_close _ _
  | serving =>
    unfold finish
    dsimp only
    split
    · exact isClosed_close _ _
    · exact isClosed_close _ _
  | closed result => rfl

theorem run_reads_octets {c : Connection α} {chunks : List Bytes} (sound : c.Sound)
    (clean : ∀ count ∈ c.redecrypted registries z chunks, count = 0) :
    Alike (c.run registries z (trickle chunks.flatten ++ [.finished]))
      (c.run registries z (reads chunks)) := by
  rw [reads, run_append, run_append]
  exact (run_octets sound clean).run [.finished]

/-! ## Connections that turn encryption on with every packet -/

section Rekeying

open Conversation (rekeying request sealed keyed along clash)

variable {secret : SharedSecret} {c : Connection α} {d : Conversation α}

/-- The connection once it has answered all that has arrived. -/
def served (c : Connection α) (d : Conversation α) : Connection α :=
  { c with conversation := d, phase := .serving, buffer := [], silence := ⟨0⟩ }

/-- A connection that has answered no packet yet. -/
structure Waiting (c : Connection α) : Prop where
  opening : c.phase = .opening
  empty : c.buffer = []
  ready : c.conversation.Ready
  fresh : c.conversation.codec = {}

theorem receive_request (lawful : z.RoundTrips) (waiting : c.Waiting) (rest : Bytes) :
    c.receive (rekeying secret) z (request ++ rest) =
        { c with phase := .serving, buffer := request ++ rest, silence := ⟨0⟩ }.settle
          (rekeying secret) ((c.conversation.rekeyed secret).drain z (rekeying secret) rest) ∧
      c.redecryptedBy (rekeying secret) z (request ++ rest) =
        0 :: (c.conversation.rekeyed secret).redecrypted z (rekeying secret) rest := by
  obtain ⟨opening, empty, ready, fresh⟩ := waiting
  have framed : (1 : UInt8) ≠ LegacyPing.opening := by decide
  obtain ⟨drained, again⟩ :=
    @Conversation.drain_request α z c.conversation secret lawful ready fresh rest
  constructor
  · rw [show request ++ rest = 1 :: (0 :: rest) from rfl, receive_of_opening opening empty framed,
      receive_of_serving rfl (List.cons_ne_nil _ _)]
    dsimp only
    rw [empty, List.nil_append, ← drained]
    rfl
  · rw [show request ++ rest = 1 :: (0 :: rest) from rfl,
      redecryptedBy_of_opening opening empty framed, redecryptedBy_of_serving rfl (List.cons_ne_nil _ _)]
    dsimp only
    rw [empty, List.nil_append, ← again]
    rfl

theorem receive_sealed (lawful : z.RoundTrips) (ready : d.Ready) (on : d.codec = keyed secret) :
    (c.served d).receive (rekeying secret) z (sealed secret) = c.served (d.rekeyed secret) ∧
      (c.served d).redecryptedBy (rekeying secret) z (sealed secret) = [0] := by
  have nonempty : sealed secret ≠ [] := List.cons_ne_nil _ _
  have nothing : (along secret []).buffer = [] := by
    rw [Conversation.along_eq]
    rfl
  have drains := Conversation.drain_sealed lawful ready on []
  rw [List.append_nil, nothing, Conversation.drain_nil, Conversation.redecrypted_nil] at drains
  constructor
  · rw [receive_of_serving rfl nonempty]
    change Connection.settle _ _ (d.drain z (rekeying secret) (sealed secret)) = _
    rw [drains.1]
    rfl
  · rw [redecryptedBy_of_serving rfl nonempty]
    exact drains.2

theorem receive_request_nil (lawful : z.RoundTrips) (waiting : c.Waiting) :
    c.receive (rekeying secret) z request = c.served (c.conversation.rekeyed secret) ∧
      c.redecryptedBy (rekeying secret) z request = [0] := by
  obtain ⟨received, again⟩ := @receive_request α z secret c lawful waiting []
  rw [List.append_nil, Conversation.drain_nil] at received
  rw [List.append_nil, Conversation.redecrypted_nil] at again
  exact ⟨received, again⟩

/-- The second time that encryption is turned on, nothing stands behind the packet. -/
theorem redecrypted_request_sealed (lawful : z.RoundTrips) (waiting : c.Waiting) :
    c.redecrypted (rekeying secret) z [request, sealed secret] = [0, 0] ∧
      c.redecrypted (rekeying secret) z [request ++ sealed secret] = [0, 0] := by
  have ready := @Conversation.Ready.rekeyed α c.conversation secret waiting.ready
  have drains := Conversation.drain_sealed lawful ready rfl []
  have nothing : (along secret []).buffer = [] := by
    rw [Conversation.along_eq]
    rfl
  rw [List.append_nil, nothing, Conversation.redecrypted_nil] at drains
  constructor
  · obtain ⟨received, again⟩ := @receive_request_nil α z secret c lawful waiting
    rw [redecrypted, redecrypted, again, received, (receive_sealed lawful ready rfl).2]
    rfl
  · rw [redecrypted, (receive_request lawful waiting (sealed secret)).2, drains.2]
    rfl

/-- Two frames after each other, each encrypted anew, in a read of their own. -/
theorem result?_request_sealed_sealed (lawful : z.RoundTrips) (waiting : c.Waiting) :
    (c.run (rekeying secret) z (reads [request, sealed secret, sealed secret])).result? =
      some (.ok ()) := by
  have ready := @Conversation.Ready.rekeyed α c.conversation secret waiting.ready
  change (((((c.receive (rekeying secret) z request).receive (rekeying secret) z
    (sealed secret)).receive (rekeying secret) z (sealed secret)).finish (rekeying secret))).result? = _
  rw [(receive_request_nil lawful waiting).1, (receive_sealed lawful ready rfl).1,
    (receive_sealed lawful ready.rekeyed rfl).1]
  rfl

/-- The same frames in one read. -/
theorem result?_of_clash (lawful : z.RoundTrips) (waiting : c.Waiting)
    (long : 1 < (clash secret).toNat) (short : clash secret < 128) :
    (c.run (rekeying secret) z (reads [request ++ (sealed secret ++ sealed secret)])).result? =
      some (.error (.stream .cutFrame)) := by
  have ready := @Conversation.Ready.rekeyed α c.conversation secret waiting.ready
  obtain ⟨inlet, rest, idle⟩ := @Conversation.decode_along z secret long short
  obtain ⟨b, rest, left⟩ := List.exists_cons_of_ne_nil rest
  change ((c.receive (rekeying secret) z
    (request ++ (sealed secret ++ sealed secret))).finish (rekeying secret)).result? = _
  rw [(receive_request lawful waiting _).1, (Conversation.drain_sealed lawful ready rfl _).1,
    Conversation.drain_of_none idle, left]
  rfl

end Rekeying

/-! ## One stream, cut in two ways -/

/-- **A connection depends on the stream of its client and not on how the stream is cut into reads**,
if no octet is decrypted again because encryption is turned on anew. -/
theorem run_reads_of_flatten_eq (session : Session α) {first second : List Bytes}
    (same : first.flatten = second.flatten)
    (clean : ∀ count ∈ (start registries session).redecrypted registries z first, count = 0)
    (clean' : ∀ count ∈ (start registries session).redecrypted registries z second, count = 0) :
    let one := (start registries session).run registries z (reads first)
    let other := (start registries session).run registries z (reads second)
    one.isClosed ∧ other.conversation.written = one.conversation.written ∧
      other.result? = one.result? ∧ other.session = one.session ∧ other.notes = one.notes ∧
      calls registries z session (reads second) = calls registries z session (reads first) := by
  intro one other
  have closed : one.isClosed := by
    change ((start registries session).run registries z (first.map .received ++ [.finished])).isClosed
    rw [run_append]
    exact isClosed_finish _
  obtain ⟨written, result, session', notes⟩ :=
    (run_reads_octets (sound_start session) clean).observed
  obtain ⟨written', result', session'', notes'⟩ :=
    (run_reads_octets (sound_start session) clean').observed
  rw [same] at written result session' notes
  refine ⟨closed, written'.trans written.symm, result'.trans result.symm,
    session''.trans session'.symm, notes'.trans notes.symm, ?_⟩
  rw [← start_recorded session, ← redecrypted_recorded] at clean clean'
  have recorded := (run_reads_octets (sound_start (session.withRecord [])) clean).observed.2.2.1
  have recorded' := (run_reads_octets (sound_start (session.withRecord [])) clean').observed.2.2.1
  rw [same] at recorded
  unfold calls
  rw [recorded, recorded']

/-- A session with a server that leaves its clients time. -/
def firstSession : Session Unit where
  id := ⟨1⟩
  peer := none
  server := { config := {}, key := none }
  entropy := ⟨fun _ => 0, 0⟩
  app := ()

/-- The secret of the octets from 2 to 17. -/
def firstSecret : SharedSecret where
  bytes := [2, 3, 4, 5, 6, 7, 8, 9, 10, 11, 12, 13, 14, 15, 16, 17]

open Conversation (rekeying request sealed clash)

theorem waiting_start : (start (rekeying firstSecret) firstSession).Waiting :=
  ⟨rfl, rfl, ⟨rfl, rfl, rfl⟩, rfl⟩

theorem clash_firstSecret : clash firstSecret = 4 := by
  have mask : ((Duplex.ofSecret firstSecret).outbound.encrypt request).2.mask = 5 := by
    decide +kernel
  unfold clash
  rw [mask]
  rfl

/-- A frame in plain octets and the first that is encrypted, in one read and in two. -/
theorem run_reads_of_flatten_eq_request_sealed :
    let c := start (rekeying firstSecret) firstSession
    let one := [request ++ sealed firstSecret]
    let two := [request, sealed firstSecret]
    one.flatten = two.flatten ∧
      (∀ count ∈ c.redecrypted (rekeying firstSecret) .stored one, count = 0) ∧
      (∀ count ∈ c.redecrypted (rekeying firstSecret) .stored two, count = 0) ∧
      (c.run (rekeying firstSecret) .stored (reads two)).conversation.written =
        (c.run (rekeying firstSecret) .stored (reads one)).conversation.written := by
  intro c one two
  have same : one.flatten = two.flatten := rfl
  obtain ⟨first, second⟩ := @redecrypted_request_sealed Unit .stored firstSecret c
    Zlib.Library.stored_roundTrips waiting_start
  have clean : ∀ count ∈ c.redecrypted (rekeying firstSecret) .stored one, count = 0 := by
    rw [second]
    decide
  have clean' : ∀ count ∈ c.redecrypted (rekeying firstSecret) .stored two, count = 0 := by
    rw [first]
    decide
  exact ⟨same, clean, clean', (run_reads_of_flatten_eq firstSession same clean clean').2.1⟩

/-- **Encryption that is turned on anew tells one read from three**: what was decrypted along with
an earlier frame is decrypted again. -/
theorem run_reads_ne_of_redecrypted :
    ¬ ∀ (registries : StateRegistries (Session Unit)) (z : Zlib.Library) (session : Session Unit)
      (first second : List Bytes), z.RoundTrips → first.flatten = second.flatten →
      (∀ octets ∈ first ++ second, octets ≠ []) →
      ((start registries session).run registries z (reads second)).result? =
        ((start registries session).run registries z (reads first)).result? := by
  intro agree
  have lawful := Zlib.Library.stored_roundTrips
  have separate := @result?_request_sealed_sealed Unit .stored firstSecret _ lawful waiting_start
  have joined := @result?_of_clash Unit .stored firstSecret _ lawful waiting_start
    (by rw [clash_firstSecret]; decide) (by rw [clash_firstSecret]; decide)
  have same := agree (rekeying firstSecret) .stored firstSession
    [request, sealed firstSecret, sealed firstSecret]
    [request ++ (sealed firstSecret ++ sealed firstSecret)] lawful rfl (by
      simp [request, sealed, Cfb8.encrypt, Cfb8.passFrom])
  rw [separate, joined] at same
  cases same

end Connection

end GameTransport
