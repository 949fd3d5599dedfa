import GameTransport.Proofs.Fronts
import GameTransport.Proofs.Reads
import Mathlib.Data.List.Induction

/-! # A frame that fails

A frame may be refused before anything is done in answer to it: it is no frame, no payload comes out of
it, or the dispatch of the payload fails (`Conversation.Refuses`).  The connection ends then, and all
that was done is what was done in answer to the frames before: stopped at the octet where the frame
begins, the same course of events ends in order, has written the same octets, stands in the same state
and has the same layers (`Connection.failed_frame_leaves_no_trace`).

The octet is found along the course of events.  While a connection is open it has answered all frames
that have arrived (`Connection.Resting`), so between two events there is always an octet where the
course may be stopped (`Connection.StopsAt`, `Connection.halts_run`).  A read that completes frames
moves that octet to the end of the last of them, and since the read before has left none of them
complete, it lies in this read.
-/

namespace GameTransport

variable {α : Type}

/-! ## A course of events up to an octet -/

namespace Event

/-- The octets that arrive. -/
def octets : Event → Bytes
  | received octets => octets
  | finished | elapsed _ | posted _ | delivered => []

/-- The octets that arrive in a course of events. -/
def stream (events : List Event) : Bytes := events.flatMap octets

/-- The event, with the first `n` of its octets. -/
def front (n : Nat) : Event → Event
  | received octets => received (octets.take n)
  | finished => finished
  | elapsed time => elapsed time
  | posted message => posted message
  | delivered => delivered

/-- The course of events until the `n`-th octet has arrived. -/
def cutAt : Nat → List Event → List Event
  | 0, _ => []
  | _ + 1, [] => []
  | n + 1, event :: rest => event.front (n + 1) :: cutAt (n + 1 - event.octets.length) rest

variable {n : Nat} {events : List Event}

theorem front_of_le {event : Event} (all : event.octets.length ≤ n) : event.front n = event := by
  cases event with
  | received octets => exact congrArg received (List.take_of_length_le all)
  | finished => rfl
  | elapsed time => rfl
  | posted message => rfl
  | delivered => rfl

theorem length_stream_cons (event : Event) (rest : List Event) :
    (stream (event :: rest)).length = event.octets.length + (stream rest).length := by
  rw [stream, List.flatMap_cons, List.length_append]
  rfl

theorem cutAt_append_of_le (within : n ≤ (stream events).length) (more : List Event) :
    cutAt n (events ++ more) = cutAt n events := by
  induction events generalizing n with
  | nil =>
    obtain rfl : n = 0 := Nat.le_zero.mp within
    rw [cutAt, cutAt]
  | cons event rest ih =>
    rw [length_stream_cons] at within
    cases n with
    | zero => rfl
    | succ n => rw [List.cons_append, cutAt, cutAt, ih (by omega)]

theorem cutAt_append_of_lt (beyond : (stream events).length < n) (more : List Event) :
    cutAt n (events ++ more) = events ++ cutAt (n - (stream events).length) more := by
  induction events generalizing n with
  | nil => rfl
  | cons event rest ih =>
    rw [length_stream_cons] at beyond ⊢
    cases n with
    | zero => omega
    | succ n =>
      rw [List.cons_append, cutAt, front_of_le (by omega), ih (by omega), Nat.sub_sub, List.cons_append]

/-- A course of events that is cut in its last read. -/
theorem cutAt_read (before : List Event) (octets : Bytes) (pos : 0 < n) :
    cutAt ((stream before).length + n) (before ++ [.received octets]) =
      before ++ [.received (octets.take n)] := by
  rw [cutAt_append_of_lt (by omega), Nat.add_sub_cancel_left]
  obtain ⟨n, rfl⟩ := Nat.exists_eq_add_of_lt pos
  rw [Nat.zero_add, cutAt, front]
  cases n + 1 - (received octets).octets.length <;> rfl

theorem length_stream_append (events more : List Event) :
    (stream (events ++ more)).length = (stream events).length + (stream more).length := by
  rw [stream, List.flatMap_append, List.length_append]
  rfl

end Event

/-! ## A frame that is refused -/

namespace Conversation

open Codec (Inlet SameLayers)

variable {z : Zlib.Library} {registries : StateRegistries (Session α)} {buffer : Bytes}
  {c d e : Conversation α} {fault : Fault}

variable (z registries) in
/-- The first frame of a buffer is refused: it cannot be decoded, or its payload cannot be dispatched. -/
inductive Refuses (buffer : Bytes) (c : Conversation α) : Fault → Prop
  | undecoded {fault : Fault} {inlet : Inlet}
    (failed : Codec.decode z ⟨c.codec, buffer⟩ = .error fault inlet) : Refuses buffer c fault
  | undispatched {fault : Fault} {payload : Bytes} {inlet : Inlet} {d : Conversation α}
    (decoded : Codec.decode z ⟨c.codec, buffer⟩ = .ok (some payload) inlet)
    (failed : dispatch registries payload ({ c with codec := inlet.codec }.count Metrics.received) =
      .error fault d) : Refuses buffer c fault

/-- Two conversations that have written the same, stand in the same state and have the same layers. -/
structure SameOutside (c d : Conversation α) : Prop where
  written : d.written = c.written
  state : d.state = c.state
  layers : SameLayers c.codec d.codec

namespace SameOutside

theorem symm (same : SameOutside c d) : SameOutside d c :=
  ⟨same.written.symm, same.state.symm, same.layers.symm⟩

theorem trans (same : SameOutside c d) (same' : SameOutside d e) : SameOutside c e :=
  ⟨same'.written.trans same.written, same'.state.trans same.state, same.layers.trans same'.layers⟩

theorem withCodec {codec : Codec} (same : SameLayers c.codec codec) :
    SameOutside c (c.withCodec codec) := ⟨rfl, rfl, same⟩

/-- What runs when a connection closes is not seen outside. -/
theorem closed (registries : StateRegistries (Session α)) (result : Except Fault Unit)
    (c : Conversation α) : SameOutside c (c.closed registries result) := by
  cases result with
  | ok done => exact ⟨rfl, rfl, .refl _⟩
  | error fault =>
    unfold Conversation.closed caught
    dsimp only
    split <;> exact ⟨rfl, rfl, .refl _⟩

end SameOutside

/-- **A frame that is refused has no effect but that its payload may have been dispatched.** -/
theorem Refuses.drain_eq (refuses : Refuses z registries buffer c fault) :
    ∃ d, c.drain z registries buffer = .error fault d ∧ SameOutside c d ∧
      ((c.history z registries buffer).map Happening.gist = [] ∨
        ∃ payload, (c.history z registries buffer).map Happening.gist = [.heard payload]) := by
  cases refuses with
  | @undecoded inlet failed =>
    have layers := SameLayers.decode z ⟨c.codec, buffer⟩
    rw [failed] at layers
    refine ⟨_, drain_of_error failed, ⟨rfl, rfl, layers⟩, .inl ?_⟩
    rw [history_of_error failed]
    rfl
  | @undispatched payload inlet d decoded failed =>
    have layers := SameLayers.decode z ⟨c.codec, buffer⟩
    rw [decoded] at layers
    have answered : answer z registries payload { c with codec := inlet.codec } = .error fault d := by
      rw [answer, failed]
    refine ⟨d, ?_, ?_, .inr ⟨payload, ?_⟩⟩
    · rw [drain_of_some decoded, answered]
    · unfold dispatch at failed
      split at failed
      · cases failed
      · cases failed
        exact ⟨rfl, rfl, layers⟩
    · rw [history_of_some decoded, answered, historyIn, failed]
      rfl

end Conversation

/-! ## Where a course of events may be stopped -/

namespace Connection

open Codec (Inlet SameLayers)
open Conversation (Answers Refuses SameOutside)

/-- The buffer that is looked through for frames when octets arrive, if one is. -/
def buffered? (octets : Bytes) (c : Connection α) : Option Bytes :=
  match octets, c.phase with
  | first :: rest, .opening =>
    if first = LegacyPing.opening then none else some (first :: rest)
  | first :: rest, .serving => some (c.buffer ++ first :: rest)
  | _, _ => none

/-- An open connection to which nothing is posted, and which has answered all that is complete. -/
structure Resting (z : Zlib.Library) (c : Connection α) : Prop where
  stays : c.isClosed = false
  mailbox : c.mailbox = []
  fresh : c.phase = .opening → c.buffer = []
  counted : (Inlet.mk c.conversation.codec c.buffer).Counted
  idle : ∃ inlet, Codec.decode z ⟨c.conversation.codec, c.buffer⟩ = .ok none inlet

variable (registries : StateRegistries (Session α)) (z : Zlib.Library)

/-- The gist of what happens in a course of events. -/
def gists (events : List Event) (c : Connection α) : List Gist :=
  (c.history registries z events).map Happening.gist

/-- Stopped at its `n`-th octet, a course of events leads to the conversation and no octet is left over. -/
structure StopsAt (n : Nat) (first : Connection α) (events : List Event) (d : Conversation α)
    (gists : List Gist) : Prop where
  within : n ≤ (Event.stream events).length
  stays : (first.run registries z (Event.cutAt n events)).isClosed = false
  empty : (first.run registries z (Event.cutAt n events)).buffer = []
  conversation : ∃ codec, SameLayers d.codec codec ∧
    (first.run registries z (Event.cutAt n events)).conversation = d.withCodec codec
  gists_eq : first.gists registries z (Event.cutAt n events) = gists

variable {registries} {z} {c first : Connection α} {d : Conversation α} {events before : List Event}
  {octets buffer rest : Bytes} {n : Nat} {told : List Gist}

/-! ### Reads -/

theorem receive_of_buffered (arrives : c.buffered? octets = some buffer) :
    c.receive registries z octets =
      { c with phase := .serving, buffer, silence := ⟨0⟩ }.settle registries
        (c.conversation.drain z registries buffer) := by
  obtain ⟨conversation, readTimeout, phase, held, mailbox, silence, notes⟩ := c
  rcases octets with _ | ⟨x, xs⟩
  · cases phase <;> cases arrives
  · cases phase with
    | opening =>
      unfold buffered? at arrives
      unfold receive
      dsimp only at arrives ⊢
      split at arrives
      · cases arrives
      · rename_i other
        cases arrives
        rw [if_neg other]
        rfl
    | serving => cases arrives; rfl
    | closed result => cases arrives

theorem happenings_of_buffered (arrives : c.buffered? octets = some buffer) :
    c.happenings registries z (.received octets) = c.conversation.history z registries buffer := by
  obtain ⟨conversation, readTimeout, phase, held, mailbox, silence, notes⟩ := c
  rcases octets with _ | ⟨x, xs⟩
  · cases phase <;> cases arrives
  · cases phase with
    | opening =>
      unfold buffered? at arrives
      unfold happenings
      dsimp only at arrives ⊢
      split at arrives
      · cases arrives
      · rename_i other
        cases arrives
        rw [if_neg other]
    | serving => cases arrives; rfl
    | closed result => cases arrives

/-- Octets that are not looked through for frames are an old client's, or none. -/
theorem receive_of_unbuffered (ignored : c.buffered? octets = none)
    (stays : (c.receive registries z octets).isClosed = false) :
    c.receive registries z octets = c ∧ c.happenings registries z (.received octets) = [] := by
  obtain ⟨conversation, readTimeout, phase, held, mailbox, silence, notes⟩ := c
  rcases octets with _ | ⟨x, xs⟩
  · cases phase <;> exact ⟨rfl, rfl⟩
  · cases phase with
    | opening =>
      unfold buffered? at ignored
      dsimp only at ignored
      split at ignored
      · rename_i old
        rw [old, receive_of_legacy rfl, isClosed_answerLegacy] at stays
        cases stays
      · cases ignored
    | serving => cases ignored
    | closed result => exact ⟨rfl, rfl⟩

theorem buffered?_eq_some (fresh : c.phase = .opening → c.buffer = [])
    (arrives : c.buffered? octets = some buffer) :
    buffer = c.buffer ++ octets ∧ ∀ n, 0 < n →
      c.buffered? (octets.take n) = some (c.buffer ++ octets.take n) := by
  obtain ⟨conversation, readTimeout, phase, held, mailbox, silence, notes⟩ := c
  rcases octets with _ | ⟨x, xs⟩
  · cases phase <;> cases arrives
  · cases phase with
    | opening =>
      obtain rfl : held = [] := fresh rfl
      unfold buffered? at arrives
      dsimp only at arrives
      split at arrives
      · cases arrives
      · rename_i other
        cases arrives
        refine ⟨rfl, fun n pos => ?_⟩
        obtain ⟨n, rfl⟩ := Nat.exists_eq_add_of_lt pos
        rw [Nat.zero_add, List.take_succ_cons]
        exact if_neg other
    | serving =>
      cases arrives
      refine ⟨rfl, fun n pos => ?_⟩
      obtain ⟨n, rfl⟩ := Nat.exists_eq_add_of_lt pos
      rw [Nat.zero_add, List.take_succ_cons]
      rfl
    | closed result => cases arrives

theorem stays_of_buffered (arrives : c.buffered? octets = some buffer) : c.isClosed = false := by
  obtain ⟨conversation, readTimeout, phase, held, mailbox, silence, notes⟩ := c
  cases phase with
  | opening => rfl
  | serving => rfl
  | closed result => cases octets <;> cases arrives

/-! ### Stopping -/

theorem gists_append (events more : List Event) :
    first.gists registries z (events ++ more) =
      first.gists registries z events ++ (first.run registries z events).gists registries z more := by
  rw [gists, history_append, List.map_append]
  rfl

theorem gists_of_isClosed (closed : c.isClosed) (events : List Event) :
    c.gists registries z events = [] := by
  rw [gists, history_of_isClosed closed, List.map_nil]

theorem gists_received (arrives : c.buffered? octets = some buffer) :
    c.gists registries z [.received octets] =
      (c.conversation.history z registries buffer).map Happening.gist := by
  rw [gists, history, history, List.append_nil, happenings_of_buffered arrives]

namespace StopsAt

theorem append (stops : StopsAt registries z n first events d told) (more : List Event) :
    StopsAt registries z n first (events ++ more) d told := by
  obtain ⟨within, stays, empty, conversation, gists_eq⟩ := stops
  rw [← Event.cutAt_append_of_le within more] at stays empty conversation gists_eq
  refine ⟨?_, stays, empty, conversation, gists_eq⟩
  rw [Event.length_stream_append]
  omega

theorem withCodec {codec : Codec} (stops : StopsAt registries z n first events d told)
    (same : SameLayers d.codec codec) :
    StopsAt registries z n first events (d.withCodec codec) told := by
  obtain ⟨within, stays, empty, ⟨codec', same', conversation⟩, gists_eq⟩ := stops
  exact ⟨within, stays, empty, ⟨codec', same.symm.trans same', conversation⟩, gists_eq⟩

end StopsAt

/-- A read that completes a frame leaves less than has arrived with it: the octets before it held no
complete frame. -/
theorem Resting.length_lt (resting : c.Resting z) (buffer_eq : buffer = c.buffer ++ octets)
    (answers : Answers z registries n buffer c.conversation rest d) (some_frame : 0 < n) :
    rest.length < octets.length := by
  cases answers with
  | none => cases some_frame
  | @next n _ payload _ inlet _ d' _ decoded answered later =>
    apply Nat.lt_of_not_le
    intro enough
    subst buffer_eq
    have shorter := later.length_le
    have front : Inlet.FrontOf ⟨c.conversation.codec, c.buffer⟩
        ⟨c.conversation.codec, c.buffer ++ octets⟩ := ⟨resting.counted, octets, .inl rfl⟩
    obtain ⟨inlet', complete, -⟩ := front.decode decoded (by
      rw [List.length_append]
      dsimp only
      omega)
    obtain ⟨inlet'', idle⟩ := resting.idle
    rw [idle] at complete
    cases complete

/-- **Behind every frame that a read completes, the course of events may be stopped.** -/
theorem StopsAt.answers (resting : (first.run registries z before).Resting z)
    (stops : StopsAt registries z n first before (first.run registries z before).conversation
      (first.gists registries z before))
    (arrives : (first.run registries z before).buffered? octets = some buffer) {frames : Nat}
    (answers : Answers z registries frames buffer (first.run registries z before).conversation rest d) :
    ∃ n told, told.countP Gist.isHeard = frames ∧ (Inlet.mk d.codec rest).Counted ∧
      first.gists registries z (before ++ [.received octets]) =
        first.gists registries z before ++ told ++ (d.history z registries rest).map Happening.gist ∧
      StopsAt registries z n first (before ++ [.received octets]) d
        (first.gists registries z before ++ told) := by
  obtain ⟨buffer_eq, shortened⟩ := buffered?_eq_some resting.fresh arrives
  obtain ⟨told, heard, begins, alone⟩ := answers.exists_front
  have all : first.gists registries z (before ++ [.received octets]) =
      first.gists registries z before ++ told ++ (d.history z registries rest).map Happening.gist := by
    rw [gists_append, gists_received arrives, begins, List.append_assoc]
  rcases Nat.eq_zero_or_pos frames with rfl | some_frame
  · -- Nothing was complete, so the course is stopped where it was before.
    cases answers
    obtain rfl : told = [] := by
      have same := congrArg List.length begins
      rw [List.length_append] at same
      exact List.eq_nil_of_length_eq_zero (by omega)
    refine ⟨n, [], rfl, ?_, all, ?_⟩
    · rw [buffer_eq]
      exact resting.counted.arrive octets
    · rw [List.append_nil]
      exact stops.append _
  · have shorter := resting.length_lt buffer_eq answers some_frame
    have positive : 0 < octets.length - rest.length := Nat.sub_pos_of_lt shorter
    -- The read is cut off behind the last frame.
    generalize taken : octets.length - rest.length = k at positive
    have frontOf : Inlet.FrontOf ⟨(first.run registries z before).conversation.codec,
        (first.run registries z before).buffer ++ octets.take k⟩
        ⟨(first.run registries z before).conversation.codec, buffer⟩ := by
      refine ⟨resting.counted.arrive _, octets.drop k, .inl ?_⟩
      rw [buffer_eq, Inlet.arrive, List.append_assoc, List.take_append_drop]
    obtain ⟨codec, left, drained, same⟩ := alone frontOf (by
      rw [buffer_eq, List.length_append, List.length_append, List.length_take]
      omega)
    have cut := Event.cutAt_read before octets positive
    have read : first.run registries z (before ++ [.received (octets.take k)]) =
        { first.run registries z before with
          conversation := d.withCodec codec
          phase := .serving
          buffer := []
          silence := ⟨0⟩ } := by
      rw [run_append]
      change (first.run registries z before).receive registries z (octets.take k) = _
      rw [receive_of_buffered (shortened k positive)]
      exact congrArg _ drained
    refine ⟨(Event.stream before).length + k, told, heard, left.counted, all, ?_⟩
    constructor
    · rw [Event.length_stream_append]
      have whole : (Event.stream [Event.received octets]).length = octets.length := by
        rw [Event.length_stream_cons]
        rfl
      omega
    · rw [cut, read]
      rfl
    · rw [cut, read]
    · rw [cut, read]
      exact ⟨codec, left.sameLayers.symm, rfl⟩
    · rw [cut, gists_append, gists_received (shortened k positive)]
      exact congrArg _ same

/-! ### Between two events -/

/-- Between two events an open connection rests, and the course may have been stopped before. -/
structure Halts (registries : StateRegistries (Session α)) (z : Zlib.Library) (first : Connection α)
    (events : List Event) : Prop where
  resting : (first.run registries z events).Resting z
  exists_stopsAt : ∃ n, StopsAt registries z n first events
    (first.run registries z events).conversation (first.gists registries z events)

namespace Halts

/-- An event that leads to nothing. -/
theorem quiet (halts : Halts registries z first events) {event : Event} (silence : Duration)
    (same : (first.run registries z events).step registries z event =
      { first.run registries z events with silence })
    (nothing : (first.run registries z events).happenings registries z event = []) :
    Halts registries z first (events ++ [event]) := by
  obtain ⟨⟨stays, mailbox, fresh, counted, idle⟩, n, stops⟩ := halts
  have after : first.run registries z (events ++ [event]) =
      { first.run registries z events with silence } := by
    rw [run_append]
    exact same
  have told : first.gists registries z (events ++ [event]) = first.gists registries z events := by
    rw [gists_append]
    simp [gists, history, nothing]
  refine ⟨?_, n, ?_⟩
  · rw [after]
    exact ⟨stays, mailbox, fresh, counted, idle⟩
  · rw [after, told]
    exact stops.append [event]

theorem receive (halts : Halts registries z first events)
    (stays : (first.run registries z (events ++ [.received octets])).isClosed = false) :
    Halts registries z first (events ++ [.received octets]) := by
  have after : first.run registries z (events ++ [.received octets]) =
      (first.run registries z events).receive registries z octets := run_append _ _
  rw [after] at stays
  rcases arrives : (first.run registries z events).buffered? octets with _ | buffer
  · obtain ⟨same, nothing⟩ := receive_of_unbuffered arrives stays
    exact halts.quiet _ same nothing
  · rw [receive_of_buffered arrives] at stays after
    rcases drained : (first.run registries z events).conversation.drain z registries buffer with
      ⟨_ | left, e⟩ | ⟨fault, e⟩
    · rw [drained, settle, isClosed_close] at stays
      cases stays
    · rw [drained] at after
      obtain ⟨frames, rest, d, inlet, answers, idle, rfl, rfl⟩ := Answers.of_drain drained
      obtain ⟨n, stops⟩ := halts.exists_stopsAt
      obtain ⟨n, told, -, counted, all, stops⟩ := stops.answers halts.resting arrives answers
      have layers := SameLayers.decode z ⟨d.codec, rest⟩
      rw [idle] at layers
      have same := Codec.decode_eq_none idle
      refine ⟨?_, n, ?_⟩
      · rw [after]
        refine ⟨rfl, halts.resting.mailbox, nofun, counted.decode_none idle, inlet, ?_⟩
        rw [← idle, same]
        exact Codec.decode_congr (Inlet.decrypt_decrypt counted)
      · rw [after, all, Conversation.history_of_none idle, List.map_nil, List.append_nil]
        exact stops.withCodec layers
    · rw [drained, settle, isClosed_close] at stays
      cases stays

end Halts

theorem elapse_of_stays {time : Duration} (stays : (c.elapse registries time).isClosed = false) :
    c.elapse registries time = { c with silence := ⟨c.silence.nanos + time.nanos⟩ } := by
  unfold elapse at stays ⊢
  split
  · rename_i closed
    rw [if_pos closed] at stays
    rw [closed] at stays
    cases stays
  · rename_i opened
    rw [if_neg opened] at stays
    dsimp only at stays ⊢
    split
    · rename_i late
      rw [if_pos late, isClosed_close] at stays
      cases stays
    · rfl

theorem deliver_of_empty (empty : c.mailbox = []) : c.deliver registries z = c := by
  obtain ⟨conversation, readTimeout, phase, buffer, mailbox, silence, notes⟩ := c
  cases empty
  cases phase <;> rfl

/-- **While nothing is posted, a connection that is open has answered all that is complete, and there
is an octet where the course of events might have been stopped.** -/
theorem halts_run (session : Session α) {events : List Event}
    (unposted : ∀ message, .posted message ∉ events)
    (stays : ((start registries session).run registries z events).isClosed = false) :
    Halts registries z (start registries session) events := by
  induction events using List.reverseRecOn with
  | nil =>
    have begun := @elapse_of_stays α registries
      { conversation := ({ session : Conversation α }).enter registries
        readTimeout := session.server.config.readTimeout } ⟨0⟩ stays
    change (start registries session).run registries z [] = _ at begun
    refine ⟨?_, 0, Nat.zero_le _, stays, ?_, ⟨_, .refl _, rfl⟩, rfl⟩
    · rw [begun]
      exact ⟨rfl, rfl, fun _ => rfl, Nat.zero_le _, _, Codec.decode_of_empty rfl⟩
    · change ((start registries session).run registries z []).buffer = []
      rw [begun]
  | append_singleton events event ih =>
    have after := @run_append α registries z (start registries session) events [event]
    have before : ((start registries session).run registries z events).isClosed = false := by
      cases closed : ((start registries session).run registries z events).isClosed with
      | false => rfl
      | true =>
        rw [after, run_of_isClosed closed, closed] at stays
        cases stays
    have halts := ih (fun message posted => unposted message (List.mem_append_left _ posted)) before
    rw [after] at stays
    cases event with
    | received octets => exact halts.receive (after ▸ stays)
    | finished =>
      have closed := @isClosed_finish α registries ((start registries session).run registries z events)
      exact absurd (closed.symm.trans stays) Bool.noConfusion
    | elapsed time => exact halts.quiet _ (elapse_of_stays stays) rfl
    | posted message =>
      exact absurd (List.mem_append_right events (List.mem_singleton_self _)) (unposted message)
    | delivered =>
      exact halts.quiet _ (deliver_of_empty halts.resting.mailbox) rfl

/-! ### The end -/

variable (registries z) in
/-- **A course of events ends because a frame fails**, and how many frames there are up to it: the frame
is refused when it arrives, or the client stops inside it. -/
inductive FailsAt (first : Connection α) (events : List Event) : Nat → Fault → Prop
  | refused {before after : List Event} {octets buffer rest : Bytes} {n : Nat} {d : Conversation α}
    {fault : Fault} (course : events = before ++ .received octets :: after)
    (arrives : (first.run registries z before).buffered? octets = some buffer)
    (answers : Answers z registries n buffer (first.run registries z before).conversation rest d)
    (refuses : Refuses z registries rest d fault) :
    FailsAt first events ((first.gists registries z before).countP Gist.isHeard + n + 1) fault
  | cutOff {before after : List Event} (course : events = before ++ .finished :: after)
    (serving : (first.run registries z before).phase = .serving)
    (inside : (first.run registries z before).buffer ≠ []) :
    FailsAt first events ((first.gists registries z before).countP Gist.isHeard + 1)
      (.stream .cutFrame)

theorem finish_of_empty (stays : c.isClosed = false) (empty : c.buffer = []) :
    c.finish registries = c.close registries (.ok ()) c.conversation := by
  obtain ⟨conversation, readTimeout, phase, buffer, mailbox, silence, notes⟩ := c
  cases empty
  cases phase with
  | opening => rfl
  | serving => rfl
  | closed result => cases stays

/-- Where a course may be stopped, it ends in order when the client stops there. -/
theorem StopsAt.finished (stops : StopsAt registries z n first events d told) :
    (first.run registries z (Event.cutAt n events ++ [.finished])).result? = some (.ok ()) ∧
      SameOutside d
        (first.run registries z (Event.cutAt n events ++ [.finished])).conversation ∧
      first.gists registries z (Event.cutAt n events ++ [.finished]) = told := by
  obtain ⟨codec, layers, conversation⟩ := stops.conversation
  have ended : first.run registries z (Event.cutAt n events ++ [.finished]) =
      (first.run registries z (Event.cutAt n events)).close registries (.ok ())
        (d.withCodec codec) := by
    rw [run_append, ← conversation]
    exact finish_of_empty stops.stays stops.empty
  refine ⟨?_, ?_, ?_⟩
  · rw [ended, result?_close]
  · rw [ended, conversation_close]
    exact (SameOutside.withCodec layers).trans (.closed registries (.ok ()) _)
  · rw [gists_append, stops.gists_eq]
    exact List.append_nil told

/-- What closes the connection on a fault leaves what stopping it leaves, whatever is to come. -/
theorem StopsAt.failed {last : List Gist} {e : Conversation α} {fault : Fault}
    (stops : StopsAt registries z n first before d told)
    (closes : first.run registries z before = c.close registries (.error fault) e)
    (outside : SameOutside d e) (happened : first.gists registries z before = told ++ last)
    (after : List Event) :
    StopsAt registries z n first (before ++ after) d told ∧
      (first.run registries z (before ++ after)).result? = some (.error fault) ∧
      SameOutside d (first.run registries z (before ++ after)).conversation ∧
      first.gists registries z (before ++ after) = told ++ last := by
  have closed := @isClosed_close α registries c (.error fault) e
  have ended : first.run registries z (before ++ after) = c.close registries (.error fault) e := by
    rw [run_append, closes, run_of_isClosed closed]
  refine ⟨stops.append after, ?_, ?_, ?_⟩
  · rw [ended, result?_close]
  · rw [ended, conversation_close]
    exact outside.trans (.closed registries (.error fault) e)
  · rw [gists_append, closes, gists_of_isClosed closed, happened, List.append_nil]

/-- Where a frame fails, the course of events may be stopped with all frames before it answered, and the
frame does nothing to what there is then. -/
theorem FailsAt.exists_stopsAt {session : Session α} {k : Nat} {fault : Fault}
    (unposted : ∀ message, .posted message ∉ events)
    (fails : FailsAt registries z (start registries session) events k fault) :
    let first := start registries session
    let failed := first.run registries z events
    ∃ n d told last, StopsAt registries z n first events d told ∧
      told.countP Gist.isHeard + 1 = k ∧ failed.result? = some (.error fault) ∧
      SameOutside d failed.conversation ∧ first.gists registries z events = told ++ last ∧
      (last = [] ∨ ∃ payload, last = [.heard payload]) := by
  intro first failed
  have halts {before : List Event} (part : before ⊆ events)
      (stays : (first.run registries z before).isClosed = false) :
      Halts registries z first before :=
    halts_run session (fun message posted => unposted message (part posted)) stays
  cases fails with
  | @refused before after octets buffer rest n d fault course arrives answers refuses =>
    subst course
    have halts := halts (List.subset_append_left _ _) (stays_of_buffered arrives)
    obtain ⟨m, stops⟩ := halts.exists_stopsAt
    obtain ⟨m, told, heard, -, all, stops⟩ := stops.answers halts.resting arrives answers
    obtain ⟨e, drained, outside, alone⟩ := refuses.drain_eq
    have closes : first.run registries z (before ++ [.received octets]) =
        { first.run registries z before with phase := .serving, buffer, silence := ⟨0⟩ }.close
          registries (.error fault) e := by
      rw [run_append]
      change (first.run registries z before).receive registries z octets = _
      rw [receive_of_buffered arrives, answers.drain_eq, drained]
      rfl
    obtain ⟨stops, result, outside, happened⟩ := stops.failed closes outside all after
    rw [← List.append_cons] at stops result outside happened
    refine ⟨m, d, _, _, stops, ?_, result, outside, happened, alone⟩
    rw [List.countP_append, heard]
  | @cutOff before after course serving inside =>
    subst course
    have halts := halts (List.subset_append_left _ _) (by rw [isClosed, serving]; rfl)
    obtain ⟨m, stops⟩ := halts.exists_stopsAt
    have closes : first.run registries z (before ++ [.finished]) =
        (first.run registries z before).close registries (.error (.stream .cutFrame))
          ((first.run registries z before).conversation.count Metrics.received) := by
      rw [run_append]
      change (first.run registries z before).finish registries = _
      unfold finish
      rw [serving]
      exact if_neg (by rw [List.isEmpty_iff]; exact inside)
    have nothing : first.gists registries z (before ++ [.finished]) =
        first.gists registries z before ++ [] := by
      rw [gists_append]
      rfl
    obtain ⟨stops, result, outside, happened⟩ :=
      (stops.append [.finished]).failed closes ⟨rfl, rfl, .refl _⟩ nothing after
    rw [← List.append_cons] at stops result outside happened
    exact ⟨m, _, _, [], stops, rfl, result, outside, happened, .inl rfl⟩

/-- **A frame that fails has no effect.**  The course of events, stopped at the octet where the frame
begins, ends in order with all frames before it answered.  The same octets are written then, the state
is the same and so are the layers.  The payload of the frame may have been dispatched, but nothing is
carried out in answer to it, and no later frame is dispatched. -/
theorem failed_frame_leaves_no_trace (session : Session α) {k : Nat} {fault : Fault}
    (unposted : ∀ message, .posted message ∉ events)
    (fails : FailsAt registries z (start registries session) events k fault) :
    let first := start registries session
    let failed := first.run registries z events
    ∃ n ≤ (Event.stream events).length, ∃ last : List Gist,
      let stopped := first.run registries z (Event.cutAt n events ++ [.finished])
      let told := first.gists registries z (Event.cutAt n events ++ [.finished])
      failed.result? = some (.error fault) ∧ stopped.result? = some (.ok ()) ∧
        told.countP Gist.isHeard + 1 = k ∧
        failed.conversation.written = stopped.conversation.written ∧
        failed.conversation.state = stopped.conversation.state ∧
        SameLayers stopped.conversation.codec failed.conversation.codec ∧
        first.gists registries z events = told ++ last ∧
        (last = [] ∨ ∃ payload, last = [.heard payload]) := by
  intro first failed
  obtain ⟨n, d, told, last, stops, frames, result, outside, happened, alone⟩ :=
    fails.exists_stopsAt unposted
  obtain ⟨result', outside', happened'⟩ := stops.finished
  have same := outside'.symm.trans outside
  refine ⟨n, stops.within, last, result, result', ?_, same.written, same.state, same.layers, ?_,
    alone⟩
  · rw [happened']
    exact frames
  · rw [happened']
    exact happened

/-! ### A handler that fails late -/

section Stumbling

open Conversation (request decode_request)

/-- Answers the first packet.  With the second it fails, once it has queued an answer, another key and
a transition. -/
def stumble : Handler (Session Unit) StatusRequest := fun _ session =>
  if session.username.isNone then
    .ok () ((session.sendRaw ⟨7, []⟩).setProfile "" none)
  else
    .error (.invalidData (.other "again"))
      (((session.sendRaw ⟨8, []⟩).enableEncryption firstSecret).requestTransition .status)

/-- Registries of which the first has that handler. -/
def stumbling : StateRegistries (Session Unit) :=
  let empty : Registry.Builder (Session Unit) := { name := "" }
  { handshaking := (empty.addWith stumble).build
    status := empty.build
    login := empty.build
    play := empty.build }

/-- Three packets in two reads. -/
def insisting : List Event := [.received (request ++ request), .received request]

theorem failsAt_insisting :
    FailsAt stumbling .stored (start stumbling firstSession) insisting 2
      (.handler "StatusRequest" (.invalidData (.other "again"))) := by
  have decoded := decode_request Zlib.Library.stored_roundTrips
  obtain ⟨d, e, answered, codec, failed⟩ : ∃ d e,
      Conversation.answer .stored stumbling [0] (start stumbling firstSession).conversation =
        .ok true d ∧ d.codec = {} ∧
      Conversation.dispatch stumbling [0] ({ d with codec := {} }.count Metrics.received) =
        .error (.handler "StatusRequest" (.invalidData (.other "again"))) e :=
    ⟨_, _, by with_unfolding_all rfl, rfl, by with_unfolding_all rfl⟩
  have second : Codec.decode .stored ⟨d.codec, request⟩ = .ok (some [0]) ⟨{}, []⟩ := by
    rw [codec]
    exact decoded []
  have answers : Answers .stored stumbling 1 (request ++ request)
      (start stumbling firstSession).conversation request d :=
    .next (decoded request) answered .none
  exact @FailsAt.refused Unit stumbling .stored (start stumbling firstSession) insisting [] _ _ _ _ 1
    d _ rfl rfl answers (.undispatched second failed)

/-- Of what the failing handler queued, nothing is written. -/
theorem failed_frame_leaves_no_trace_stumbling :
    let first := start stumbling firstSession
    (∀ message, .posted message ∉ insisting) ∧
      FailsAt stumbling .stored first insisting 2
        (.handler "StatusRequest" (.invalidData (.other "again"))) ∧
      (first.run stumbling .stored insisting).conversation.written = [1, 7] ∧
      ∃ n, (first.run stumbling .stored (Event.cutAt n insisting ++ [.finished])).result? =
          some (.ok ()) ∧
        (first.run stumbling .stored (Event.cutAt n insisting ++ [.finished])).conversation.written =
          [1, 7] := by
  intro first
  have unposted : ∀ message, .posted message ∉ insisting := by
    intro message posted
    simp [insisting] at posted
  have written : (first.run stumbling .stored insisting).conversation.written = [1, 7] := by
    with_unfolding_all rfl
  obtain ⟨n, -, last, -, result, -, same, -⟩ :=
    failed_frame_leaves_no_trace firstSession unposted failsAt_insisting
  exact ⟨unposted, failsAt_insisting, written, n, result, same.symm.trans written⟩

end Stumbling

end Connection

end GameTransport
