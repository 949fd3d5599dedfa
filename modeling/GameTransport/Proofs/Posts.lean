import GameTransport.Proofs.Mirrors
import GameTransport.Proofs.Rests
import GameTransport.Proofs.Schedules

/-! # What becomes of messages that are posted

The mailbox is a queue: what was accepted is what was taken, then what waits (`Task.Queues`).  What
was taken was encoded, in that order, with one exception at most: a message that ended the
connection (`Task.Settles`).  Packets that are posted are encoded where the task waits, so never amid
the batches that answer one payload (`Task.Apart`), and at that point everything encoded has been
written.  All of it holds whatever order moves come in.

None of this says that a message is ever taken.  That is a matter of the moves that a task makes of its
own accord: they bring it back to where it waits (`Task.exists_rest`), and from there they work off all
that waits for it (`Task.exists_workedOff`).
-/

namespace GameTransport

/-! ## Readings of the log -/

namespace Deed

def accepted? : Deed → Option Message
  | accepted message => some message
  | _ => none

def taken? : Deed → Option Message
  | taken message => some message
  | _ => none

def pushed? : Deed → Option Bytes
  | pushed packet _ => some packet
  | _ => none

end Deed

def Message.packet? : Message → Option Bytes
  | packet octets => some octets
  | disconnect => none

/-- The messages that were accepted, in their order. -/
def acceptedIn (log : List Deed) : List Message := log.filterMap Deed.accepted?

/-- The messages that were taken from the mailbox. -/
def takenIn (log : List Deed) : List Message := log.filterMap Deed.taken?

/-- The packets of messages that were encoded. -/
def pushedIn (log : List Deed) : List Bytes := log.filterMap Deed.pushed?

/-- The packets among messages. -/
def packetsOf (messages : List Message) : List Bytes := messages.filterMap Message.packet?

@[simp] theorem acceptedIn_append (log more : List Deed) :
    acceptedIn (log ++ more) = acceptedIn log ++ acceptedIn more := List.filterMap_append

@[simp] theorem takenIn_append (log more : List Deed) :
    takenIn (log ++ more) = takenIn log ++ takenIn more := List.filterMap_append

@[simp] theorem pushedIn_append (log more : List Deed) :
    pushedIn (log ++ more) = pushedIn log ++ pushedIn more := List.filterMap_append

@[simp] theorem packetsOf_append (messages more : List Message) :
    packetsOf (messages ++ more) = packetsOf messages ++ packetsOf more := List.filterMap_append

/-! ## The mailbox is a queue -/

def Moment.isOver : Moment → Bool
  | ended _ => true
  | _ => false

namespace Task

variable {α : Type} {registries : StateRegistries (Session α)} {z : Zlib.Library} {t t' : Task α}
  {log : List Deed} {deed? : Option Deed}

/-- What was accepted was taken or waits, unless all is over. -/
structure Queues (log : List Deed) (t : Task α) : Prop where
  closed : t.connection.isClosed = t.moment.isOver
  mail : t.moment.isOver = false → acceptedIn log = takenIn log ++ t.connection.mailbox
  order : takenIn log <+: acceptedIn log

theorem isOver_of_writes {c : Connection α} {moment : Moment} (writes : Task.writes ⟨c, moment⟩) :
    moment.isOver = false := by
  cases moment with
  | ended result => cases writes
  | _ => rfl

theorem isClosed_step (step : Step registries z t deed? t')
    (closed : t.connection.isClosed = t.moment.isOver) :
    t'.connection.isClosed = t'.moment.isOver := by
  cases step
  case read => rfl
  case ended => rfl
  case broken c moment count cause writes => exact closed.trans (isOver_of_writes writes)
  all_goals exact closed

/-- Once all is over, nothing changes. -/
theorem eq_of_isOver (step : Step registries z t deed? t')
    (closed : t.connection.isClosed = t.moment.isOver) (gone : t.moment.isOver) :
    deed? = none ∧ t' = t := by
  rw [gone] at closed
  cases step
  case idle => exact ⟨rfl, rfl⟩
  case accepted running room => exact absurd closed (by rw [running]; exact Bool.false_ne_true)
  case elapsed running => exact absurd closed (by rw [running]; exact Bool.false_ne_true)
  case broken writes => exact absurd gone (by rw [isOver_of_writes writes]; exact Bool.false_ne_true)
  all_goals cases gone

/-- The mailbox is a queue as long as the task is under way. -/
theorem mailbox_step (step : Step registries z t deed? t') (going : t'.moment.isOver = false) :
    t.connection.mailbox ++ acceptedIn deed?.toList =
      takenIn deed?.toList ++ t'.connection.mailbox := by
  cases step
  case accepted => rfl
  case taken first => exact (List.append_nil _).trans first
  case called_off first => exact (List.append_nil _).trans first
  case ended => cases going
  all_goals exact List.append_nil _

theorem Queues.start (session : Session α) : Queues [] (start session) :=
  ⟨rfl, fun _ => rfl, List.prefix_rfl⟩

theorem Queues.step (queues : Queues log t) (step : Step registries z t deed? t') :
    Queues (log ++ deed?.toList) t' := by
  obtain ⟨closed, mail, order⟩ := queues
  cases gone : t.moment.isOver with
  | true =>
    obtain ⟨rfl, rfl⟩ := eq_of_isOver step closed gone
    rw [Option.toList_none, List.append_nil]
    exact ⟨closed, mail, order⟩
  | false =>
    cases gone' : t'.moment.isOver with
    | false =>
      have moved : acceptedIn (log ++ deed?.toList) =
          takenIn (log ++ deed?.toList) ++ t'.connection.mailbox := by
        rw [acceptedIn_append, takenIn_append, mail gone, List.append_assoc, List.append_assoc,
          mailbox_step step gone']
      refine ⟨isClosed_step step closed, fun _ => moved, ?_⟩
      rw [moved]
      exact List.prefix_append _ _
    | true =>
      -- The last step of all tells nothing, and drops what waits.
      have silent : deed? = none := by
        cases step
        case accepted running room => exact absurd gone' (by rw [gone]; exact Bool.false_ne_true)
        all_goals first | rfl | cases gone'
      subst silent
      rw [Option.toList_none, List.append_nil]
      refine ⟨isClosed_step step closed, fun going => ?_, order⟩
      rw [gone'] at going
      cases going

end Task

/-! ## What was taken is encoded and written -/

/-- The messages that were taken and not encoded, as far as the moment tells.  Only a fault leaves a
packet behind. -/
def Moment.owes : Moment → List Message → Prop
  | accepted, owed | entering, owed | waiting _, owed | hearing _, owed | acting _, owed
  | writing _, owed => owed = []
  | posting packet _, owed => owed = [.packet packet]
  | closing, owed | ending (.ok ()), owed | leaving (.ok ()), owed | left (.ok ()), owed
  | ended (.ok ()), owed => owed = [] ∨ owed = [.disconnect]
  | ending (.error _), owed | leaving (.error _), owed | left (.error _), owed
  | ended (.error _), owed => owed.length ≤ 1

/-- No more than one message is owed at any moment. -/
theorem Moment.owes.length_le {moment : Moment} {owed : List Message} (owes : moment.owes owed) :
    owed.length ≤ 1 := by
  have last (owed : List Message) (owes : owed = [] ∨ owed = [.disconnect]) : owed.length ≤ 1 := by
    rcases owes with rfl | rfl
    · exact Nat.zero_le 1
    · exact Nat.le_refl 1
  cases moment with
  | posting packet fresh =>
    cases owes
    exact Nat.le_refl 1
  | closing => exact last owed owes
  | ending result | leaving result | left result | ended result =>
    cases result with
    | ok _ => exact last owed owes
    | error fault => exact owes
  | _ =>
    cases owes
    exact Nat.zero_le 1

/-- The moments at which no octet waits to be written. -/
def Moment.isFlushed : Moment → Bool
  | accepted | entering | waiting _ | hearing _ | posting _ _ => true
  | ending (.ok ()) | leaving (.ok ()) | left (.ok ()) | ended (.ok ()) => true
  | acting _ | writing _ | closing => false
  | ending (.error _) | leaving (.error _) | left (.error _) | ended (.error _) => false

namespace Task

variable {α : Type} {registries : StateRegistries (Session α)} {z : Zlib.Library} {t t' : Task α}
  {log : List Deed} {deed? : Option Deed} {done owed : List Message}

/-- What was taken falls into what was encoded and what is owed. -/
structure Settles (log : List Deed) (t : Task α) (done owed : List Message) : Prop where
  taken : takenIn log = done ++ owed
  pushed : pushedIn log = packetsOf done
  packets : .disconnect ∉ done
  owes : t.moment.owes owed
  flushed : t.moment.isFlushed → t.conversation.outgoing = []
  off : .disconnect ∈ owed → t.conversation.outgoing = []

namespace Settles

theorem start (session : Session α) : Settles [] (start session) [] [] :=
  ⟨rfl, rfl, List.not_mem_nil, rfl, fun _ => rfl, fun _ => rfl⟩

/-- A step that neither takes nor encodes what was posted. -/
theorem pass (settles : Settles log t done owed) (taken : takenIn deed?.toList = [])
    (pushed : pushedIn deed?.toList = []) (owes : t'.moment.owes owed)
    (flushed : t'.moment.isFlushed → t'.conversation.outgoing = [])
    (off : .disconnect ∈ owed → t'.conversation.outgoing = []) :
    Settles (log ++ deed?.toList) t' done owed where
  taken := by rw [takenIn_append, taken, List.append_nil, settles.taken]
  pushed := by rw [pushedIn_append, pushed, List.append_nil, settles.pushed]
  packets := settles.packets
  owes := owes
  flushed := flushed
  off := off

theorem step (settles : Settles log t done owed) (step : Step registries z t deed? t') :
    ∃ done owed, Settles (log ++ deed?.toList) t' done owed := by
  have owes := settles.owes
  have flushed := settles.flushed
  have off := settles.off
  cases step
  -- What waits to be written is left alone.
  case idle | accepted | elapsed | opened | entered | read | looked | decoded | batch | moved |
      switched | settled | caught =>
    exact ⟨done, owed, settles.pass rfl rfl owes flushed off⟩
  case heard => exact ⟨done, owed, settles.pass rfl rfl owes nofun off⟩
  case finished => exact ⟨done, owed, settles.pass rfl rfl (.inl owes) flushed off⟩
  case disconnected => exact ⟨done, owed, settles.pass rfl rfl (.inl owes) nofun off⟩
  case detached session result detached =>
    cases result with
    | ok _ => exact ⟨done, owed, settles.pass rfl rfl owes flushed off⟩
    | error fault => exact ⟨done, owed, settles.pass rfl rfl owes nofun off⟩
  case ended result =>
    cases result with
    | ok _ => exact ⟨done, owed, settles.pass rfl rfl owes flushed off⟩
    | error fault => exact ⟨done, owed, settles.pass rfl rfl owes nofun off⟩
  -- Nothing is owed, so no close was posted before.
  case replied =>
    cases owes
    exact ⟨done, [], settles.pass rfl rfl (.inl rfl) nofun nofun⟩
  case sent =>
    cases owes
    exact ⟨done, [], settles.pass rfl rfl rfl nofun nofun⟩
  case lost | spoiled | refused | denied | unsent =>
    cases owes
    exact ⟨done, [], settles.pass rfl rfl (Nat.zero_le 1) nofun nofun⟩
  -- Everything is written.
  case flushed | confirmed =>
    exact ⟨done, owed, settles.pass rfl rfl owes (fun _ => rfl) fun _ => rfl⟩
  case closed => exact ⟨done, owed, settles.pass rfl rfl owes (fun _ => rfl) fun _ => rfl⟩
  case taken packet rest fresh first =>
    cases owes
    refine ⟨done, [.packet packet], ?_, ?_, settles.packets, rfl, flushed, fun _ => flushed rfl⟩
    · rw [takenIn_append, settles.taken, List.append_nil]
      rfl
    · rw [pushedIn_append, settles.pushed]
      exact List.append_nil _
  case called_off rest fresh first =>
    cases owes
    refine ⟨done, [.disconnect], ?_, ?_, settles.packets, .inr rfl, nofun, fun _ => flushed rfl⟩
    · rw [takenIn_append, settles.taken, List.append_nil]
      rfl
    · rw [pushedIn_append, settles.pushed]
      exact List.append_nil _
  case pushed d packet fresh fed =>
    cases owes
    refine ⟨done ++ [.packet packet], [], ?_, ?_, ?_, rfl, nofun, nofun⟩
    · rw [takenIn_append, settles.taken]
      rfl
    · rw [pushedIn_append, settles.pushed, packetsOf_append]
      rfl
    · intro found
      rcases List.mem_append.mp found with earlier | last
      · exact settles.packets earlier
      · cases List.mem_singleton.mp last
  case unpushed d packet fresh fault fed =>
    cases owes
    exact ⟨done, [.packet packet], settles.pass rfl rfl (Nat.le_refl 1) nofun nofun⟩
  case broken c moment count cause writes =>
    have owes : moment.owes owed := owes
    refine ⟨done, owed, settles.pass rfl rfl owes.length_le nofun fun close => ?_⟩
    change c.conversation.outgoing.drop count = []
    rw [show c.conversation.outgoing = [] from off close, List.drop_nil]

end Settles

end Task

/-! ## Batches are not broken into -/

/-- A payload was decoded after every packet that was posted and encoded. -/
def Refreshed (log : List Deed) : Prop :=
  ∀ before after packet octets, log = before ++ .pushed packet octets :: after →
    ∃ payload, .decoded payload ∈ after

/-- Between a packet that was posted and a later packet of a batch, the payload was decoded that the
batch answers. -/
def Unmixed (log : List Deed) : Prop :=
  ∀ before between after packet octets packet' octets',
    log = before ++ .pushed packet octets :: (between ++ .sent packet' octets' :: after) →
      ∃ payload, .decoded payload ∈ between

section Concat

variable {log : List Deed} {deed : Deed}

/-- What stands before the last deed, if there is more than one. -/
theorem eq_of_concat_eq {before after : List Deed} {last : Deed}
    (whole : log ++ [deed] = before ++ last :: after) :
    (after = [] ∧ last = deed ∧ log = before) ∨
      ∃ middle, after = middle ++ [deed] ∧ log = before ++ last :: middle := by
  rcases List.eq_nil_or_concat after with rfl | ⟨middle, other, rfl⟩
  · obtain ⟨rfl, same⟩ := List.append_inj' whole rfl
    exact .inl ⟨rfl, (List.cons.inj same).1.symm, rfl⟩
  · rw [List.concat_eq_append, ← List.cons_append, ← List.append_assoc] at whole
    obtain ⟨rfl, same⟩ := List.append_inj' whole rfl
    cases same
    exact .inr ⟨middle, List.concat_eq_append, rfl⟩

theorem Refreshed.concat (refreshed : Refreshed log)
    (other : ∀ packet octets, deed ≠ .pushed packet octets) : Refreshed (log ++ [deed]) := by
  intro before after packet octets whole
  rcases eq_of_concat_eq whole with ⟨-, last, -⟩ | ⟨middle, rfl, whole'⟩
  · exact absurd last.symm (other packet octets)
  · obtain ⟨payload, found⟩ := refreshed before middle packet octets whole'
    exact ⟨payload, List.mem_append_left _ found⟩

theorem Refreshed.decoded (log : List Deed) (payload : Bytes) :
    Refreshed (log ++ [.decoded payload]) := by
  intro before after packet octets whole
  rcases eq_of_concat_eq whole with ⟨-, last, -⟩ | ⟨middle, rfl, -⟩
  · cases last
  · exact ⟨payload, List.mem_append_right _ (List.mem_singleton.mpr rfl)⟩

theorem Unmixed.concat (unmixed : Unmixed log)
    (fresh : ∀ packet octets, deed = .sent packet octets → Refreshed log) :
    Unmixed (log ++ [deed]) := by
  intro before between after packet octets packet' octets' whole
  rw [← List.cons_append, ← List.append_assoc] at whole
  rcases eq_of_concat_eq whole with ⟨-, last, rfl⟩ | ⟨middle, rfl, whole'⟩
  · exact fresh packet' octets' last.symm before between packet octets rfl
  · rw [List.append_assoc, List.cons_append] at whole'
    exact unmixed before between middle packet octets packet' octets' whole'

end Concat

/-- The moments of a batch. -/
def Moment.isBatch : Moment → Bool
  | hearing _ | acting _ => true
  | _ => false

namespace Task

variable {α : Type} {registries : StateRegistries (Session α)} {z : Zlib.Library} {t t' : Task α}
  {log : List Deed} {deed? : Option Deed}

/-- No packet that was posted is encoded amid a batch. -/
structure Apart (log : List Deed) (t : Task α) : Prop where
  unmixed : Unmixed log
  refreshed : t.moment.isBatch → Refreshed log

namespace Apart

theorem start (session : Session α) : Apart [] (start session) where
  unmixed := by
    intro before between after packet octets packet' octets' whole
    simp at whole
  refreshed := nofun

theorem concat {deed : Deed} (apart : Apart log t)
    (sent : ∀ packet octets, deed = .sent packet octets → t.moment.isBatch)
    (refreshed : t'.moment.isBatch → Refreshed (log ++ [deed])) : Apart (log ++ [deed]) t' where
  unmixed := apart.unmixed.concat fun packet octets same => apart.refreshed (sent packet octets same)
  refreshed := refreshed

theorem pass (apart : Apart log t) (batch : t'.moment.isBatch → t.moment.isBatch) :
    Apart (log ++ []) t' where
  unmixed := by
    rw [List.append_nil]
    exact apart.unmixed
  refreshed := by
    rw [List.append_nil]
    exact fun amid => apart.refreshed (batch amid)

theorem step (apart : Apart log t) (step : Step registries z t deed? t') :
    Apart (log ++ deed?.toList) t' := by
  cases step
  case idle | elapsed | batch | switched => exact apart.pass id
  case opened | read | finished | lost | looked | flushed | disconnected | denied | unsent | unpushed |
      closed | broken | settled | ended => exact apart.pass nofun
  case decoded => exact apart.concat nofun fun _ => Refreshed.decoded _ _
  case sent => exact apart.concat (fun _ _ _ => rfl) fun _ => (apart.refreshed rfl).concat nofun
  case heard | moved => exact apart.concat nofun fun _ => (apart.refreshed rfl).concat nofun
  case accepted => exact apart.concat nofun fun amid => (apart.refreshed amid).concat nofun
  all_goals exact apart.concat nofun nofun

end Apart

end Task

/-! ## What waits is worked off -/

namespace Conversation

variable {α : Type} {z : Zlib.Library} {c d : Conversation α} {packet : Bytes} {fault : Fault}

/-- A packet that is pushed is written, and the layers stay on. -/
theorem of_push_ok (pushed : c.push z packet = .ok () d) :
    d.outgoing = [] ∧ d.codec.compression = c.codec.compression := by
  rw [push] at pushed
  rcases fed : c.feed z packet with ⟨_, e⟩ | ⟨fault, e⟩ <;> rw [fed] at pushed <;> cases pushed
  have same : e.codec.compression = c.codec.compression :=
    Codec.compression_encode (encode_of_feed_ok fed)
  exact ⟨rfl, same⟩

/-- A packet that cannot be pushed is one that cannot be framed. -/
theorem of_push_error (empty : c.outgoing = []) (pushed : c.push z packet = .error fault d) :
    c.codec.frame z packet = .error fault ∧ d.outgoing = [] := by
  rw [push] at pushed
  rcases fed : c.feed z packet with ⟨_, e⟩ | ⟨fault, e⟩ <;> rw [fed] at pushed <;> cases pushed
  exact ⟨Codec.frame_of_encode_eq_error (encode_of_feed_error fed), outgoing_of_feed_error empty fed⟩

end Conversation

namespace Task

variable {α : Type} {registries : StateRegistries (Session α)} {z : Zlib.Library} {t : Task α}

/-- What becomes of the messages that wait for a task: these packets are encoded, and the task comes to
this moment. -/
inductive WorkedOff (z : Zlib.Library) (codec : Codec) (fresh : Bool) :
    List Message → List Bytes → Moment → Prop where
  /-- All packets are encoded, and it waits as before. -/
  | all {messages : List Message} (lasts : .disconnect ∉ messages) :
      WorkedOff z codec fresh messages (packetsOf messages) (.waiting fresh)
  /-- Those before the first close are. -/
  | closed {before after : List Message} (lasts : .disconnect ∉ before) :
      WorkedOff z codec fresh (before ++ .disconnect :: after) (packetsOf before) (.ended (.ok ()))
  /-- Those before one that does not fit a frame are. -/
  | refused {before after : List Message} {packet : Bytes} {fault : Fault}
      (lasts : .disconnect ∉ before) (unframed : codec.frame z packet = .error fault) :
      WorkedOff z codec fresh (before ++ .packet packet :: after) (packetsOf before)
        (.ended (.error fault))

namespace WorkedOff

variable {codec codec' : Codec} {fresh : Bool} {messages : List Message} {packets : List Bytes}
  {moment : Moment}

/-- A packet that was encoded stands before what is encoded after it.  It leaves the compression as it
was, so that what does not fit a frame afterwards did not fit one before. -/
theorem cons (packet : Bytes) (same : codec'.compression = codec.compression)
    (rest : WorkedOff z codec' fresh messages packets moment) :
    WorkedOff z codec fresh (.packet packet :: messages) (packet :: packets) moment := by
  have other {before : List Message} (lasts : .disconnect ∉ before) :
      .disconnect ∉ .packet packet :: before := List.not_mem_cons_of_ne_of_not_mem nofun lasts
  cases rest with
  | all lasts => exact .all (other lasts)
  | closed lasts => exact .closed (other lasts)
  | refused lasts unframed =>
    rw [Codec.frame_congr same] at unframed
    exact .refused (other lasts) unframed

end WorkedOff

/-- Of the end of a connection nothing is told that was encoded. -/
theorem pushedIn_of_called {log : List Deed}
    (called : ∀ deed ∈ log, ∃ before after, deed = .called before after) : pushedIn log = [] := by
  refine List.filterMap_eq_nil_iff.mpr fun deed found => ?_
  obtain ⟨before, after, rfl⟩ := called deed found
  rfl

theorem outgoing_close (c : Connection α) (result : Except Fault Unit) (d : Conversation α) :
    (c.close registries result d).conversation.outgoing = d.outgoing := by
  rcases result with fault | ⟨⟨⟩⟩
  · change (d.caught registries fault).outgoing = d.outgoing
    rw [caught_eq]
  · rfl

/-- **A task that waits works off what waits for it.** -/
theorem exists_workedOff (fresh : Bool) {c : Connection α} (serving : c.phase = .serving)
    (flushed : c.conversation.outgoing = []) :
    ∃ log t', Works registries z ⟨c, .waiting fresh⟩ log t' ∧
      WorkedOff z c.conversation.codec fresh c.mailbox (pushedIn log) t'.moment ∧
      t'.connection.mailbox = [] ∧ t'.conversation.outgoing = [] := by
  obtain ⟨conversation, readTimeout, phase, buffer, mailbox, silence, notes⟩ := c
  cases serving
  induction mailbox generalizing conversation with
  | nil => exact ⟨[], _, .refl _, .all List.not_mem_nil, rfl, flushed⟩
  | cons message rest ih =>
    have first := @works_delivered α registries z
      ⟨conversation, readTimeout, .serving, buffer, [], silence, notes⟩ rfl fresh message rest
    have ends (result : Except Fault Unit) (d : Conversation α) := @exists_works_close α registries z
      ⟨conversation, readTimeout, .serving, buffer, rest, silence, notes⟩ result d
    cases message with
    | disconnect =>
      obtain ⟨log, last, called⟩ := ends (.ok ()) conversation.flush
      refine ⟨_, _, first.trans last, ?_, Connection.mailbox_close, outgoing_close _ _ _⟩
      rw [pushedIn_append, pushedIn_of_called called]
      exact .closed List.not_mem_nil
    | packet packet =>
      rw [delivered, toldOfDelivery, toldOfPush] at first
      dsimp only at first
      rcases pushed : conversation.push z packet with ⟨_, d⟩ | ⟨fault, d⟩ <;> rw [pushed] at first
      · obtain ⟨empty, same⟩ := Conversation.of_push_ok pushed
        obtain ⟨log, t', later, worked, emptied⟩ := ih d empty
        refine ⟨_, t', first.trans later, ?_, emptied⟩
        rw [pushedIn_append]
        exact worked.cons packet same
      · obtain ⟨unframed, empty⟩ := Conversation.of_push_error flushed pushed
        obtain ⟨log, last, called⟩ := ends (.error fault) d
        refine ⟨_, _, first.trans last, ?_, Connection.mailbox_close,
          (outgoing_close _ _ _).trans empty⟩
        rw [pushedIn_append, pushedIn_of_called called]
        exact .refused List.not_mem_nil unframed

/-! ## Whatever the schedule -/

/-- What the log and the task have in common at all times. -/
structure Keeps (z : Zlib.Library) (log : List Deed) (t : Task α) : Prop where
  queues : Queues log t
  settles : ∃ done owed, Settles log t done owed
  apart : Apart log t
  wire : t.onWire = log.flatMap Deed.octets
  framed : Framed z log

theorem keeps_run (registries : StateRegistries (Session α)) (z : Zlib.Library) (session : Session α)
    (moves : List Move) :
    Keeps z ((start session).log registries z moves) ((start session).run registries z moves) := by
  have first : Keeps z [] (start session) :=
    ⟨.start session, ⟨[], [], .start session⟩, .start session, rfl, fun _ _ => by simp⟩
  refine start_induction session (fun log t deed? t' keeps step => ?_) first moves
  obtain ⟨done, owed, settles⟩ := keeps.settles
  refine ⟨keeps.queues.step step, settles.step step, keeps.apart.step step, ?_,
    framed_step keeps.framed step⟩
  rw [onWire_step step, keeps.wire, List.flatMap_append]

theorem run_of_isOver (closed : t.connection.isClosed = t.moment.isOver) (gone : t.moment.isOver)
    (moves : List Move) : t.run registries z moves = t := by
  induction moves with
  | nil => rfl
  | cons move rest ih =>
    have step : Step registries z t _ (t.step registries z move) := step_turn t move
    rw [run, List.foldl_cons, (eq_of_isOver step closed gone).2]
    exact ih

theorem isOk_post {c : Connection α} (message : Message) :
    (c.post message).isOk ↔ c.isClosed = false ∧ c.mailbox.length < Connection.mailboxSize := by
  rw [Connection.post]
  by_cases refused : (c.isClosed || Connection.mailboxSize ≤ c.mailbox.length) = true
  · rw [if_pos refused]
    refine iff_of_false Bool.false_ne_true fun within => ?_
    obtain ⟨running, room⟩ := within
    rw [running, Bool.false_or, decide_eq_true_eq] at refused
    exact Nat.not_lt.mpr refused room
  · rw [if_neg refused]
    simp only [Bool.or_eq_true, decide_eq_true_eq, not_or, Bool.not_eq_true, Nat.not_le] at refused
    exact iff_of_true rfl refused

theorem told_post (t : Task α) (message : Message) :
    (t.turn registries z (.post message)).1 =
      if (t.connection.post message).isOk then some (.accepted message) else none := by
  change (t.post message).1 = _
  rw [post]
  rcases t.connection.post message with fault | connection <;> rfl

/-- What is promised to those who post messages, in terms of the log and the task after it. -/
structure InOrder (registries : StateRegistries (Session α)) (z : Zlib.Library) (log : List Deed)
    (t : Task α) : Prop where
  /-- A message is accepted as long as the connection has not closed and fewer than 256 wait. -/
  accepts : ∀ message, (t.connection.post message).isOk ↔
    t.connection.isClosed = false ∧ (acceptedIn log).length < (takenIn log).length + 256
  /-- Who posts is told no less and no more than the log. -/
  told : ∀ message, (t.turn registries z (.post message)).1 =
    if (t.connection.post message).isOk then some (.accepted message) else none
  /-- What was accepted was taken or waits. -/
  waits : t.connection.isClosed = false → acceptedIn log = takenIn log ++ t.connection.mailbox
  taken : takenIn log <+: acceptedIn log
  /-- Packets are encoded in the order of acceptance, once each. -/
  pushed : pushedIn log <+: packetsOf (acceptedIn log)
  /-- What is written consists of the frames that the log tells of. -/
  wire : t.conversation.written ++ t.conversation.outgoing = log.flatMap Deed.octets
  framed : Framed z log
  /-- No packet that was posted stands amid a batch. -/
  unmixed : Unmixed log
  /-- Nothing is left behind where the task waits. -/
  settled : ∀ fresh, t.moment = .waiting fresh →
    pushedIn log = packetsOf (takenIn log) ∧ t.conversation.outgoing = []
  /-- Left to itself, the task comes back to where it waits, or has ended. -/
  returns : ∃ count, (t.run registries z (List.replicate count .proceed)).moment.isAtRest
  /-- From where it waits, moves of its own take all that waits for it: packet after packet is encoded and
  written, up to a close or to a packet that does not fit a frame. -/
  emptied : ∀ fresh, t.moment = .waiting fresh → t.connection.phase = .serving →
    ∃ more t', Works registries z t more t' ∧
      WorkedOff z t.conversation.codec fresh t.connection.mailbox (pushedIn more) t'.moment ∧
      t'.connection.mailbox = [] ∧ t'.conversation.outgoing = [] ∧
      t'.conversation.written = t.conversation.written ++ more.flatMap Deed.octets
  /-- A close that was posted comes after what was posted before, and after nothing else. -/
  closes : .disconnect ∈ takenIn log → ∃ before after, .disconnect ∉ before ∧
    acceptedIn log = before ++ .disconnect :: after ∧ pushedIn log = packetsOf before ∧
      t.conversation.outgoing = []
  /-- A connection that has closed stays as it is. -/
  rests : t.connection.isClosed → ∀ more, t.run registries z more = t

/-- **Packets that are posted are neither lost, doubled nor reordered**, whatever the order in which
a connection is served and others post to it. -/
theorem posts_in_order (registries : StateRegistries (Session α)) (z : Zlib.Library)
    (session : Session α) (moves : List Move) :
    InOrder registries z ((start session).log registries z moves)
      ((start session).run registries z moves) := by
  obtain ⟨⟨closed, mail, order⟩, ⟨done, owed, settles⟩, apart, wire, framed⟩ :=
    keeps_run registries z session moves
  generalize (start session).log registries z moves = log at *
  generalize (start session).run registries z moves = t at *
  have waits : t.connection.isClosed = false →
      acceptedIn log = takenIn log ++ t.connection.mailbox := fun running => mail (closed ▸ running)
  have encoded : packetsOf done <+: packetsOf (takenIn log) := by
    rw [settles.taken, packetsOf_append]
    exact List.prefix_append _ _
  refine
    { accepts := fun message => ?_, told := told_post t, waits, taken := order, pushed := ?_, wire, framed
      unmixed := apart.unmixed, settled := ?_, returns := exists_rest registries z t
      emptied := ?_, closes := ?_, rests := ?_ }
  · rw [isOk_post]
    refine and_congr_right fun running => ?_
    rw [waits running, List.length_append, Connection.mailboxSize]
    omega
  · rw [settles.pushed]
    exact encoded.trans (order.filterMap Message.packet?)
  · intro fresh waiting
    have nothing : owed = [] := by
      have owes := settles.owes
      rwa [waiting] at owes
    refine ⟨?_, settles.flushed (by rw [waiting]; rfl)⟩
    rw [settles.pushed, settles.taken, nothing, List.append_nil]
  · intro fresh waiting serving
    have flushed : t.conversation.outgoing = [] := settles.flushed (by rw [waiting]; rfl)
    obtain ⟨c, moment⟩ := t
    cases waiting
    obtain ⟨more, t', works, worked, empty, flushed'⟩ := exists_workedOff fresh serving flushed
    exact ⟨more, t', works, worked, empty, flushed', works.written flushed flushed'⟩
  · intro close
    rw [settles.taken] at close order
    have last : .disconnect ∈ owed := (List.mem_append.mp close).resolve_left settles.packets
    obtain ⟨message, rfl⟩ := List.length_eq_one_iff.mp
      (Nat.le_antisymm settles.owes.length_le (List.length_pos_of_mem last))
    cases List.mem_singleton.mp last
    obtain ⟨after, whole⟩ := order
    refine ⟨done, after, settles.packets, ?_, settles.pushed, settles.off last⟩
    rw [← whole, List.append_assoc]
    rfl
  · intro shut more
    exact run_of_isOver closed (closed ▸ shut) more

end Task

end GameTransport
