import GameTransport.Proofs.Tasks
import GameTransport.Proofs.Reads

/-! # Events as schedules

The connection that works each event off at once is one of the schedules of its task: after every
course of events there is a list of moves that brings the task to the same connection
(`Task.exists_stands_run`).  A task at rest waits, and has looked at its buffer; one that is over keeps
octets in the buffer that nobody looks at any more.

Some of these moves a task makes of its own accord: it takes a message, and it goes on.  Of those it is
said what is told of them, too (`Task.Works`).
-/

namespace GameTransport

/-- The moves that a task makes of its own accord. -/
def Move.isOwn : Move → Bool
  | deliver | proceed => true
  | post _ | elapse _ | receive _ | finish | cut _ _ | expire => false

namespace Task

variable {α : Type} {registries : StateRegistries (Session α)} {z : Zlib.Library}

/-! ## Moves that lead somewhere -/

/-- Some moves lead from one task to another. -/
def Reaches (registries : StateRegistries (Session α)) (z : Zlib.Library) (t t' : Task α) : Prop :=
  ∃ moves, t.run registries z moves = t'

namespace Reaches

variable {t t' t'' : Task α}

theorem refl (t : Task α) : Reaches registries z t t := ⟨[], rfl⟩

theorem trans (first : Reaches registries z t t') (second : Reaches registries z t' t'') :
    Reaches registries z t t'' := by
  obtain ⟨moves, rfl⟩ := first
  obtain ⟨more, rfl⟩ := second
  exact ⟨moves ++ more, List.foldl_append⟩

theorem move (move : Move) (made : t.step registries z move = t') : Reaches registries z t t' :=
  ⟨[move], made⟩

theorem proceed (made : (t.proceed registries z).2 = t') : Reaches registries z t t' :=
  move .proceed made

end Reaches

/-- What is told of a longer list of moves goes on from what was told of a shorter one. -/
theorem log_append (t : Task α) (moves more : List Move) :
    t.log registries z (moves ++ more) =
      t.log registries z moves ++ (t.run registries z moves).log registries z more := by
  induction moves generalizing t with
  | nil => rfl
  | cons move rest ih =>
    rw [List.cons_append, log, log, ih, List.append_assoc]
    rfl

/-- Moves of its own lead from one task to another, and this is told of them. -/
def Works (registries : StateRegistries (Session α)) (z : Zlib.Library) (t : Task α)
    (log : List Deed) (t' : Task α) : Prop :=
  ∃ moves : List Move, (∀ move ∈ moves, move.isOwn) ∧ t.run registries z moves = t' ∧
    t.log registries z moves = log

namespace Works

variable {t t' t'' : Task α} {log more : List Deed} {deed? : Option Deed}

theorem refl (t : Task α) : Works registries z t [] t := ⟨[], nofun, rfl, rfl⟩

theorem trans (first : Works registries z t log t') (second : Works registries z t' more t'') :
    Works registries z t (log ++ more) t'' := by
  obtain ⟨moves, own, rfl, rfl⟩ := first
  obtain ⟨rest, own', rfl, rfl⟩ := second
  exact ⟨moves ++ rest, List.forall_mem_append.mpr ⟨own, own'⟩, List.foldl_append,
    log_append t moves rest⟩

theorem move (move : Move) (own : move.isOwn) (made : t.turn registries z move = (deed?, t')) :
    Works registries z t deed?.toList t' := by
  refine ⟨[move], List.forall_mem_singleton.mpr own, congrArg Prod.snd made, ?_⟩
  rw [Task.log, Task.log, made, List.append_nil]

theorem proceed (made : t.proceed registries z = (deed?, t')) :
    Works registries z t deed?.toList t' :=
  move .proceed rfl made

theorem reaches (works : Works registries z t log t') : Reaches registries z t t' := by
  obtain ⟨moves, -, there, -⟩ := works
  exact ⟨moves, there⟩

/-- What was told of is written, if nothing was left before and nothing is left after. -/
theorem written (works : Works registries z t log t') (before : t.conversation.outgoing = [])
    (after : t'.conversation.outgoing = []) :
    t'.conversation.written = t.conversation.written ++ log.flatMap Deed.octets := by
  obtain ⟨moves, -, rfl, rfl⟩ := works
  have wire := @onWire_run α registries z t moves
  rwa [onWire, onWire, before, after, List.append_nil, List.append_nil] at wire

end Works

/-- What the work on batches leads to. -/
def arrived (c : Connection α) (goesOn : Conversation α → Task α) :
    EStateM.Result Fault (Conversation α) Bool → Task α
  | .ok true d => goesOn d
  | .ok false d => ⟨{ c with conversation := d }, .closing⟩
  | .error fault d => ⟨{ c with conversation := d }, .ending (.error fault)⟩

/-- The next action of a batch is carried out. -/
theorem reaches_act (c : Connection α) (action : Action) (rest : List Action) :
    Reaches registries z ⟨c, .acting (action :: rest)⟩
      (arrived c (fun d => ⟨{ c with conversation := d }, .acting rest⟩)
        (c.conversation.perform z registries action)) := by
  refine .proceed ?_
  change (Task.act registries z (action :: rest) _).2 = _
  rw [Task.act, conversation_mk]
  rcases c.conversation.perform z registries action with ⟨_ | _, d⟩ | ⟨fault, d⟩ <;> rfl

/-- The next batch is taken. -/
theorem reaches_batch {c : Connection α} (pending : c.conversation.session.hasPendingActions) :
    Reaches registries z ⟨c, .acting []⟩
      ⟨{ c with conversation := c.conversation.takeBatch.2 },
        .acting c.conversation.takeBatch.1⟩ := by
  refine .proceed ?_
  change (Task.act registries z [] _).2 = _
  rw [Task.act, conversation_mk, if_pos pending]
  rfl

/-- All batches are done, and what they encoded is written. -/
theorem reaches_flush {c : Connection α} (idle : ¬ c.conversation.session.hasPendingActions) :
    Reaches registries z ⟨c, .acting []⟩
      ⟨{ c with conversation := c.conversation.flush }, .waiting true⟩ := by
  refine .proceed ?_
  change (Task.act registries z [] _).2 = _
  rw [Task.act, conversation_mk, if_neg idle]
  rfl

theorem reaches_performAll (c : Connection α) (batch : List Action) (d : Conversation α) :
    Reaches registries z ⟨{ c with conversation := d }, .acting batch⟩
      (arrived c (fun e => ⟨{ c with conversation := e }, .acting []⟩)
        (d.performAll z registries batch)) := by
  induction batch generalizing d with
  | nil => exact .refl _
  | cons action rest ih =>
    have first := @reaches_act α registries z { c with conversation := d } action rest
    rw [Conversation.performAll]
    rcases performed : d.perform z registries action with ⟨_ | _, e⟩ | ⟨fault, e⟩ <;>
      rw [performed] at first
    · exact first
    · exact first.trans (ih e)
    · exact first

theorem reaches_carryOut (c : Connection α) (d : Conversation α) :
    Reaches registries z ⟨{ c with conversation := d }, .acting []⟩
      (arrived c (fun e => ⟨{ c with conversation := e.flush }, .waiting true⟩)
        (d.carryOut z registries)) := by
  fun_induction Conversation.carryOut z registries d with
  | case1 d pending e performed ih =>
    have batch := @reaches_performAll α registries z c d.takeBatch.1 d.takeBatch.2
    rw [performed] at batch
    exact (reaches_batch (c := { c with conversation := d }) pending).trans (batch.trans ih)
  | case2 d pending e performed =>
    have batch := @reaches_performAll α registries z c d.takeBatch.1 d.takeBatch.2
    rw [performed] at batch
    exact (reaches_batch (c := { c with conversation := d }) pending).trans batch
  | case3 d pending fault e performed =>
    have batch := @reaches_performAll α registries z c d.takeBatch.1 d.takeBatch.2
    rw [performed] at batch
    exact (reaches_batch (c := { c with conversation := d }) pending).trans batch
  | case4 d idle => exact reaches_flush (c := { c with conversation := d }) idle

/-- What the answer to a payload leads to. -/
def answered (c : Connection α) : EStateM.Result Fault (Conversation α) Bool → Task α
  | .ok true d => ⟨{ c with conversation := d }, .waiting true⟩
  | .ok false d => ⟨{ c with conversation := d }, .ending (.ok ())⟩
  | .error fault d => ⟨{ c with conversation := d }, .ending (.error fault)⟩

/-- A payload that was decoded is answered. -/
theorem reaches_answer (c : Connection α) (payload : Bytes) (d : Conversation α) :
    Reaches registries z ⟨{ c with conversation := d.count Metrics.received }, .hearing payload⟩
      (answered c (d.answer z registries payload)) := by
  rw [Conversation.answer]
  rcases dispatched : Conversation.dispatch registries payload (d.count Metrics.received) with
    ⟨outcome, e⟩ | ⟨fault, e⟩
  · have heard : Reaches registries z
        ⟨{ c with conversation := d.count Metrics.received }, .hearing payload⟩
        ⟨{ c with conversation := e }, .acting []⟩ := by
      refine .proceed ?_
      change (Task.hear registries payload _).2 = _
      rw [hear, conversation_mk, dispatched]
      rfl
    have carried := @reaches_carryOut α registries z c e
    dsimp only
    rcases out : e.carryOut z registries with ⟨_ | _, f⟩ | ⟨fault, f⟩ <;> rw [out] at carried
    · exact heard.trans (carried.trans (.proceed rfl))
    · exact heard.trans carried
    · exact heard.trans carried
  · refine .proceed ?_
    change (Task.hear registries payload _).2 = _
    rw [hear, conversation_mk, dispatched]
    rfl

/-- The end runs its course, and nothing is told of it but what callbacks found. -/
theorem exists_works_close (c : Connection α) (result : Except Fault Unit) (d : Conversation α) :
    ∃ log, Works registries z ⟨{ c with conversation := d }, .ending result⟩ log
        ⟨c.close registries result d, .ended result⟩ ∧
      ∀ deed ∈ log, ∃ before after, deed = .called before after := by
  refine ⟨_, ⟨[.proceed, .proceed, .proceed], by decide, ?_, rfl⟩, ?_⟩
  · rcases result with fault | ⟨⟨⟩⟩ <;> rfl
  · rcases result with fault | ⟨⟨⟩⟩
    · exact List.forall_mem_cons.mpr
        ⟨⟨_, _, rfl⟩, List.forall_mem_singleton.mpr ⟨_, _, rfl⟩⟩
    · exact List.forall_mem_singleton.mpr ⟨_, _, rfl⟩

/-- What the work on a buffer leads to. -/
def Drained (c : Connection α) (t : Task α) :
    EStateM.Result Fault (Conversation α) (Option Bytes) → Prop
  | .ok (some buffer) d => t = ⟨{ c with conversation := d, buffer }, .waiting false⟩
  | .ok none d => ∃ buffer, t = ⟨{ c with conversation := d, buffer }, .ending (.ok ())⟩
  | .error fault d => ∃ buffer, t = ⟨{ c with conversation := d, buffer }, .ending (.error fault)⟩

/-- A payload is taken off the buffer and answered. -/
theorem reaches_answered {c : Connection α} {d : Conversation α} {buffer payload : Bytes}
    {inlet : Codec.Inlet} (decoded : Codec.decode z ⟨d.codec, buffer⟩ = .ok (some payload) inlet) :
    Reaches registries z ⟨{ c with conversation := d, buffer }, .waiting true⟩
      (answered { c with buffer := inlet.buffer }
        (Conversation.answer z registries payload { d with codec := inlet.codec })) := by
  refine .trans (.proceed ?_)
    (reaches_answer { c with buffer := inlet.buffer } payload { d with codec := inlet.codec })
  change (Task.look z _).2 = _
  rw [look, conversation_mk, decoded]

theorem exists_drained (c : Connection α) (buffer : Bytes) (d : Conversation α) :
    ∃ t, Reaches registries z ⟨{ c with conversation := d, buffer }, .waiting true⟩ t ∧
      Drained c t (d.drain z registries buffer) := by
  fun_induction Conversation.drain z registries buffer d with
  | case1 buffer d fault inlet failed =>
    refine ⟨_, .proceed rfl, buffer, ?_⟩
    change (Task.look z _).2 = _
    rw [look, conversation_mk, failed]
    rfl
  | case2 buffer d inlet idle =>
    refine ⟨_, .proceed rfl, ?_⟩
    change (Task.look z _).2 = _
    rw [look, conversation_mk, idle]
  | case3 buffer d payload inlet decoded e came ih =>
    have first := @reaches_answered α registries z c d buffer payload inlet decoded
    rw [came] at first
    obtain ⟨t, rest, drained⟩ := ih
    exact ⟨t, first.trans rest, drained⟩
  | case4 buffer d payload inlet decoded e came =>
    have first := @reaches_answered α registries z c d buffer payload inlet decoded
    rw [came] at first
    exact ⟨_, first, inlet.buffer, rfl⟩
  | case5 buffer d payload inlet decoded fault e came =>
    have first := @reaches_answered α registries z c d buffer payload inlet decoded
    rw [came] at first
    exact ⟨_, first, inlet.buffer, rfl⟩

/-- What the first message leads to. -/
def delivered (c : Connection α) (fresh : Bool) : Message → Task α
  | .packet packet =>
    match c.conversation.push z packet with
    | .ok () d => ⟨{ c with conversation := d }, .waiting fresh⟩
    | .error fault d => ⟨{ c with conversation := d }, .ending (.error fault)⟩
  | .disconnect => ⟨{ c with conversation := c.conversation.flush }, .ending (.ok ())⟩

/-- What is told of a packet that was taken. -/
def toldOfPush (z : Zlib.Library) (c : Conversation α) (packet : Bytes) : List Deed :=
  match c.push z packet with
  | .ok () _ => [.pushed packet (Codec.octets z packet c.codec), .confirmed]
  | .error _ _ => []

/-- A packet that was taken is encoded and written. -/
theorem works_encoded (c : Connection α) (packet : Bytes) (fresh : Bool) :
    Works registries z ⟨c, .posting packet fresh⟩ (toldOfPush z c.conversation packet)
      (delivered (z := z) c fresh (.packet packet)) := by
  have encoded : Works registries z ⟨c, .posting packet fresh⟩
      (Task.encode z packet fresh ⟨c, .posting packet fresh⟩).1.toList
      (Task.encode z packet fresh ⟨c, .posting packet fresh⟩).2 := .proceed rfl
  rw [Task.encode, conversation_mk] at encoded
  rw [toldOfPush, delivered, Conversation.push]
  rcases fed : c.conversation.feed z packet with ⟨_, d⟩ | ⟨fault, d⟩ <;> rw [fed] at encoded
  · exact encoded.trans (.proceed rfl)
  · exact encoded

/-- What is told of the first message. -/
def toldOfDelivery (z : Zlib.Library) (c : Conversation α) : Message → List Deed
  | .packet packet => .taken (.packet packet) :: toldOfPush z c packet
  | .disconnect => [.taken .disconnect]

/-- The first message is taken and delivered. -/
theorem works_delivered {c : Connection α} (serving : c.phase = .serving) (fresh : Bool)
    (message : Message) (rest : List Message) :
    Works registries z ⟨{ c with mailbox := message :: rest }, .waiting fresh⟩
      (toldOfDelivery z c.conversation message)
      (delivered (z := z) { c with mailbox := rest } fresh message) := by
  obtain ⟨conversation, readTimeout, phase, buffer, mailbox, silence, notes⟩ := c
  cases serving
  cases message with
  | disconnect => exact ⟨[.deliver, .proceed], by decide, rfl, rfl⟩
  | packet packet =>
    exact .trans (.move .deliver rfl rfl) (works_encoded
      ⟨conversation, readTimeout, .serving, buffer, rest, silence, notes⟩ packet fresh)

/-! ## Events -/

/-- The task has come to where the connection is. -/
def Stands (c : Connection α) (t : Task α) : Prop :=
  match c.phase with
  | .opening => t = ⟨c, .waiting false⟩ ∧ c.conversation.outgoing = []
  | .serving => t = ⟨c, .waiting false⟩
  | .closed result => ∃ buffer, t = ⟨{ c with buffer }, .ended result⟩

/-- A task that has moves left to where the connection is. -/
def Follows (registries : StateRegistries (Session α)) (z : Zlib.Library) (t : Task α)
    (c : Connection α) : Prop :=
  ∃ t', Reaches registries z t t' ∧ Stands c t'

namespace Follows

variable {c : Connection α} {d : Conversation α} {t t' : Task α} {result : Except Fault Unit}

theorem of_reaches (first : Reaches registries z t t') (follows : Follows registries z t' c) :
    Follows registries z t c := by
  obtain ⟨t'', second, stands⟩ := follows
  exact ⟨t'', first.trans second, stands⟩

theorem close (c : Connection α) (result : Except Fault Unit) (d : Conversation α) (buffer : Bytes) :
    Follows registries z ⟨{ c with conversation := d, buffer }, .ending result⟩
      (c.close registries result d) := by
  obtain ⟨log, works, -⟩ := @exists_works_close α registries z { c with buffer } result d
  refine ⟨_, works.reaches, ?_⟩
  rcases result with fault | ⟨⟨⟩⟩ <;> exact ⟨buffer, rfl⟩

theorem drain (serving : c.phase = .serving) :
    Follows registries z ⟨c, .waiting true⟩ (c.drain registries z) := by
  obtain ⟨t, reaches, drained⟩ := @exists_drained α registries z c c.buffer c.conversation
  refine of_reaches reaches ?_
  rw [Connection.drain]
  rcases out : c.conversation.drain z registries c.buffer with ⟨_ | rest, d⟩ | ⟨fault, d⟩ <;>
    rw [out] at drained
  · obtain ⟨buffer, rfl⟩ := drained
    exact close c (.ok ()) d buffer
  · subst drained
    refine ⟨_, .refl _, ?_⟩
    rw [Stands]
    dsimp only
    rw [serving]
  · obtain ⟨buffer, rfl⟩ := drained
    exact close c (.error fault) d buffer

/-- A connection that has closed delivers nothing. -/
theorem deliverAll_close (c : Connection α) (result : Except Fault Unit) (d : Conversation α)
    (messages : List Message) :
    (c.close registries result d).deliverAll registries z messages = c.close registries result d := by
  cases messages with
  | nil => rfl
  | cons message rest => rcases result with fault | ⟨⟨⟩⟩ <;> rfl

theorem deliverAll (serving : c.phase = .serving) (empty : c.mailbox = []) (messages : List Message) :
    Follows registries z ⟨{ c with mailbox := messages }, .waiting false⟩
      (c.deliverAll registries z messages) := by
  obtain ⟨conversation, readTimeout, phase, buffer, mailbox, silence, notes⟩ := c
  cases serving
  cases empty
  induction messages generalizing conversation with
  | nil => exact ⟨_, .refl _, rfl⟩
  | cons message rest ih =>
    have first := @works_delivered α registries z
      ⟨conversation, readTimeout, .serving, buffer, [], silence, notes⟩ rfl false message rest
    refine of_reaches first.reaches ?_
    rw [Connection.deliverAll]
    dsimp only
    cases message with
    | disconnect =>
      rw [Connection.deliverMessage, deliverAll_close]
      exact close ⟨conversation, readTimeout, .serving, buffer, rest, silence, notes⟩ (.ok ())
        conversation.flush buffer
    | packet packet =>
      rw [Connection.deliverMessage, delivered]
      dsimp only
      rcases conversation.push z packet with ⟨_, d⟩ | ⟨fault, d⟩
      · exact ih d
      · dsimp only
        rw [deliverAll_close]
        exact close ⟨conversation, readTimeout, .serving, buffer, rest, silence, notes⟩ (.error fault)
          d buffer

theorem receive (stands : Stands c t) (running : c.isClosed = false) (octets : Bytes) :
    Follows registries z t (c.receive registries z octets) := by
  obtain ⟨conversation, readTimeout, phase, buffer, mailbox, silence, notes⟩ := c
  cases octets with
  | nil => cases phase <;> exact ⟨t, .refl t, stands⟩
  | cons first rest =>
    cases phase with
    | opening =>
      obtain ⟨rfl, empty⟩ := stands
      by_cases old : first = LegacyPing.opening
      · -- The answer is all that is written.
        obtain ⟨session, state, codec, outgoing, written⟩ := conversation
        cases empty
        have read : (Task.receive (first :: rest)
            ⟨⟨⟨session, state, codec, [], written⟩, readTimeout, .opening, buffer, mailbox, silence,
              notes⟩, .waiting false⟩).2 =
            ⟨⟨⟨session, state, codec, session.server.legacyStatus.encode, written⟩, readTimeout,
              .opening, buffer, mailbox, silence, notes⟩, .closing⟩ := by
          simp only [Task.receive, if_pos old]
          rfl
        simp only [Connection.receive, if_pos old]
        exact of_reaches (.trans (.move (.receive (first :: rest)) read) (.proceed rfl))
          (close ⟨⟨session, state, codec, [], written⟩, readTimeout, .opening, buffer, mailbox, silence,
            notes⟩ (.ok ()) ⟨session, state, codec, [], written ++ session.server.legacyStatus.encode⟩
            buffer)
      · have read : (Task.receive (first :: rest)
            ⟨⟨conversation, readTimeout, .opening, buffer, mailbox, silence, notes⟩,
              .waiting false⟩).2 =
            ⟨⟨conversation, readTimeout, .serving, first :: rest, mailbox, ⟨0⟩, notes⟩,
              .waiting true⟩ := by
          simp only [Task.receive, if_neg old]
        simp only [Connection.receive, if_neg old]
        exact of_reaches (.move (.receive (first :: rest)) read) (drain rfl)
    | serving =>
      cases stands
      exact of_reaches (.move (.receive (first :: rest)) rfl) (drain rfl)
    | closed result => cases running

theorem finish (stands : Stands c t) (running : c.isClosed = false) :
    Follows registries z t (c.finish registries) := by
  obtain ⟨conversation, readTimeout, phase, buffer, mailbox, silence, notes⟩ := c
  cases phase with
  | opening =>
    obtain ⟨rfl, -⟩ := stands
    exact of_reaches (.move .finish rfl)
      (close ⟨conversation, readTimeout, .opening, buffer, mailbox, silence, notes⟩ (.ok ())
        conversation buffer)
  | serving =>
    cases stands
    cases buffer with
    | nil =>
      exact of_reaches (.move .finish rfl)
        (close ⟨conversation, readTimeout, .serving, [], mailbox, silence, notes⟩ (.ok ())
          conversation [])
    | cons first rest =>
      exact of_reaches (.move .finish rfl)
        (close ⟨conversation, readTimeout, .serving, first :: rest, mailbox, silence, notes⟩
          (.error (.stream .cutFrame)) (conversation.count Metrics.received) (first :: rest))
  | closed result => cases running

/-- A task whose connection has not closed waits. -/
theorem waits_of_running (stands : Stands c t) (running : c.isClosed = false) :
    t = ⟨c, .waiting false⟩ := by
  obtain ⟨conversation, readTimeout, phase, buffer, mailbox, silence, notes⟩ := c
  cases phase with
  | opening => exact stands.1
  | serving => exact stands
  | closed result => cases running

/-- What does not touch the conversation is followed at once. -/
theorem of_same {c' : Connection α} (stands : Stands c t) (running : c.isClosed = false)
    (conversation : c'.conversation = c.conversation) (phase : c'.phase = c.phase)
    (moved : Reaches registries z t ⟨c', .waiting false⟩) : Follows registries z t c' := by
  refine ⟨_, moved, ?_⟩
  rw [Stands] at stands ⊢
  rw [phase, conversation]
  cases found : c.phase with
  | opening =>
    rw [found] at stands
    exact ⟨rfl, stands.2⟩
  | serving => rfl
  | closed result =>
    rw [Connection.isClosed, found] at running
    cases running

theorem elapse (stands : Stands c t) (running : c.isClosed = false) (time : Duration) :
    Follows registries z t (c.elapse registries time) := by
  have waits := waits_of_running stands running
  subst waits
  have passed : (⟨c, .waiting false⟩ : Task α).elapse time =
      ⟨{ c with silence := ⟨c.silence.nanos + time.nanos⟩ }, .waiting false⟩ := by
    rw [Task.elapse, if_neg (by rw [running]; exact Bool.false_ne_true)]
  rw [Connection.elapse, if_neg (by rw [running]; exact Bool.false_ne_true)]
  dsimp only
  split
  · rename_i late
    refine of_reaches (.trans (.move (.elapse time) passed) (.move .expire ?_))
      (close { c with silence := ⟨c.silence.nanos + time.nanos⟩ } _ c.conversation c.buffer)
    change (Task.expire _).2 = _
    simp only [Task.expire, if_pos late]
    rfl
  · exact of_same stands running rfl rfl (.move (.elapse time) passed)

theorem post (stands : Stands c t) (running : c.isClosed = false) (message : Message) :
    Follows registries z t ((c.post message).toOption.getD c) := by
  have waits := waits_of_running stands running
  subst waits
  rw [Connection.post]
  by_cases refused : (c.isClosed || Connection.mailboxSize ≤ c.mailbox.length) = true
  · rw [if_pos refused]
    exact ⟨_, .refl _, stands⟩
  · rw [if_neg refused]
    refine of_same stands running rfl rfl (.move (.post message) ?_)
    change (Task.post message _).2 = _
    rw [Task.post, Connection.post, if_neg refused]
    rfl

theorem deliver (stands : Stands c t) (running : c.isClosed = false) :
    Follows registries z t (c.deliver registries z) := by
  obtain ⟨conversation, readTimeout, phase, buffer, mailbox, silence, notes⟩ := c
  cases phase with
  | opening => exact ⟨t, .refl t, stands⟩
  | serving =>
    cases stands
    exact @deliverAll α registries z ⟨conversation, readTimeout, .serving, buffer, [], silence, notes⟩
      rfl rfl mailbox
  | closed result => cases running

end Follows

/-- **An event is a list of moves.** -/
theorem follows_step {c : Connection α} {t : Task α} (stands : Stands c t) (event : Event) :
    Follows registries z t (c.step registries z event) := by
  cases closed : c.isClosed with
  | true =>
    rw [Connection.step_of_isClosed closed]
    exact ⟨t, .refl t, stands⟩
  | false =>
    cases event with
    | received octets => exact .receive stands closed octets
    | finished => exact .finish stands closed
    | elapsed time => exact .elapse stands closed time
    | posted message => exact .post stands closed message
    | delivered => exact .deliver stands closed

theorem follows_run {c : Connection α} {t : Task α} (stands : Stands c t) (events : List Event) :
    Follows registries z t (c.run registries z events) := by
  induction events generalizing c t with
  | nil => exact ⟨t, .refl t, stands⟩
  | cons event rest ih =>
    have made : Follows registries z t (c.step registries z event) := follows_step stands event
    obtain ⟨t', first, stands'⟩ := made
    exact .of_reaches first (ih stands')

theorem follows_start (session : Session α) :
    Follows registries z (start session) (Connection.start registries session) := by
  let entered : Connection α :=
    { conversation := ({ session : Conversation α }).enter registries
      readTimeout := session.server.config.readTimeout }
  have begun : Reaches registries z (start session) ⟨entered, .waiting false⟩ :=
    ⟨[.proceed, .proceed], rfl⟩
  have stands : Stands entered ⟨entered, .waiting false⟩ := ⟨rfl, rfl⟩
  exact .of_reaches begun (.elapse stands rfl ⟨0⟩)

/-- **Every course of events is a schedule**: some moves bring the task to where the connection is. -/
theorem exists_stands_run (registries : StateRegistries (Session α)) (z : Zlib.Library)
    (session : Session α) (events : List Event) :
    ∃ moves, Stands ((Connection.start registries session).run registries z events)
      ((start session).run registries z moves) := by
  have accepted : Follows registries z (start session) (Connection.start registries session) :=
    follows_start session
  obtain ⟨t, begun, stands⟩ := accepted
  obtain ⟨t', ⟨moves, rfl⟩, stands'⟩ := Follows.of_reaches begun (follows_run stands events)
  exact ⟨moves, stands'⟩

end Task

end GameTransport
