import GameTransport.Proofs.Callbacks
import GameTransport.Proofs.Early
import GameTransport.Proofs.Packets

/-! # Batches of actions

A packet is answered in three steps: it is dispatched, the batch that its handler queued is carried
out, and what the batch encoded is written.  When octets are written within a batch makes no
difference (`performAll_flush`), so `Performs` says what a batch comes to between two conversations
with nothing left to write, one action after another.
-/

namespace GameTransport.Conversation

variable {α : Type} {z : Zlib.Library} {registries : StateRegistries (Session α)}
  {c d e : Conversation α} {batch rest : List Action} {payload octets : Bytes} {codec : Codec}

/-! ## What waits to be written -/

theorem flush_of_empty (empty : c.outgoing = []) : c.flush = c := by
  obtain ⟨session, state, codec, outgoing, written⟩ := c
  cases empty
  exact congrArg (Conversation.mk session state codec []) (List.append_nil written)

theorem flush_flush (c : Conversation α) : c.flush.flush = c.flush := flush_of_empty rfl

theorem feed_flush (packet : Bytes) (c : Conversation α) :
    withState flush (feed z packet c.flush) = withState flush (feed z packet c) := by
  -- After a flush there is room, so the question is only whether `c` is flushed on the way.
  have room : ¬ highWater ≤ c.flush.outgoing.length := by
    change ¬ highWater ≤ 0
    decide
  unfold feed
  dsimp only
  rw [if_neg room]
  by_cases full : highWater ≤ c.outgoing.length
  · rw [if_pos full]
  · have same : c.flush.codec = c.codec := rfl
    rw [if_neg full, same]
    rcases Codec.encode z packet c.codec with ⟨octets, codec⟩ | ⟨fault, codec⟩
    · unfold withState flush
      dsimp only
      rw [List.nil_append, List.append_assoc]
    · exact congrArg (EStateM.Result.error fault) (flush_flush { c with codec })

theorem perform_flush (action : Action) (c : Conversation α) :
    withState flush (perform z registries action c.flush) =
      withState flush (perform z registries action c) := by
  cases action with
  | send packet =>
    have fed := @feed_flush α z packet c
    unfold perform
    dsimp only
    generalize feed z packet c.flush = one at fed ⊢
    generalize feed z packet c = other at fed ⊢
    rcases one with ⟨_, d⟩ | ⟨fault, d⟩ <;> rcases other with ⟨_, e⟩ | ⟨fault', e⟩
    · have same : d.flush = e.flush := (EStateM.Result.ok.inj fed).2
      exact congrArg (fun f => EStateM.Result.ok true (f.count Metrics.sent)) same
    · cases fed
    · cases fed
    · obtain ⟨rfl, same⟩ := EStateM.Result.error.inj fed
      exact congrArg (EStateM.Result.error fault) same
  | transition target =>
    unfold perform move
    dsimp only [flush]
    rcases registries.transition c.state target c.session with fault | session
    · exact congrArg (EStateM.Result.error fault) (flush_flush c)
    · exact congrArg (EStateM.Result.ok true)
        (flush_flush { c with session := { session with state := target }, state := target })
  | enableCompression threshold level =>
    exact congrArg (EStateM.Result.ok true)
      (flush_flush { c with codec := c.codec.enableCompression threshold level })
  | enableEncryption secret =>
    exact congrArg (EStateM.Result.ok true)
      (flush_flush { c with codec := c.codec.enableEncryption secret })
  | disconnect => exact congrArg (EStateM.Result.ok false) (flush_flush c)

/-- **It makes no difference when octets are written.** -/
theorem performAll_flush (batch : List Action) (same : c.flush = d.flush) :
    withState flush (performAll z registries batch c) =
      withState flush (performAll z registries batch d) := by
  induction batch generalizing c d with
  | nil => exact congrArg (EStateM.Result.ok true) same
  | cons action rest ih =>
    have first : withState flush (perform z registries action c) =
        withState flush (perform z registries action d) := by
      rw [← perform_flush action c, same, perform_flush]
    rw [performAll, performAll]
    generalize perform z registries action c = one at first ⊢
    generalize perform z registries action d = other at first ⊢
    rcases one with ⟨goesOn, c'⟩ | ⟨fault, c'⟩ <;> rcases other with ⟨goesOn', d'⟩ | ⟨fault', d'⟩
    · obtain ⟨rfl, same'⟩ := EStateM.Result.ok.inj first
      cases goesOn with
      | false => exact first
      | true => exact ih same'
    · cases first
    · cases first
    · exact first

theorem performAll_append (more : List Action) (c : Conversation α) :
    performAll z registries (batch ++ more) c =
      match performAll z registries batch c with
      | .ok true d => performAll z registries more d
      | .ok false d => .ok false d
      | .error fault d => .error fault d := by
  induction batch generalizing c with
  | nil => rfl
  | cons action rest ih =>
    rw [List.cons_append, performAll, performAll]
    rcases perform z registries action c with ⟨_ | _, d⟩ | ⟨fault, d⟩
    · rfl
    · exact ih d
    · rfl

/-! ## What a batch comes to -/

/-- Between two conversations with nothing left to write, the batch is carried out to its end. -/
def Performs (z : Zlib.Library) (registries : StateRegistries (Session α)) (batch : List Action)
    (c d : Conversation α) : Prop :=
  withState flush (performAll z registries batch c) = .ok true d

namespace Performs

theorem nil (empty : c.outgoing = []) : Performs z registries [] c c :=
  congrArg (EStateM.Result.ok true) (flush_of_empty empty)

/-- The first action of a batch is carried out, then the rest. -/
theorem cons {action : Action} (first : perform z registries action c = .ok true d)
    (later : Performs z registries rest d.flush e) : Performs z registries (action :: rest) c e := by
  unfold Performs at later ⊢
  rw [performAll, first]
  exact (performAll_flush rest (flush_flush d).symm).trans later

theorem send (empty : c.outgoing = []) (encoded : Codec.encode z payload c.codec = .ok octets codec)
    (later : Performs z registries rest
      { c with session := c.session.count Metrics.sent, codec, written := c.written ++ octets } e) :
    Performs z registries (.send payload :: rest) c e := by
  have room : ¬ highWater ≤ c.outgoing.length := by
    rw [empty]
    decide
  have fed : feed z payload c = .ok () { c with codec, outgoing := octets } := by
    unfold feed
    dsimp only
    rw [if_neg room, encoded, empty]
    rfl
  have performed : perform z registries (.send payload) c =
      .ok true { c with session := c.session.count Metrics.sent, codec, outgoing := octets } := by
    unfold perform
    dsimp only
    rw [fed]
    rfl
  refine cons performed ?_
  unfold flush
  rw [empty] at later
  exact later

theorem enableCompression {threshold level : Nat} (empty : c.outgoing = [])
    (later : Performs z registries rest
      { c with codec := c.codec.enableCompression threshold level } e) :
    Performs z registries (.enableCompression threshold level :: rest) c e := by
  refine cons rfl ?_
  rw [flush_of_empty (by exact empty)]
  exact later

theorem enableEncryption {secret : SharedSecret} (empty : c.outgoing = [])
    (later : Performs z registries rest { c with codec := c.codec.enableEncryption secret } e) :
    Performs z registries (.enableEncryption secret :: rest) c e := by
  refine cons rfl ?_
  rw [flush_of_empty (by exact empty)]
  exact later

theorem transition {target : ConnectionState} {session : Session α} (empty : c.outgoing = [])
    (moved : registries.transition c.state target c.session = .ok session)
    (later : Performs z registries rest
      { c with session := { session with state := target }, state := target } e) :
    Performs z registries (.transition target :: rest) c e := by
  have performed : perform z registries (.transition target) c =
      .ok true { c with session := { session with state := target }, state := target } := by
    unfold perform move
    dsimp only
    rw [moved]
  refine cons performed ?_
  rw [flush_of_empty (by exact empty)]
  exact later

/-- Two batches are carried out as one. -/
theorem append {more : List Action} (first : Performs z registries batch c d)
    (later : Performs z registries more d e) : Performs z registries (batch ++ more) c e := by
  unfold Performs at first later ⊢
  rw [performAll_append]
  rcases outcome : performAll z registries batch c with ⟨goesOn, f⟩ | ⟨fault, f⟩
  · rw [outcome] at first
    obtain ⟨rfl, rfl⟩ := EStateM.Result.ok.inj first
    exact (performAll_flush more (flush_flush f).symm).trans later
  · rw [outcome] at first
    cases first

end Performs

/-! ## Answers -/

/-- A payload that is dispatched to a handler which queues one batch. -/
theorem answer_of_performs {outcome : Dispatched}
    (dispatched : dispatch registries payload (c.count Metrics.received) = .ok outcome d)
    (pending : d.session.actions ≠ [])
    (performs : Performs z registries d.session.actions
      { d with session := { d.session with actions := [] } } e)
    (idle : e.session.actions = []) : answer z registries payload c = .ok true e := by
  have waits : d.session.hasPendingActions := by
    unfold Session.hasPendingActions
    cases queue : d.session.actions with
    | nil => exact absurd queue pending
    | cons action rest => rfl
  have carried : ∃ f, carryOut z registries d = .ok true f ∧ f.flush = e := by
    unfold Performs at performs
    rw [carryOut_of_pending waits]
    change ∃ f, (match performAll z registries d.session.actions
      { d with session := { d.session with actions := [] } } with
      | .ok true d => carryOut z registries d
      | .ok false d => .ok false d
      | .error fault d => .error fault d) = _ ∧ _
    generalize performAll z registries d.session.actions
      { d with session := { d.session with actions := [] } } = performed at performs ⊢
    rcases performed with ⟨goesOn, f⟩ | ⟨fault, f⟩
    · -- The batch has queued nothing, so there is no second one.
      obtain ⟨rfl, rfl⟩ := EStateM.Result.ok.inj performs
      refine ⟨f, carryOut_of_idle ?_, rfl⟩
      unfold Session.hasPendingActions
      rw [show f.session.actions = [] from idle]
      exact Bool.false_ne_true
    · cases performs
  obtain ⟨f, same, flushed⟩ := carried
  unfold answer
  rw [dispatched]
  dsimp only
  rw [same]
  exact congrArg (EStateM.Result.ok true) flushed

/-- A packet is dispatched to the handler of its kind. -/
theorem dispatch_encode {β : Type} [kind : Packet β] {packet : β} {handler : Handler (Session α) β}
    {session : Session α}
    (known : Registry.entry? (registries.active c.state) (Packet.id β) = some ⟨β, kind, some handler⟩)
    (back : Packet.ReadsBack packet) (handled : handler packet c.session = .ok () session) :
    dispatch registries (Packet.encode packet) c =
      .ok ⟨Packet.id β, Packet.name β, true⟩ { c with session } := by
  have ran : (Entry.mk β kind (some handler)).run (Packet.write packet) c.session =
      .ok true session := by
    unfold Entry.run
    dsimp only
    rw [back.whole]
    dsimp only
    rw [handled]
  have dispatched : (registries.active c.state).dispatch (Packet.encode packet) c.session =
      .ok ⟨Packet.id β, Packet.name β, true⟩ session := by
    unfold Registry.dispatch Packet.encode
    rw [Varint.readU32_encode_toNat]
    dsimp only
    rw [known]
    dsimp only
    rw [ran]
    rfl
  unfold dispatch active
  rw [dispatched]

/-! ## Where nothing is decrypted ahead -/

theorem fresh_perform {action : Action} {goesOn : Bool} (fresh : c.codec.decrypted = 0)
    (performed : perform z registries action c = .ok goesOn d) : d.codec.decrypted = 0 := by
  cases action with
  | send packet =>
    have kept : ∀ f, feed z packet c = .ok () f → f.codec.decrypted = 0 := by
      intro f fed
      simp only [feed, codec_of_room] at fed
      split at fed
      · rename_i encoded
        cases fed
        exact (Codec.decrypted_encode encoded).trans fresh
      · cases fed
    unfold perform at performed
    dsimp only at performed
    split at performed
    · rename_i f fed
      cases performed
      exact kept f fed
    · cases performed
  | enableCompression threshold level =>
    cases performed
    exact fresh
  | enableEncryption secret =>
    cases performed
    rfl
  | transition target =>
    unfold perform move at performed
    dsimp only at performed
    generalize registries.transition c.state target c.session = moved at performed
    rcases moved with fault | session
    · cases performed
    · cases performed
      exact fresh
  | disconnect =>
    cases performed
    exact fresh

theorem fresh_performAll {goesOn : Bool} (fresh : c.codec.decrypted = 0)
    (performed : performAll z registries batch c = .ok goesOn d) : d.codec.decrypted = 0 := by
  induction batch generalizing c with
  | nil =>
    cases performed
    exact fresh
  | cons action rest ih =>
    rw [performAll] at performed
    rcases first : perform z registries action c with ⟨_ | _, e⟩ | ⟨fault, e⟩
    · rw [first] at performed
      cases performed
      exact fresh_perform fresh first
    · rw [first] at performed
      exact ih (fresh_perform fresh first) performed
    · rw [first] at performed
      cases performed

theorem redecryptedAll_of_fresh (fresh : c.codec.decrypted = 0) :
    ∀ count ∈ redecryptedAll z registries batch c, count = 0 := by
  induction batch generalizing c with
  | nil => exact nofun
  | cons action rest ih =>
    intro count member
    rw [redecryptedAll] at member
    rcases List.mem_append.mp member with here | later
    · cases action with
      | enableEncryption secret => exact (List.mem_singleton.mp here).trans fresh
      | send packet => cases here
      | enableCompression threshold level => cases here
      | transition target => cases here
      | disconnect => cases here
    · rcases first : perform z registries action c with ⟨_ | _, e⟩ | ⟨fault, e⟩
      · rw [first] at later
        cases later
      · rw [first] at later
        exact ih (fresh_perform fresh first) count later
      · rw [first] at later
        cases later

theorem redecryptedOut_of_fresh (fresh : c.codec.decrypted = 0) :
    ∀ count ∈ redecryptedOut z registries c, count = 0 := by
  fun_induction redecryptedOut z registries c with
  | case1 c pending ih =>
    intro count member
    rcases List.mem_append.mp member with here | later
    · exact redecryptedAll_of_fresh (c := c.takeBatch.2) fresh count here
    · split at later
      · rename_i performed
        exact ih _ performed (fresh_performAll (c := c.takeBatch.2) fresh performed) count later
      · cases later
      · cases later
  | case2 c idle => exact List.forall_mem_nil _

theorem codec_dispatch {outcome : Dispatched}
    (dispatched : dispatch registries payload c = .ok outcome d) : d.codec = c.codec := by
  unfold dispatch at dispatched
  split at dispatched
  · cases dispatched
    rfl
  · cases dispatched

/-- **A batch decrypts nothing again where nothing is decrypted ahead.** -/
theorem redecryptedIn_of_fresh (fresh : c.codec.decrypted = 0) :
    ∀ count ∈ redecryptedIn z registries payload c, count = 0 := by
  intro count member
  unfold redecryptedIn at member
  rcases dispatched : dispatch registries payload (c.count Metrics.received) with
    ⟨outcome, d⟩ | ⟨fault, d⟩
  · rw [dispatched] at member
    exact redecryptedOut_of_fresh ((congrArg _ (codec_dispatch dispatched)).trans fresh) count member
  · rw [dispatched] at member
    cases member

/-! ## What plain octets come to -/

/-- The octets take the conversation to `d`.  None of them is left, and none is decrypted again. -/
structure Takes (z : Zlib.Library) (registries : StateRegistries (Session α)) (octets : Bytes)
    (c d : Conversation α) : Prop where
  drained : drain z registries octets c = .ok (some []) d
  clean : ∀ count ∈ redecrypted z registries octets c, count = 0

namespace Takes

theorem nil : Takes z registries [] c c := by
  have idle : Codec.decode z ⟨c.codec, []⟩ = .ok none ⟨c.codec, []⟩ := Codec.decode_of_empty rfl
  refine ⟨drain_of_none idle, ?_⟩
  rw [redecrypted_of_none idle]
  exact nofun

/-- **A payload that arrives without encryption is answered before what stands after it is read.** -/
theorem cons {sender after : Codec} {late : Bytes} (lawful : z.RoundTrips)
    (nonempty : payload ≠ []) (mirrored : Codec.Mirrored sender c.codec)
    (plain : c.codec.cipher = none) (encoded : Codec.encode z payload sender = .ok octets after)
    (answered : answer z registries payload c = .ok true d) (later : Takes z registries late d e) :
    Takes z registries (octets ++ late) c e := by
  have decoded := mirrored.decode_plain lawful nonempty encoded plain late
  constructor
  · rw [drain_of_some decoded]
    dsimp only
    rw [answered]
    exact later.drained
  · intro count member
    rw [redecrypted_of_some decoded] at member
    dsimp only at member
    rw [answered] at member
    rcases List.mem_append.mp member with here | there
    · exact redecryptedIn_of_fresh mirrored.fresh count here
    · exact later.clean count there

end Takes

end GameTransport.Conversation
