import GameTransport.Handlers
import GameTransport.Proofs.Posts
import Mathlib.Data.UInt

/-! # What the packet counters count

A packet is counted as received when a read comes to something, before it is known whether that is a
payload: a frame that cannot be decoded is counted too, and so are a stream that ends inside a frame
and one that fails.  It is counted as sent when it has been encoded if it is part of a batch, and when
it has been written if it was posted.  So both counters are exact unless the connection ends by a
fault; then one read too many may be counted, and packets that were never written.

What callbacks themselves do to the counters is kept apart (`Deed.ownReceived`, `Deed.ownSent`).
-/

namespace GameTransport

namespace Deed

def isDecoded : Deed → Bool
  | decoded _ => true
  | _ => false

def isSpoiled : Deed → Bool
  | spoiled => true
  | _ => false

def isSent : Deed → Bool
  | sent _ _ => true
  | _ => false

def isPushed : Deed → Bool
  | pushed _ _ => true
  | _ => false

def isConfirmed : Deed → Bool
  | confirmed => true
  | _ => false

/-- How much a callback adds to a counter. -/
def own (read : Metrics → UInt64) : Deed → UInt64
  | called before after => read after - read before
  | _ => 0

end Deed

/-! ## Counters -/

/-- A counter to which these deeds add one, and callbacks as they please. -/
structure Counts (read : Metrics → UInt64) (adds : Deed → Bool) : Prop where
  opened : ∀ m : Metrics, read m.opened = read m
  closed : ∀ m : Metrics, read m.closed = read m
  failed : ∀ m : Metrics, read m.failed = read m
  decoded : ∀ (m : Metrics) payload,
    read m.received = read m + if adds (.decoded payload) then 1 else 0
  spoiled : ∀ m : Metrics, read m.received = read m + if adds .spoiled then 1 else 0
  sent : ∀ (m : Metrics) packet octets,
    read m.sent = read m + if adds (.sent packet octets) then 1 else 0
  confirmed : ∀ m : Metrics, read m.sent = read m + if adds .confirmed then 1 else 0
  /-- The other deeds add nothing. -/
  accepted : ∀ message, adds (.accepted message) = false
  taken : ∀ message, adds (.taken message) = false
  pushed : ∀ packet octets, adds (.pushed packet octets) = false
  replied : ∀ octets, adds (.replied octets) = false
  called : ∀ before after, adds (.called before after) = false

theorem counts_received :
    Counts Metrics.packetsReceived fun deed => deed.isDecoded || deed.isSpoiled := by
  constructor <;> intros <;> first | rfl | exact (UInt64.add_zero _).symm

theorem counts_sent : Counts Metrics.packetsSent fun deed => deed.isSent || deed.isConfirmed := by
  constructor <;> intros <;> first | rfl | exact (UInt64.add_zero _).symm

/-- What the deeds of a log add to a counter. -/
def tally (read : Metrics → UInt64) (adds : Deed → Bool) (log : List Deed) : UInt64 :=
  UInt64.ofNat (log.countP adds) + (log.map (Deed.own read)).sum

theorem tally_append (read : Metrics → UInt64) (adds : Deed → Bool) (log more : List Deed) :
    tally read adds (log ++ more) = tally read adds log + tally read adds more := by
  simp only [tally, List.countP_append, List.map_append, List.sum_append, UInt64.ofNat_add]
  grind

theorem add_tally_nil (read : Metrics → UInt64) (adds : Deed → Bool) (value : UInt64) :
    value + tally read adds [] = value := UInt64.add_zero value

theorem tally_singleton (read : Metrics → UInt64) (adds : Deed → Bool) (deed : Deed) :
    tally read adds [deed] = (if adds deed then 1 else 0) + deed.own read := by
  rw [tally, List.countP_singleton, List.map_singleton, List.sum_singleton]
  split <;> rfl

/-- A deed that is no callback's adds one or nothing. -/
theorem tally_of_own_eq_zero {read : Metrics → UInt64} (adds : Deed → Bool) {deed : Deed}
    (own : deed.own read = 0) : tally read adds [deed] = if adds deed then 1 else 0 := by
  rw [tally_singleton, own, UInt64.add_zero]

theorem add_tally_of_not_adds {read : Metrics → UInt64} {adds : Deed → Bool} {deed : Deed}
    (own : deed.own read = 0) (nothing : adds deed = false) (value : UInt64) :
    value + tally read adds [deed] = value := by
  rw [tally_of_own_eq_zero adds own, nothing]
  exact UInt64.add_zero value

namespace Conversation

variable {α : Type}

theorem metrics_of_feed_ok {z : Zlib.Library} {packet : Bytes} {c d : Conversation α}
    (fed : c.feed z packet = .ok () d) : d.metrics = c.metrics :=
  congrArg (·.server.metrics) (kept_of_feed_ok fed).2

theorem metrics_of_feed_error {z : Zlib.Library} {packet : Bytes} {c d : Conversation α}
    {fault : Fault} (fed : c.feed z packet = .error fault d) : d.metrics = c.metrics :=
  congrArg (·.server.metrics) (kept_of_feed_error fed).2

end Conversation

namespace Task

variable {α : Type} {registries : StateRegistries (Session α)} {z : Zlib.Library} {t t' : Task α}
  {log : List Deed} {deed? : Option Deed} {read : Metrics → UInt64} {adds : Deed → Bool}

/-- A callback adds what it adds. -/
theorem counts_called (counts : Counts read adds) (before after : Metrics) :
    read after = read before + tally read adds [.called before after] := by
  rw [tally_singleton, counts.called before after, Deed.own]
  grind

theorem counts_step (counts : Counts read adds) (step : Step registries z t deed? t') :
    read t'.conversation.metrics =
      read t.conversation.metrics + tally read adds deed?.toList := by
  cases step
  case opened =>
    exact (counts.opened _).trans (UInt64.add_zero _).symm
  case ended =>
    exact (counts.closed _).trans (UInt64.add_zero _).symm
  -- A callback is called.
  case entered | heard | refused | moved | detached => exact counts_called counts _ _
  case caught c session fault notes told =>
    refine Eq.trans ?_ (counts_called counts _ _)
    by_cases transport : fault.isTransport
    · simp only [if_pos transport]
      rfl
    · simp only [if_neg transport]
      exact counts.failed _
  -- A packet is counted.
  case spoiled =>
    rw [Option.toList_some, tally_of_own_eq_zero adds rfl]
    exact counts.spoiled _
  case decoded =>
    rw [Option.toList_some, tally_of_own_eq_zero adds rfl]
    exact counts.decoded _ _
  case sent c d packet rest fed =>
    rw [Option.toList_some, tally_of_own_eq_zero adds rfl, conversation_mk, conversation_mk,
      ← Conversation.metrics_of_feed_ok fed]
    exact counts.sent _ _ _
  case confirmed =>
    rw [Option.toList_some, tally_of_own_eq_zero adds rfl]
    exact counts.confirmed _
  -- The counters are left alone.
  case accepted => exact (add_tally_of_not_adds rfl (counts.accepted _) _).symm
  case taken | called_off => exact (add_tally_of_not_adds rfl (counts.taken _) _).symm
  case replied => exact (add_tally_of_not_adds rfl (counts.replied _) _).symm
  case pushed fed =>
    exact (congrArg read (Conversation.metrics_of_feed_ok fed)).trans
      (add_tally_of_not_adds rfl (counts.pushed _ _) _).symm
  case unsent fed | unpushed fed =>
    exact (congrArg read (Conversation.metrics_of_feed_error fed)).trans
      (add_tally_nil read adds _).symm
  all_goals rw [Option.toList_none, add_tally_nil]
  all_goals rfl

theorem counts_run (counts : Counts read adds) (registries : StateRegistries (Session α))
    (z : Zlib.Library) (session : Session α) (moves : List Move) :
    read ((start session).run registries z moves).conversation.metrics =
      read session.server.metrics + tally read adds ((start session).log registries z moves) := by
  let P (log : List Deed) (t : Task α) : Prop :=
    read t.conversation.metrics = read session.server.metrics + tally read adds log
  have first : P [] (start session) := (add_tally_nil read adds _).symm
  refine start_induction session (fun log t deed? t' before step => ?_) first moves
  change read t'.conversation.metrics = _
  rw [counts_step counts step, before, tally_append, UInt64.add_assoc]

end Task

/-! ## How far the counters can be off -/

namespace Moment

/-- The connection ends by a fault. -/
def hasFailed : Moment → Bool
  | ending (.error _) | leaving (.error _) | left (.error _) | ended (.error _) => true
  | _ => false

/-- The packets that were posted and encoded and not yet counted. -/
def uncounted : Moment → Nat
  | writing _ => 1
  | _ => 0

theorem not_hasFailed_of_isFlushed {moment : Moment} (flushed : moment.isFlushed) :
    moment.hasFailed = false ∧ moment.uncounted = 0 := by
  cases moment with
  | writing fresh => cases flushed
  | ending result | leaving result | left result | ended result =>
    cases result with
    | ok _ => exact ⟨rfl, rfl⟩
    | error fault => cases flushed
  | _ => exact ⟨rfl, rfl⟩

end Moment

namespace Task

variable {α : Type} {registries : StateRegistries (Session α)} {z : Zlib.Library} {t t' : Task α}
  {log : List Deed} {deed? : Option Deed}

/-- How the deeds that are counted relate to those that should be. -/
structure Close (log : List Deed) (t : Task α) : Prop where
  spoiled : log.countP Deed.isSpoiled ≤ 1
  unspoiled : t.moment.hasFailed = false → log.countP Deed.isSpoiled = 0
  pushed : log.countP Deed.isPushed ≤ log.countP Deed.isConfirmed + 1
  confirmed : t.moment.hasFailed = false →
    log.countP Deed.isPushed = log.countP Deed.isConfirmed + t.moment.uncounted

namespace Close

/-- A step that spoils nothing, and neither encodes nor writes what was posted. -/
theorem pass (near : Close log t) (spoiled : deed?.toList.countP Deed.isSpoiled = 0)
    (pushed : deed?.toList.countP Deed.isPushed = 0)
    (confirmed : deed?.toList.countP Deed.isConfirmed = 0)
    (going : t'.moment.hasFailed = false →
      t.moment.hasFailed = false ∧ t'.moment.uncounted = t.moment.uncounted) :
    Close (log ++ deed?.toList) t' := by
  constructor
  · rw [List.countP_append, spoiled]
    exact near.spoiled
  · intro running
    rw [List.countP_append, spoiled]
    exact near.unspoiled (going running).1
  · rw [List.countP_append, List.countP_append, pushed, confirmed]
    exact near.pushed
  · intro running
    rw [List.countP_append, List.countP_append, pushed, confirmed, (going running).2]
    exact near.confirmed (going running).1

theorem step (near : Close log t) (step : Step registries z t deed? t') :
    Close (log ++ deed?.toList) t' := by
  cases step
  case idle | accepted | elapsed => exact near.pass rfl rfl rfl fun running => ⟨running, rfl⟩
  case lost | refused | denied | unsent | unpushed | broken | caught =>
    exact near.pass rfl rfl rfl nofun
  case detached session result detached =>
    cases result with
    | ok _ => exact near.pass rfl rfl rfl fun _ => ⟨rfl, rfl⟩
    | error fault => exact near.pass rfl rfl rfl nofun
  case ended result =>
    cases result with
    | ok _ => exact near.pass rfl rfl rfl fun _ => ⟨rfl, rfl⟩
    | error fault => exact near.pass rfl rfl rfl nofun
  case spoiled =>
    have before := near.unspoiled rfl
    refine ⟨?_, nofun, ?_, nofun⟩
    · rw [Option.toList_some, List.countP_append, before]
      exact Nat.le_refl 1
    · rw [Option.toList_some, List.countP_append, List.countP_append]
      exact near.pushed
  case pushed packet fresh fed =>
    have before := near.unspoiled rfl
    have same : log.countP Deed.isPushed = log.countP Deed.isConfirmed := near.confirmed rfl
    have after (octets : Bytes) : (log ++ [Deed.pushed packet octets]).countP Deed.isPushed =
        (log ++ [Deed.pushed packet octets]).countP Deed.isConfirmed + 1 := by
      rw [List.countP_append, List.countP_append, same]
      rfl
    refine ⟨?_, fun _ => ?_, Nat.le_of_eq (after _), fun _ => after _⟩
    · rw [Option.toList_some, List.countP_append, before]
      exact Nat.zero_le 1
    · rw [Option.toList_some, List.countP_append, before]
      rfl
  case confirmed =>
    have before := near.unspoiled rfl
    have same : log.countP Deed.isPushed = log.countP Deed.isConfirmed + 1 := near.confirmed rfl
    have after : (log ++ [Deed.confirmed]).countP Deed.isPushed =
        (log ++ [Deed.confirmed]).countP Deed.isConfirmed := by
      rw [List.countP_append, List.countP_append, same]
      rfl
    refine ⟨?_, fun _ => ?_, Nat.le_trans (Nat.le_of_eq after) (Nat.le_succ _), fun _ => after⟩
    · rw [Option.toList_some, List.countP_append, before]
      exact Nat.zero_le 1
    · rw [Option.toList_some, List.countP_append, before]
      rfl
  all_goals exact near.pass rfl rfl rfl fun _ => ⟨rfl, rfl⟩

end Close

theorem close_run (registries : StateRegistries (Session α)) (z : Zlib.Library) (session : Session α)
    (moves : List Move) :
    Close ((start session).log registries z moves) ((start session).run registries z moves) := by
  have first : Close [] (start session) := ⟨Nat.zero_le 1, fun _ => rfl, Nat.zero_le 1, fun _ => rfl⟩
  exact start_induction session (fun log t deed? t' near step => near.step step) first moves

theorem countP_or (p q : Deed → Bool) (apart : ∀ deed, p deed → q deed = false) (log : List Deed) :
    log.countP (fun deed => p deed || q deed) = log.countP p + log.countP q := by
  induction log with
  | nil => rfl
  | cons deed rest ih =>
    have never := apart deed
    rw [List.countP_cons, List.countP_cons, List.countP_cons, ih]
    cases first : p deed with
    | true =>
      simp only [never first, Bool.or_false, if_true, Bool.false_eq_true, if_false]
      omega
    | false =>
      simp only [Bool.false_or, Bool.false_eq_true, if_false]
      omega

/-- What the packet counters of a run count.  Callbacks can count on their own. -/
structure Counted (z : Zlib.Library) (session : Session α) (log : List Deed) (t : Task α) :
    Prop where
  received : t.conversation.metrics.packetsReceived =
    session.server.metrics.packetsReceived +
      (UInt64.ofNat (log.countP Deed.isDecoded + log.countP Deed.isSpoiled) +
        (log.map (Deed.own Metrics.packetsReceived)).sum)
  /-- Only a fault spoils a read, and ends the connection. -/
  spoiled : log.countP Deed.isSpoiled ≤ 1
  unspoiled : t.moment.hasFailed = false → log.countP Deed.isSpoiled = 0
  sent : t.conversation.metrics.packetsSent =
    session.server.metrics.packetsSent +
      (UInt64.ofNat (log.countP Deed.isSent + log.countP Deed.isConfirmed) +
        (log.map (Deed.own Metrics.packetsSent)).sum)
  wire : t.conversation.written ++ t.conversation.outgoing = log.flatMap Deed.octets
  framed : Framed z log
  /-- Where nothing waits to be written, what is counted is what was written. -/
  settled : t.moment.isFlushed → t.conversation.outgoing = [] ∧
    log.countP Deed.isPushed = log.countP Deed.isConfirmed

/-- **The packet counters count packets**, up to one read that a fault spoils and up to the packets of
batches that a fault keeps from being written. -/
theorem packets_counted (registries : StateRegistries (Session α)) (z : Zlib.Library)
    (session : Session α) (moves : List Move) :
    Counted z session ((start session).log registries z moves)
      ((start session).run registries z moves) := by
  have near := close_run registries z session moves
  obtain ⟨-, ⟨done, owed, settles⟩, -, wire, framed⟩ := keeps_run registries z session moves
  have received := counts_run counts_received registries z session moves
  have sent := counts_run counts_sent registries z session moves
  rw [tally, countP_or _ _ (fun deed => by cases deed <;> simp [Deed.isDecoded, Deed.isSpoiled])]
    at received
  rw [tally, countP_or _ _ (fun deed => by cases deed <;> simp [Deed.isSent, Deed.isConfirmed])]
    at sent
  refine ⟨received, near.spoiled, near.unspoiled, sent, wire, framed, fun flushed => ?_⟩
  obtain ⟨running, written⟩ := Moment.not_hasFailed_of_isFlushed flushed
  refine ⟨settles.flushed flushed, ?_⟩
  rw [near.confirmed running, written]
  rfl

/-- **The packet counters can count too much**: octets that are no frame are a packet received, and a
packet whose batch the stream does not take is a packet sent. -/
theorem counters_exceed_packets :
    let garbage : List Move := [.proceed, .proceed, .receive [255, 255, 255], .proceed, .proceed,
      .proceed, .proceed]
    let handshake : Bytes := [8, 0, 255, 5, 1, 97, 99, 221, 1]
    let ping : Bytes := [9, 1, 0, 0, 0, 0, 0, 0, 0, 5]
    let unread : List Move := [.proceed, .proceed, .receive (handshake ++ ping)] ++
      List.replicate 10 .proceed ++ [.cut .brokenPipe 0, .proceed, .proceed, .proceed]
    let first : Task Unit := start Connection.firstSession
    let t := first.run Handlers.registries .stored garbage
    let u := first.run Handlers.registries .stored unread
    (t.connection.isClosed ∧ t.conversation.metrics.packetsReceived = 1 ∧
      (first.log Handlers.registries .stored garbage).countP Deed.isDecoded = 0) ∧
    (u.connection.isClosed ∧ u.conversation.metrics.packetsSent = 1 ∧
      u.conversation.written = []) := by
  decide +kernel

end Task

end GameTransport
