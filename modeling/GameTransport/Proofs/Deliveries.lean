import GameTransport.Handlers
import GameTransport.Proofs.Clients
import GameTransport.Proofs.Reads
import GameTransport.Proofs.Written

/-! # A login octet by octet

What one end of a stream writes reaches the other in its order, but in whatever parts and whenever.
A `Login` is a connection, a client and what is between them, and a `Delivery` is the next thing to
happen: octets arrive at one end, or the client answers the request that it has read.

The invariant is stated by what is to come (`Heads`): with the octets that are still on the way, the
connection comes to `d` and the client to `after`.  A delivery takes some of those octets, so it
leaves that as it is (`Heads.toServer`, `Heads.toClient`), and when no octets are left, the two ends
are there (`Heads.arrived`).
-/

namespace GameTransport

/-! ## Octets that are to come -/

namespace Connection

variable {α : Type} {registries : StateRegistries (Session α)} {z : Zlib.Library}
  {c d : Connection α} {octets : Bytes}

/-- With these octets, none of which is decrypted again, the connection comes to `d`. -/
structure Expects (registries : StateRegistries (Session α)) (z : Zlib.Library) (c : Connection α)
    (octets : Bytes) (d : Connection α) : Prop where
  sound : c.Sound
  clean : ∀ count ∈ c.redecryptedBy registries z octets, count = 0
  comes : c.receive registries z octets = d

namespace Expects

theorem eq (expects : Expects registries z c [] d) : c = d := by
  rw [← expects.comes, receive_nil]

theorem isClosed (expects : Expects registries z c octets d) (stays : d.isClosed = false) :
    c.isClosed = false := by
  cases closed : c.isClosed with
  | false => rfl
  | true =>
    have same := expects.comes
    rw [receive_of_isClosed closed] at same
    rw [← same, closed] at stays
    cases stays

theorem written_prefix (expects : Expects registries z c octets d) :
    c.conversation.written <+: d.conversation.written := by
  rw [← expects.comes]
  exact written_prefix_receive registries z c octets

/-- **Some of the octets arrive**, and the connection comes to the same with the others. -/
theorem receive_append {late : Bytes} (expects : Expects registries z c (octets ++ late) d)
    (stays : d.isClosed = false) : Expects registries z (c.receive registries z octets) late d := by
  obtain ⟨sound, clean, comes⟩ := expects
  by_cases before : octets = []
  · subst before
    rw [receive_nil]
    exact ⟨sound, clean, comes⟩
  · by_cases after : late = []
    · subst after
      rw [List.append_nil] at clean comes
      refine ⟨sound.receive clean, ?_, ?_⟩
      · cases phase : (c.receive registries z octets).phase <;> simp [redecryptedBy]
      · rw [receive_nil, comes]
    · obtain ⟨sound', alike, clean'⟩ := Connection.receive_append before after sound clean
      rw [comes] at alike
      refine ⟨sound', clean', ?_⟩
      rcases alike with same | ⟨closed, codec, buffer, same⟩
      · exact same
      · have closed' : d.isClosed := by
          rw [same]
          exact closed
        rw [closed'] at stays
        cases stays

theorem receive_take (expects : Expects registries z c octets d) (stays : d.isClosed = false)
    (count : Nat) :
    Expects registries z (c.receive registries z (octets.take count)) (octets.drop count) d := by
  refine receive_append ?_ stays
  rw [List.take_append_drop]
  exact expects

end Expects

end Connection

/-! ## Logins -/

/-- Who logs in: what the client sends by itself, and how it answers a token. -/
structure Player where
  handshake : Handshake
  start : LoginStart
  secret : SharedSecret
  /-- The secret and a token, both under the public key of the server. -/
  respond : Bytes → EncryptionResponse

namespace Player

variable (z : Zlib.Library)

/-- The octets that a client begins with. -/
def greet (player : Player) : EStateM Fault Client Bytes := do
  let handshake ← Client.send z (Packet.encode player.handshake)
  let start ← Client.send z (Packet.encode player.start)
  return handshake ++ start

/-- The answer to a token.  Right after it has sent it, the client encrypts. -/
def answer (player : Player) (token : Bytes) : EStateM Fault Client Bytes := do
  let octets ← Client.send z (Packet.encode (player.respond token))
  modify (·.encrypt player.secret)
  return octets

theorem answer_eq (player : Player) (token : Bytes) (client : Client) :
    player.answer z token client =
      match Codec.encode z (Packet.encode (player.respond token)) client.inlet.codec with
      | .ok octets codec => .ok octets ((client.withCodec codec).encrypt player.secret)
      | .error fault codec => .error fault (client.withCodec codec) := by
  change EStateM.bind (Client.send z _) _ client = _
  unfold EStateM.bind Client.send
  rcases Codec.encode z (Packet.encode (player.respond token)) client.inlet.codec with
    ⟨octets, codec⟩ | ⟨fault, codec⟩
  · rfl
  · rfl

/-- A client that had read all there was still has when it has answered. -/
theorem rests_of_answer {player : Player} {token octets : Bytes} {client after : Client}
    (answered : player.answer z token client = .ok octets after) (empty : client.inlet.buffer = []) :
    after.inlet.Counted ∧ after.receive z [] = ([], none, after) := by
  rw [answer_eq] at answered
  rcases encoded : Codec.encode z (Packet.encode (player.respond token)) client.inlet.codec with
    ⟨sent, codec⟩ | ⟨fault, codec⟩
  · rw [encoded] at answered
    cases answered
    refine ⟨Nat.zero_le _, ?_⟩
    rw [Client.receive_nil, Client.drain_of_none (Codec.decode_of_empty (by exact empty))]
  · rw [encoded] at answered
    cases answered

end Player

/-- The two ends of a stream and what is between them. -/
structure Login (α : Type) where
  connection : Connection α
  client : Client := {}
  /-- Octets on their way to the server. -/
  sent : Bytes := []
  /-- How many of the octets that the server has written have reached the client. -/
  seen : Nat := 0
  /-- What the client has decoded. -/
  payloads : List Bytes := []
  hasAnswered : Bool := false
  /-- Why the client has given up, if it has. -/
  fault? : Option Fault := none

/-- What can happen next. -/
inductive Delivery where
  /-- So many octets reach the server, or all that are on their way. -/
  | toServer (count : Nat)
  /-- So many octets reach the client, or all that are on their way. -/
  | toClient (count : Nat)
  /-- The client answers a request, if it has read one. -/
  | answer
  deriving DecidableEq, Repr

namespace Login

variable {α : Type}

/-- Octets on their way to the client. -/
def unread (login : Login α) : Bytes := login.connection.conversation.written.drop login.seen

/-- What the client is asked for and has not sent. -/
def owed? (login : Login α) : Option Bytes :=
  if login.hasAnswered then none else login.client.token

/-- Whether nothing is on its way and nothing is owed. -/
def IsQuiet (login : Login α) : Prop :=
  login.sent = [] ∧ login.unread = [] ∧ login.owed? = none

variable (z : Zlib.Library) (player : Player)

/-- The client has sent its handshake and its name. -/
def begin (session : Session α) : Login α :=
  match player.greet z {} with
  | .ok sent client => { connection := .start Handlers.registries session, client, sent }
  | .error fault client =>
    { connection := .start Handlers.registries session, client, fault? := some fault }

def step (login : Login α) : Delivery → Login α
  | .toServer count =>
    { login with
      connection := login.connection.receive Handlers.registries z (login.sent.take count)
      sent := login.sent.drop count }
  | .toClient count =>
    let (payloads, fault?, client) := login.client.receive z (login.unread.take count)
    { login with
      client
      seen := login.seen + (login.unread.take count).length
      payloads := login.payloads ++ payloads
      fault? := login.fault?.or fault? }
  | .answer =>
    match login.owed? with
    | none => login
    | some token =>
      match player.answer z token login.client with
      | .ok octets client =>
        { login with client, sent := login.sent ++ octets, hasAnswered := true }
      | .error fault client => { login with client, hasAnswered := true, fault? := some fault }

def run (login : Login α) (deliveries : List Delivery) : Login α :=
  deliveries.foldl (step z player) login

end Login

/-! ## Where a login is heading -/

namespace Login

variable {α : Type} {z : Zlib.Library} {player : Player} {login : Login α} {packets : List Bytes}
  {d : Connection α} {after : Client}

theorem step_answer (nothing : login.owed? = none) : login.step z player .answer = login := by
  unfold step
  dsimp only
  rw [nothing]

theorem owed?_of_hasAnswered (answered : login.hasAnswered = true) : login.owed? = none := by
  unfold owed?
  rw [answered]
  rfl

/-- A client answers once. -/
theorem hasAnswered_run (answered : login.hasAnswered = true) (deliveries : List Delivery) :
    (login.run z player deliveries).hasAnswered = true := by
  unfold run
  induction deliveries generalizing login with
  | nil => exact answered
  | cons delivery rest ih =>
    refine ih ?_
    cases delivery with
    | toServer count => exact answered
    | toClient count => exact answered
    | answer =>
      rw [step_answer (owed?_of_hasAnswered answered)]
      exact answered

theorem run_append (first later : List Delivery) :
    login.run z player (first ++ later) = (login.run z player first).run z player later :=
  List.foldl_append

/-- All that is on its way can arrive. -/
theorem exists_exhausted (login : Login α) :
    ∃ more, (login.run z player more).sent = [] ∧ (login.run z player more).unread = [] := by
  let here := login.step z player (.toServer login.sent.length)
  refine ⟨[.toServer login.sent.length, .toClient here.unread.length], List.drop_length, ?_⟩
  change here.connection.conversation.written.drop
    (here.seen + (here.unread.take here.unread.length).length) = []
  rw [List.take_length, ← List.drop_drop]
  exact List.drop_length

/-- With what is on its way, the connection comes to `d`, and the client has decoded `packets` and
come to `after`. -/
structure Heads (z : Zlib.Library) (packets : List Bytes) (d : Connection α) (after : Client)
    (login : Login α) : Prop where
  server : Connection.Expects Handlers.registries z login.connection login.sent d
  seen : login.seen ≤ login.connection.conversation.written.length
  counted : login.client.inlet.Counted
  drained : login.client.receive z [] = ([], none, login.client)
  client : ∃ rest, login.client.receive z (d.conversation.written.drop login.seen) =
    (rest, none, after) ∧ login.payloads ++ rest = packets
  token : login.client.token = none ∨ ∃ payload ∈ login.payloads, Client.isRequest payload
  fault : login.fault? = none

/-- What is to reach the client is what reaches it now and what reaches it later. -/
theorem drop_seen {written : Bytes} (more : login.connection.conversation.written <+: written)
    (seen : login.seen ≤ login.connection.conversation.written.length) (count : Nat) :
    written.drop login.seen =
        login.unread.take count ++ written.drop (login.seen + (login.unread.take count).length) ∧
      login.seen + (login.unread.take count).length ≤
        login.connection.conversation.written.length := by
  obtain ⟨later, rfl⟩ := more
  have whole : (login.connection.conversation.written ++ later).drop login.seen =
      login.unread.take count ++ (login.unread.drop count ++ later) := by
    rw [← List.append_assoc, List.take_append_drop, List.drop_append_of_le_length seen]
    rfl
  have part : (login.unread.take count).length ≤ login.unread.length := List.length_take_le' _ _
  have size : login.unread.length = login.connection.conversation.written.length - login.seen :=
    List.length_drop
  constructor
  · rw [← List.drop_drop, whole, List.drop_left]
  · omega

namespace Heads

theorem payloads_prefix (heads : Heads z packets d after login) : login.payloads <+: packets := by
  obtain ⟨rest, -, joined⟩ := heads.client
  exact ⟨rest, joined⟩

theorem toServer (heads : Heads z packets d after login) (stays : d.isClosed = false) (count : Nat) :
    Heads z packets d after (login.step z player (.toServer count)) := by
  obtain ⟨server, seen, counted, drained, client, token, fault⟩ := heads
  have more := Connection.written_prefix_receive Handlers.registries z login.connection
    (login.sent.take count)
  exact ⟨server.receive_take stays count, Nat.le_trans seen more.length_le, counted, drained, client,
    token, fault⟩

theorem toClient (heads : Heads z packets d after login) (count : Nat) :
    Heads z packets d after (login.step z player (.toClient count)) := by
  obtain ⟨server, seen, counted, drained, ⟨rest, heard, joined⟩, token, fault⟩ := heads
  obtain ⟨split, size⟩ := drop_seen server.written_prefix seen count
  rw [split] at heard
  obtain ⟨first, rest', between, heard', counted', heard'', rfl⟩ :=
    Client.receive_of_append counted heard
  have stepped : login.step z player (.toClient count) =
      { login with
        client := between
        seen := login.seen + (login.unread.take count).length
        payloads := login.payloads ++ first } := by
    unfold step
    dsimp only
    rw [heard', fault]
    rfl
  rw [stepped]
  refine ⟨server, size, counted', Client.receive_receive counted heard', ⟨rest', heard'', ?_⟩, ?_,
    fault⟩
  · rw [List.append_assoc]
    exact joined
  · rcases Client.token_receive heard' with same | ⟨payload, member, asks⟩
    · rcases token with none' | ⟨payload, member, asks⟩
      · exact .inl (same.trans none')
      · exact .inr ⟨payload, List.mem_append_left _ member, asks⟩
    · exact .inr ⟨payload, List.mem_append_right _ member, asks⟩

/-- **When nothing is on its way, both ends are where they were heading.** -/
theorem arrived (heads : Heads z packets d after login) (sent : login.sent = [])
    (unread : login.unread = []) :
    login.connection = d ∧ login.client = after ∧ login.payloads = packets := by
  obtain ⟨server, seen, counted, drained, ⟨rest, heard, joined⟩, token, fault⟩ := heads
  rw [sent] at server
  have same := server.eq
  have nothing : d.conversation.written.drop login.seen = [] := by
    rw [← same]
    exact unread
  rw [nothing, drained] at heard
  cases heard
  rw [List.append_nil] at joined
  exact ⟨same, rfl, joined⟩

end Heads

/-! ## Before the client has answered -/

/-- An exchange of keys.  The server stays at `c` once it has sent its request, and the client is
`asked` once it has read it.  The response takes the server to `d`, and what the server writes then
takes the client to `after`. -/
structure Exchange (z : Zlib.Library) (player : Player) (c : Connection α) (asked answering : Client)
    (token response : Bytes) (packets : List Bytes) (d : Connection α) (after : Client) : Prop where
  stays : c.isClosed = false
  empty : asked.inlet.buffer = []
  answer : player.answer z token asked = .ok response answering
  token : asked.token = some token
  heard : ∃ octets, d.conversation.written = c.conversation.written ++ octets ∧
    answering.receive z octets = (packets, none, after)

/-- The login is heading for the request, and with the response for `d`. -/
structure Waits (z : Zlib.Library) (request : Bytes) (c : Connection α) (asked : Client)
    (response : Bytes) (d : Connection α) (login : Login α) : Prop where
  heads : Heads z [request] c asked login
  server : Connection.Expects Handlers.registries z login.connection (login.sent ++ response) d
  unanswered : login.hasAnswered = false

variable {c : Connection α} {asked answering : Client} {token request response : Bytes}

theorem Waits.toServer (waits : Waits z request c asked response d login)
    (stays : c.isClosed = false) (stays' : d.isClosed = false) (count : Nat) :
    Waits z request c asked response d (login.step z player (.toServer count)) := by
  obtain ⟨heads, server, unanswered⟩ := waits
  refine ⟨heads.toServer stays count, ?_, unanswered⟩
  rw [← List.take_append_drop count login.sent, List.append_assoc] at server
  exact server.receive_append stays'

theorem Waits.toClient (waits : Waits z request c asked response d login) (count : Nat) :
    Waits z request c asked response d (login.step z player (.toClient count)) :=
  ⟨waits.heads.toClient count, waits.server, waits.unanswered⟩

/-- A client that has a token has read the request, and nothing stands behind a request. -/
theorem Heads.arrived_of_token (heads : Heads z [request] c asked login)
    (empty : asked.inlet.buffer = []) (known : login.client.token ≠ none) :
    login.client = asked ∧ login.payloads = [request] ∧
      login.seen = c.conversation.written.length := by
  have read : login.payloads ≠ [] := by
    rcases heads.token with none' | ⟨payload, member, -⟩
    · exact absurd none' known
    · exact List.ne_nil_of_mem member
  obtain ⟨rest, later, joined⟩ := heads.client
  obtain ⟨payloads_eq, rfl⟩ : login.payloads = [request] ∧ rest = [] := by
    rcases List.append_eq_singleton_iff.mp joined with ⟨nothing, -⟩ | both
    · exact absurd nothing read
    · exact both
  -- Octets that come to no payload would stand in the buffer, and there are none.
  have size := Client.length_buffer_of_receive later
  rw [empty, List.length_nil, List.length_drop] at size
  have reached : login.seen = c.conversation.written.length := by
    have behind := Nat.le_trans heads.seen heads.server.written_prefix.length_le
    omega
  rw [reached, List.drop_length, heads.drained] at later
  exact ⟨congrArg (·.2.2) later, payloads_eq, reached⟩

/-- **A client that has been asked and answers is heading for the end.** -/
theorem Waits.answer (exchange : Exchange z player c asked answering token response packets d after)
    (waits : Waits z request c asked response d login) :
    login.owed? = none ∨ Heads z (request :: packets) d after (login.step z player .answer) ∧
      (login.step z player .answer).hasAnswered = true := by
  obtain ⟨heads, server, unanswered⟩ := waits
  obtain ⟨stays, empty, answer, token_eq, octets, written, heard⟩ := exchange
  have owed : login.owed? = login.client.token := by
    unfold owed?
    rw [unanswered]
    rfl
  by_cases known : login.client.token = none
  · exact .inl (owed.trans known)
  · obtain ⟨rfl, payloads_eq, reached⟩ := heads.arrived_of_token empty known
    obtain ⟨counted, drained⟩ := Player.rests_of_answer z answer empty
    have stepped : login.step z player .answer =
        { login with
          client := answering
          sent := login.sent ++ response
          hasAnswered := true } := by
      unfold step
      dsimp only
      rw [owed, token_eq]
      dsimp only
      rw [answer]
    rw [stepped]
    refine .inr ⟨⟨server, heads.seen, counted, drained, ⟨packets, ?_, ?_⟩, ?_, heads.fault⟩, rfl⟩
    · rw [reached, written, List.drop_left]
      exact heard
    · rw [payloads_eq]
      rfl
    · exact .inr (heads.token.resolve_left known)

/-! ## The whole login -/

/-- Where a login is heading that ends at `d` and `after`, with `packets` decoded. -/
inductive Follows (z : Zlib.Library) (player : Player) (packets : List Bytes) (d : Connection α)
    (after : Client) (login : Login α) : Prop where
  /-- A request is on its way, or its answer is owed. -/
  | waits {c : Connection α} {asked answering : Client} {token request response : Bytes}
      {later : List Bytes}
      (exchange : Exchange z player c asked answering token response later d after)
      (all : packets = request :: later) (waits : Waits z request c asked response d login)
  /-- There is nothing to answer any more. -/
  | heads (heads : Heads z packets d after login)
      (settled : login.hasAnswered = true ∨ ∀ payload ∈ packets, ¬ Client.isRequest payload)

namespace Follows

theorem owed?_eq_none (heads : Heads z packets d after login)
    (settled : login.hasAnswered = true ∨ ∀ payload ∈ packets, ¬ Client.isRequest payload) :
    login.owed? = none := by
  rcases settled with answered | quiet
  · exact owed?_of_hasAnswered answered
  · rcases heads.token with none' | ⟨payload, member, asks⟩
    · unfold owed?
      rw [none', ite_self]
    · exact absurd asks (quiet payload (heads.payloads_prefix.subset member))

/-- Whatever happens next, the login is heading for the same. -/
theorem step (follows : Follows z player packets d after login) (stays : d.isClosed = false)
    (delivery : Delivery) : Follows z player packets d after (login.step z player delivery) := by
  cases follows with
  | waits exchange all waits =>
    cases delivery with
    | toServer count => exact .waits exchange all (waits.toServer exchange.stays stays count)
    | toClient count => exact .waits exchange all (waits.toClient count)
    | answer =>
      rcases waits.answer exchange with nothing | ⟨heads, answered⟩
      · rw [step_answer nothing]
        exact .waits exchange all waits
      · exact .heads (all ▸ heads) (.inl answered)
  | heads heads settled =>
    cases delivery with
    | toServer count => exact .heads (heads.toServer stays count) settled
    | toClient count => exact .heads (heads.toClient count) settled
    | answer =>
      rw [step_answer (owed?_eq_none heads settled)]
      exact .heads heads settled

theorem run (follows : Follows z player packets d after login) (stays : d.isClosed = false)
    (deliveries : List Delivery) :
    Follows z player packets d after (login.run z player deliveries) := by
  unfold Login.run
  induction deliveries generalizing login with
  | nil => exact follows
  | cons delivery rest ih => exact ih (follows.step stays delivery)

/-- At every moment, nothing has gone wrong. -/
theorem sound (follows : Follows z player packets d after login) (stays : d.isClosed = false) :
    login.payloads <+: packets ∧ login.fault? = none ∧ login.connection.isClosed = false := by
  cases follows with
  | waits exchange all waits =>
    refine ⟨?_, waits.heads.fault, waits.server.isClosed stays⟩
    rw [all]
    exact waits.heads.payloads_prefix.trans ⟨_, rfl⟩
  | heads heads settled => exact ⟨heads.payloads_prefix, heads.fault, heads.server.isClosed stays⟩

/-- **When nothing is on its way and nothing is owed, the login is over.** -/
theorem quiet (follows : Follows z player packets d after login) (quiet : login.IsQuiet) :
    login.connection = d ∧ login.client = after ∧ login.payloads = packets := by
  obtain ⟨sent, unread, owed⟩ := quiet
  cases follows with
  | waits exchange all waits =>
    obtain ⟨-, there, -⟩ := waits.heads.arrived sent unread
    unfold owed? at owed
    rw [waits.unanswered, there, exchange.token] at owed
    cases owed
  | heads heads settled => exact heads.arrived sent unread

/-- **There is always a way to the end.** -/
theorem exists_quiet (follows : Follows z player packets d after login)
    (stays : d.isClosed = false) : ∃ more, (login.run z player more).IsQuiet := by
  obtain ⟨first, sent, unread⟩ := @exists_exhausted α z player login
  cases follows.run stays first with
  | waits exchange all waits =>
    rcases waits.answer exchange with nothing | ⟨heads, answered⟩
    · exact ⟨first, sent, unread, nothing⟩
    · obtain ⟨second, sent', unread'⟩ :=
        @exists_exhausted α z player ((login.run z player first).step z player .answer)
      refine ⟨first ++ .answer :: second, ?_⟩
      rw [run_append]
      exact ⟨sent', unread', owed?_of_hasAnswered (hasAnswered_run answered second)⟩
  | heads heads settled => exact ⟨first, sent, unread, owed?_eq_none heads settled⟩

end Follows

end Login

end GameTransport
