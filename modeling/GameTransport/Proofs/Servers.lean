import GameTransport.Proofs.Posts
import GameTransport.Server

/-! # What a server keeps

A server keeps a table of the connections that have not closed.  Whatever it is asked for, there are never
more of them than its configuration allows, and no two have the same number as long as 64 bits do not
run out (`Server.sound_run`).  What is done to one connection leaves all others as they were
(`Server.connection?_step`, `Server.connection?_accept`).  When a server is shut down, none is left once
each has delivered what was posted (`Server.connections_shutDown`).
-/

namespace GameTransport

/-! ## Connections that are asked to close -/

namespace Connection

variable {α : Type} {registries : StateRegistries (Session α)} {z : Zlib.Library} {c : Connection α}

/-- Among messages with a close, one ends the connection. -/
theorem isClosed_deliverAll (serving : c.phase = .serving) {messages : List Message}
    (asked : .disconnect ∈ messages) : (c.deliverAll registries z messages).isClosed := by
  induction messages generalizing c with
  | nil => cases asked
  | cons message rest ih =>
    rw [deliverAll, serving]
    dsimp only
    cases message with
    | disconnect =>
      rw [deliverMessage, Task.Follows.deliverAll_close]
      exact isClosed_close (.ok ()) _
    | packet packet =>
      have later : .disconnect ∈ rest := by
        rcases List.mem_cons.mp asked with same | later
        · cases same
        · exact later
      rw [deliverMessage]
      rcases c.conversation.push z packet with ⟨_, d⟩ | ⟨fault, d⟩
      · exact ih serving later
      · dsimp only
        rw [Task.Follows.deliverAll_close]
        exact isClosed_close (.error fault) d

theorem isClosed_delivered (serving : c.phase = .serving) (asked : .disconnect ∈ c.mailbox) :
    (c.step registries z .delivered).isClosed := by
  obtain ⟨conversation, readTimeout, phase, buffer, mailbox, silence, notes⟩ := c
  cases serving
  exact isClosed_deliverAll rfl asked

/-- A connection with room in its mailbox takes a message. -/
theorem post_of_room (running : c.isClosed = false) (room : c.mailbox.length < mailboxSize)
    (message : Message) :
    c.post message = .ok { c with mailbox := c.mailbox ++ [message] } := by
  rw [post, running, Bool.false_or, if_neg]
  rw [decide_eq_true_eq]
  exact Nat.not_le.mpr room

/-- Posting opens and closes nothing. -/
theorem isClosed_posted (c : Connection α) (message : Message) :
    ((c.post message).toOption.getD c).isClosed = c.isClosed := by
  rw [post]
  split <;> rfl

end Connection

namespace Server

/-! ## Tables -/

section Table

variable {β γ : Type} {id other : ConnectionId}

theorem lookup_map (change : ConnectionId → β → γ) (table : List (ConnectionId × β)) :
    (table.map fun entry => (entry.1, change entry.1 entry.2)).lookup id =
      (table.lookup id).map (change id) := by
  induction table with
  | nil => rfl
  | cons entry rest ih =>
    rw [List.map_cons, List.lookup_cons, List.lookup_cons, ih]
    by_cases here : id = entry.1
    · rw [here, beq_self_eq_true]
      rfl
    · rw [beq_false_of_ne here]

theorem lookup_filter (table : List (ConnectionId × β)) :
    (table.filter (·.1 != id)).lookup other = if other = id then none else table.lookup other := by
  induction table with
  | nil => exact (ite_self none).symm
  | cons entry rest ih =>
    by_cases dropped : entry.1 = id
    · rw [List.filter_cons_of_neg (by simpa using dropped), ih, List.lookup_cons]
      split
      · rfl
      · rename_i away
        rw [beq_false_of_ne (dropped ▸ away)]
    · rw [List.filter_cons_of_pos (by simpa using dropped), List.lookup_cons, List.lookup_cons, ih]
      by_cases here : other = entry.1
      · subst here
        rw [beq_self_eq_true]
        exact (if_neg dropped).symm
      · rw [beq_false_of_ne here]

end Table

variable {α : Type} {registries : StateRegistries (Session α)} {z : Zlib.Library}
  {server : Server α} {id other : ConnectionId} {c : Connection α}

/-- The numbers of the connections that have not closed. -/
def ids (server : Server α) : List ConnectionId := server.connections.map (·.1)

/-- A connection that is put back takes the place that it had. -/
theorem connections_put (server : Server α) (id : ConnectionId) (c : Connection α) :
    (server.put id c).connections =
      if c.isClosed then server.connections.filter (·.1 != id)
      else server.connections.map fun entry => (entry.1, if entry.1 = id then c else entry.2) := by
  rw [put]
  dsimp only
  split
  · rfl
  · refine List.map_congr_left fun entry _ => ?_
    split
    · rename_i same
      rw [same]
    · rfl

theorem connection?_put (server : Server α) (id other : ConnectionId) (c : Connection α) :
    (server.put id c).connection? other =
      if other = id then if c.isClosed then none else (server.connection? id).map fun _ => c
      else server.connection? other := by
  rw [connection?, connections_put]
  by_cases closed : c.isClosed
  · rw [if_pos closed, if_pos closed, lookup_filter]
    rfl
  · rw [if_neg closed, if_neg closed, lookup_map (fun key before => if key = id then c else before)]
    by_cases here : other = id
    · subst here
      simp only [if_true]
      rfl
    · simp only [if_neg here, Option.map_id']
      rfl

/-! ## What is done to one connection -/

/-- What an event makes of a connection of a server; none if it closes. -/
def after (registries : StateRegistries (Session α)) (z : Zlib.Library) (event : Event)
    (server : Server α) (c : Connection α) : Option (Connection α) :=
  let c := (server.lendMetrics c).step registries z event
  if c.isClosed then none else some c

/-- **An event concerns one connection**, and leaves all others as they were. -/
theorem connection?_step (registries : StateRegistries (Session α)) (z : Zlib.Library)
    (server : Server α) (id other : ConnectionId) (event : Event) :
    (server.step registries z id event).connection? other =
      if other = id then (server.connection? id).bind (server.after registries z event)
      else server.connection? other := by
  rw [step]
  rcases known : server.connection? id with _ | c
  · dsimp only
    split
    · rename_i same
      rw [same, known]
      rfl
    · rfl
  · dsimp only
    rw [connection?_put]
    change (if other = id then if _ then none else (server.connection? id).map _ else _) = _
    rw [known]
    rfl

/-- A client that is accepted or turned away leaves all others as they were. -/
theorem connection?_accept (registries : StateRegistries (Session α)) (peer : SocketAddress)
    (entropy : Entropy) (app : α) (server : Server α) (away : other ≠ server.supply.take.1) :
    (server.accept registries peer entropy app).2.connection? other = server.connection? other := by
  rw [accept]
  split
  · rfl
  · dsimp only
    rw [connection?_put, if_neg away, connection?, List.lookup_append, List.lookup_cons,
      beq_false_of_ne away]
    exact Option.or_none

/-- A message is posted on every connection, and nothing else happens. -/
theorem connection?_post (message : Message) (server : Server α) (id : ConnectionId) :
    (server.post message).connection? id =
      (server.connection? id).map fun c => (c.post message).toOption.getD c := by
  let posted (_ : ConnectionId) (c : Connection α) : Connection α :=
    (c.post message).toOption.getD c
  exact lookup_map posted server.connections

/-- A connection with room in its mailbox is asked to close behind what was posted before. -/
theorem connection?_shutDown (known : server.connection? id = some c) (serving : c.phase = .serving)
    (room : c.mailbox.length < Connection.mailboxSize) :
    server.shutDown.connection? id = some { c with mailbox := c.mailbox ++ [.disconnect] } := by
  have running : c.isClosed = false := congrArg Phase.isClosed serving
  rw [shutDown, connection?_post, known, Option.map_some, Connection.post_of_room running room]
  rfl

theorem mem_ids (known : server.connection? id = some c) : id ∈ server.ids := by
  obtain ⟨entry, among, same⟩ := List.lookup_isSome_iff.mp (Option.isSome_of_eq_some known)
  rw [beq_iff_eq.mp same]
  exact List.mem_map_of_mem among

/-- One that was asked to close is gone once it has delivered what was posted. -/
theorem after_delivered (serving : c.phase = .serving) (asked : .disconnect ∈ c.mailbox) :
    server.after registries z .delivered c = none := by
  have closed : ((server.lendMetrics c).step registries z .delivered).isClosed :=
    Connection.isClosed_delivered serving asked
  exact if_pos closed

theorem connections_eq_nil (none : ∀ id c, server.connection? id ≠ some c) :
    server.connections = [] := by
  rcases found : server.connections with _ | ⟨⟨id, c⟩, rest⟩
  · rfl
  · have known : server.connection? id = some c := by
      rw [connection?, found, List.lookup_cons_self]
    exact absurd known (none id c)

/-- Once all connections have delivered a close, none is left. -/
theorem connections_delivered (registries : StateRegistries (Session α)) (z : Zlib.Library)
    (ids : List ConnectionId) (asked : ∀ id c, server.connection? id = some c →
      id ∈ ids ∧ c.phase = .serving ∧ .disconnect ∈ c.mailbox) :
    (server.run registries z (ids.map fun id => .event id .delivered)).connections = [] := by
  induction ids generalizing server with
  | nil => exact connections_eq_nil fun id c known => List.not_mem_nil (asked id c known).1
  | cons first rest ih =>
    refine ih fun id c known => ?_
    change (server.step registries z first .delivered).connection? id = some c at known
    rw [connection?_step] at known
    split at known
    · obtain ⟨before, known', left⟩ := Option.bind_eq_some_iff.mp known
      obtain ⟨-, serving, close⟩ := asked first before known'
      rw [after_delivered serving close] at left
      cases left
    · rename_i away
      obtain ⟨among, ready⟩ := asked id c known
      exact ⟨(List.mem_cons.mp among).resolve_left away, ready⟩

/-- **A server that is shut down loses all its connections**, whatever their handlers and hooks are and
whatever was posted before, once each has delivered what was posted, provided that all serve their clients
and that no mailbox is full. -/
theorem connections_shutDown (registries : StateRegistries (Session α)) (z : Zlib.Library)
    (ready : ∀ id c, server.connection? id = some c →
      c.phase = .serving ∧ c.mailbox.length < Connection.mailboxSize) :
    (server.run registries z
      (.shutDown :: server.ids.map fun id => .event id .delivered)).connections = [] := by
  change (server.shutDown.run registries z _).connections = []
  refine connections_delivered registries z server.ids fun id c known => ?_
  obtain ⟨before, known', -⟩ := Option.map_eq_some_iff.mp
    ((connection?_post .disconnect server id).symm.trans known)
  obtain ⟨serving, room⟩ := ready id before known'
  rw [connection?_shutDown known' serving room] at known
  cases known
  exact ⟨mem_ids known', serving, List.mem_append_right _ (List.mem_singleton.mpr rfl)⟩

/-! ## What a server keeps -/

/-- A server that has given out some numbers. -/
structure Numbered (config : ServerConfig) (given : Nat) (server : Server α) : Prop where
  configured : server.context.config = config
  /-- The next number is the number of numbers that were given out, as far as it fits 64 bits. -/
  supply : server.supply.next = UInt64.ofNat given
  earlier : ∀ id ∈ server.ids, id.value.toNat < given
  /-- No two connections have the same number. -/
  distinct : server.ids.Nodup
  /-- There are no more connections than are allowed. -/
  within : server.connectionCount ≤ config.maxConnections.toNat

/-- Besides, no connection has closed. -/
structure Sound (config : ServerConfig) (given : Nat) (server : Server α) : Prop
    extends Numbered config given server where
  running : ∀ entry ∈ server.connections, entry.2.isClosed = false

section Keeps

variable {config : ServerConfig} {given : Nat}

theorem ids_put (server : Server α) (id : ConnectionId) (c : Connection α) :
    List.Sublist (server.put id c).ids server.ids := by
  rw [ids, connections_put, ids]
  split
  · exact List.filter_sublist.map _
  · rw [List.map_map]
    exact List.Sublist.refl _

theorem Numbered.takeMetrics (numbered : Numbered config given server) (c : Connection α) :
    Numbered config given (server.takeMetrics c) :=
  ⟨numbered.configured, numbered.supply, numbered.earlier, numbered.distinct, numbered.within⟩

theorem Numbered.put (numbered : Numbered config given server) (id : ConnectionId)
    (c : Connection α) : Numbered config given (server.put id c) where
  configured := numbered.configured
  supply := numbered.supply
  earlier other found := numbered.earlier other ((ids_put server id c).subset found)
  distinct := (ids_put server id c).nodup numbered.distinct
  within := by
    have shorter := (ids_put server id c).length_le
    rw [ids, ids, List.length_map, List.length_map] at shorter
    exact Nat.le_trans shorter numbered.within

/-- A connection that is put back has not closed, or is not put back. -/
theorem running_put (others : ∀ entry ∈ server.connections, entry.1 ≠ id → entry.2.isClosed = false) :
    ∀ entry ∈ (server.put id c).connections, entry.2.isClosed = false := by
  intro entry found
  rw [connections_put] at found
  split at found
  · obtain ⟨among, away⟩ := List.mem_filter.mp found
    exact others entry among (by simpa using away)
  · rename_i going
    obtain ⟨before, among, rfl⟩ := List.mem_map.mp found
    dsimp only
    split
    · exact Bool.eq_false_iff.mpr going
    · rename_i away
      exact others before among away

theorem Sound.start {key : ServerKey} (started : Server.start config key = .ok server) :
    Sound config 0 server := by
  unfold Server.start at started
  split at started <;> cases started
  exact ⟨⟨rfl, rfl, fun _ found => (List.not_mem_nil found).elim, List.nodup_nil, Nat.zero_le _⟩,
    fun _ found => (List.not_mem_nil found).elim⟩

theorem Sound.step (sound : Sound config given server) (id : ConnectionId) (event : Event) :
    Sound config given (server.step registries z id event) := by
  rw [Server.step]
  split
  · exact sound
  · exact ⟨(sound.toNumbered.takeMetrics _).put id _,
      running_put fun entry among _ => sound.running entry among⟩

theorem Sound.post (sound : Sound config given server) (message : Message) :
    Sound config given (server.post message) := by
  have same : (server.post message).ids = server.ids := List.map_map
  refine ⟨⟨sound.configured, sound.supply, same ▸ sound.earlier, same ▸ sound.distinct, ?_⟩, ?_⟩
  · rw [connectionCount, Server.post, List.length_map]
    exact sound.within
  · intro entry found
    obtain ⟨before, among, rfl⟩ := List.mem_map.mp found
    exact (Connection.isClosed_posted before.2 message).trans (sound.running before among)

/-- The server with one more connection, which may have closed at once. -/
def admitted (registries : StateRegistries (Session α)) (peer : SocketAddress) (entropy : Entropy)
    (app : α) (server : Server α) : Server α :=
  let (id, supply) := server.supply.take
  let c := Connection.start registries
    { id, peer := some peer, server := server.context, entropy, app }
  { server.takeMetrics c with supply, connections := server.connections ++ [(id, c)] }

theorem ids_admitted (registries : StateRegistries (Session α)) (peer : SocketAddress)
    (entropy : Entropy) (app : α) (server : Server α) :
    (server.admitted registries peer entropy app).ids = server.ids ++ [server.supply.take.1] :=
  List.map_append

/-- The next number, which nobody has. -/
theorem Numbered.next (numbered : Numbered config given server) (left : given < 2 ^ 64) :
    server.supply.take.1.value.toNat = given ∧ ∀ id ∈ server.ids, id ≠ server.supply.take.1 := by
  have next : server.supply.take.1.value.toNat = given := by
    rw [ConnectionId.Supply.take, numbered.supply]
    exact UInt64.toNat_ofNat_of_lt' left
  refine ⟨next, ?_⟩
  rintro id found rfl
  have earlier := numbered.earlier _ found
  rw [next] at earlier
  exact Nat.lt_irrefl given earlier

theorem Numbered.admitted (numbered : Numbered config given server) (left : given < 2 ^ 64)
    (room : server.connectionCount < config.maxConnections.toNat) (peer : SocketAddress)
    (entropy : Entropy) (app : α) :
    Numbered config (given + 1) (server.admitted registries peer entropy app) := by
  obtain ⟨next, fresh⟩ := numbered.next left
  refine ⟨numbered.configured, ?_, ?_, ?_, ?_⟩
  · change server.supply.next + 1 = _
    rw [numbered.supply, UInt64.ofNat_add]
    rfl
  · intro id found
    rw [ids_admitted, List.mem_append, List.mem_singleton] at found
    rcases found with among | rfl
    · exact Nat.lt_succ_of_lt (numbered.earlier id among)
    · exact next ▸ Nat.lt_succ_self _
  · rw [ids_admitted, List.nodup_append]
    refine ⟨numbered.distinct, List.pairwise_singleton _ _, fun id among other last => ?_⟩
    rw [List.mem_singleton.mp last]
    exact fresh id among
  · change (server.connections ++ [_]).length ≤ _
    rw [List.length_append]
    exact room

/-- Whether a client is accepted or turned away. -/
theorem Sound.accept (sound : Sound config given server) (left : given < 2 ^ 64)
    (peer : SocketAddress) (entropy : Entropy) (app : α) :
    ∃ given' ≤ given + 1, Sound config given' (server.accept registries peer entropy app).2 := by
  rw [Server.accept]
  split
  · exact ⟨given, Nat.le_succ given,
      ⟨sound.configured, sound.supply, sound.earlier, sound.distinct, sound.within⟩, sound.running⟩
  · rename_i room
    rw [sound.configured, Nat.not_le] at room
    have admitted := @Numbered.admitted α registries server config given sound.toNumbered left room peer
      entropy app
    refine ⟨given + 1, Nat.le_refl _, admitted.put _ _, running_put fun entry found away => ?_⟩
    rcases List.mem_append.mp found with among | last
    · exact sound.running entry among
    · cases List.mem_singleton.mp last
      exact absurd rfl away

theorem Sound.serve (sound : Sound config given server) (left : given < 2 ^ 64)
    (request : Request α) :
    ∃ given' ≤ given + 1, Sound config given' (server.serve registries z request) := by
  cases request with
  | accept peer entropy app => exact sound.accept left peer entropy app
  | event id event => exact ⟨given, Nat.le_succ given, sound.step id event⟩
  | post message => exact ⟨given, Nat.le_succ given, sound.post message⟩
  | shutDown => exact ⟨given, Nat.le_succ given, sound.post .disconnect⟩

theorem Sound.run (sound : Sound config given server) (requests : List (Request α))
    (left : given + requests.length ≤ 2 ^ 64) :
    ∃ given' ≤ given + requests.length, Sound config given' (server.run registries z requests) := by
  induction requests generalizing server given with
  | nil => exact ⟨given, Nat.le_refl _, sound⟩
  | cons request rest ih =>
    rw [List.length_cons] at left
    obtain ⟨next, bound, sound⟩ :=
      @Sound.serve α registries z server config given sound (by omega) request
    obtain ⟨last, bound', sound⟩ := ih sound (by omega)
    exact ⟨last, by rw [List.length_cons]; omega, sound⟩

end Keeps

/-- **There are never more connections than allowed, and no two have the same number**, whatever a server
is asked for, as long as there are numbers left. -/
theorem sound_run {config : ServerConfig} {key : ServerKey}
    (started : start config key = .ok server) (registries : StateRegistries (Session α))
    (z : Zlib.Library) (requests : List (Request α)) (left : requests.length ≤ 2 ^ 64) :
    ∃ given ≤ requests.length, Sound config given (server.run registries z requests) := by
  have sound := @Sound.run α registries z server config 0 (.start started) requests (by omega)
  rwa [Nat.zero_add] at sound

/-- How many connections take a packet that is sent to all of them: those whose mailbox has room. -/
theorem Sound.fst_broadcast {config : ServerConfig} {given : Nat} {β : Type} [Packet β]
    (sound : Sound config given server) (packet : β) :
    (server.broadcast packet).1 =
      server.connections.countP fun entry =>
        decide (entry.2.mailbox.length < Connection.mailboxSize) := by
  rw [broadcast, ← List.countP_eq_length_filter]
  refine List.countP_congr fun entry found => ?_
  have taken := @Task.isOk_post α entry.2 (.packet (Packet.encode packet))
  rw [sound.running entry found, eq_self, true_and] at taken
  rw [decide_eq_true_eq, ← taken]
  dsimp only
  rcases entry.2.post (.packet (Packet.encode packet)) with fault | c <;> exact Iff.rfl

end Server

end GameTransport
