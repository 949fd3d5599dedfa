import GameTransport.Proofs.Kinds
import GameTransport.Proofs.Registrations

/-! # A handler runs just if the whole payload is one packet

`Judged` says what a payload is to a table before any handler has run.  Each of its cases stands behind
those above it, so there is one verdict and no more (`exists_judged`, `Judged.unique`), and a dispatch
answers with it (`Judged.dispatch_eq`).  Four verdicts of five leave the context alone
(`Verdict.stateOf_answer`).  The fifth gives the packet to the handler, if there is one, and what the
handler makes of the context stands.

The packets that handlers are given can be read off a context in which they keep a log (`Logs`).  The
verdict says what is added to it (`Judged.log_answer`).
-/

namespace GameTransport

variable {ι σ : Type} [Packet.Family ι]

/-- The name of the kind. -/
def Registration.name (registration : Registration ι σ) : String :=
  Packet.name (Packet.Family.Value registration.kind)

/-! ### One entry -/

namespace Entry

variable {α : Type} [packet : Packet α] {handler? : Option (Handler σ α)} {body rest : Bytes}
  {value : α} {fault : Fault}

theorem run_of_error (failed : packet.read body = .error fault rest) (context : σ) :
    (Entry.mk α packet handler?).run body context = .error fault context := by
  simp only [run, failed]

theorem run_of_rest (read : packet.read body = .ok value rest) (extra : rest ≠ []) (context : σ) :
    (Entry.mk α packet handler?).run body context =
      .error (.trailingBytes packet.name rest.length) context := by
  obtain ⟨b, rest, rfl⟩ := List.exists_cons_of_ne_nil extra
  simp only [run, read, name]

theorem run_of_whole (read : packet.read body = .ok value []) (context : σ) :
    (Entry.mk α packet handler?).run body context =
      match handler? with
      | none => .ok false context
      | some handler =>
        match handler value context with
        | .ok () context => .ok true context
        | .error fault context => .error (.handler packet.name fault) context := by
  simp only [run, read]
  cases handler? with
  | none => rfl
  | some handler => rfl

end Entry

namespace Registry

open Builder (Holding Holds performAll)

/-! ### Verdicts -/

/-- What a payload is to a table. -/
inductive Verdict (ι σ : Type) [Packet.Family ι] where
  /-- No number stands in front. -/
  | numberless (fault : Fault)
  /-- Nothing is registered at the number. -/
  | unknown (id : UInt32)
  /-- The body is not a packet of the kind. -/
  | unread (fault : Fault)
  /-- Octets are left over. -/
  | trailing (packet : String) (remaining : Nat)
  /-- The body is a packet of the kind, and nothing more. -/
  | whole (registration : Registration ι σ) (value : Packet.Family.Value registration.kind)

/-- The verdict on a body, by what is registered at its number. -/
inductive Opened (registration : Registration ι σ) (body : Bytes) : Verdict ι σ → Prop where
  | unread {fault : Fault} {rest : Bytes}
    (failed : (Packet.read : Reader (Packet.Family.Value registration.kind)) body =
      .error fault rest) : Opened registration body (.unread fault)
  | trailing {value : Packet.Family.Value registration.kind} {rest : Bytes}
    (read : Packet.read body = .ok value rest) (extra : rest ≠ []) :
    Opened registration body (.trailing registration.name rest.length)
  | whole {value : Packet.Family.Value registration.kind}
    (read : Packet.read body = .ok value []) : Opened registration body (.whole registration value)

/-- The verdict on a payload, by what stands in the table. -/
inductive Judged (map : Holding ι σ) (payload : Bytes) : Verdict ι σ → Prop where
  | numberless {fault : Fault} {rest : Bytes} (unread : Varint.readU32 payload = .error fault rest) :
    Judged map payload (.numberless fault)
  | unknown {id : UInt32} {body : Bytes} (number : Varint.readU32 payload = .ok id body)
    (absent : map id = none) : Judged map payload (.unknown id)
  | registered {id : UInt32} {body : Bytes} {registration : Registration ι σ}
    {verdict : Verdict ι σ} (number : Varint.readU32 payload = .ok id body)
    (known : map id = some registration) (opened : Opened registration body verdict) :
    Judged map payload verdict

namespace Verdict

/-- What a dispatch answers, and what it leaves. -/
def answer (table : String) (context : σ) : Verdict ι σ → EStateM.Result Fault σ Dispatched
  | numberless fault => .error fault context
  | unknown id => .error (.unknownPacket table id) context
  | unread fault => .error fault context
  | trailing packet remaining => .error (.trailingBytes packet remaining) context
  | whole registration value =>
    match registration.handler with
    | none => .ok ⟨registration.id, registration.name, false⟩ context
    | some handler =>
      match handler value context with
      | .ok () context => .ok ⟨registration.id, registration.name, true⟩ context
      | .error fault context => .error (.handler registration.name fault) context

/-- The packets that are given to a handler, one call after another. -/
def handed : Verdict ι σ → List (Packet.Any ι)
  | whole ⟨kind, some _⟩ value => [⟨kind, value⟩]
  | whole ⟨_, none⟩ _ | numberless _ | unknown _ | unread _ | trailing _ _ => []

end Verdict

/-- The handlers of a table keep a log in the context, also where they fail. -/
def Logs (map : Holding ι σ) (log : σ → List (Packet.Any ι)) : Prop :=
  ∀ id kind (handler : Handler σ (Packet.Family.Value kind)), map id = some ⟨kind, some handler⟩ →
    ∀ value context, log (stateOf (handler value context)) = log context ++ [⟨kind, value⟩]

/-! ### There is one verdict -/

section

variable {map : Holding ι σ} {registration : Registration ι σ} {payload body : Bytes}
  {verdict other : Verdict ι σ}

theorem exists_opened (registration : Registration ι σ) (body : Bytes) :
    ∃ verdict, Opened registration body verdict := by
  rcases read : (Packet.read : Reader (Packet.Family.Value registration.kind)) body with
    ⟨value, rest⟩ | ⟨fault, rest⟩
  · by_cases whole : rest = []
    · subst whole
      exact ⟨_, .whole read⟩
    · exact ⟨_, .trailing read whole⟩
  · exact ⟨_, .unread read⟩

theorem exists_judged (map : Holding ι σ) (payload : Bytes) :
    ∃ verdict, Judged map payload verdict := by
  rcases number : Varint.readU32 payload with ⟨id, body⟩ | ⟨fault, rest⟩
  · rcases known : map id with _ | registration
    · exact ⟨_, .unknown number known⟩
    · obtain ⟨verdict, opened⟩ := exists_opened registration body
      exact ⟨verdict, .registered number known opened⟩
  · exact ⟨_, .numberless number⟩

theorem Opened.unique (opened : Opened registration body verdict)
    (opened' : Opened registration body other) : verdict = other := by
  cases opened <;> cases opened' <;> simp_all

theorem Judged.unique (judged : Judged map payload verdict)
    (judged' : Judged map payload other) : verdict = other := by
  cases judged with
  | numberless unread => cases judged' <;> simp_all
  | unknown number absent => cases judged' <;> simp_all
  | registered number known opened =>
    cases judged' with
    | numberless unread' => simp_all
    | unknown number' absent' => simp_all
    | registered number' known' opened' =>
      rw [number] at number'
      cases number'
      rw [known] at known'
      cases known'
      exact opened.unique opened'

/-- The packet and its kind, where a handler is called. -/
theorem Judged.handed_eq_singleton_iff (judged : Judged map payload verdict)
    (packet : Packet.Any ι) :
    verdict.handed = [packet] ↔ ∃ id body handler, Varint.readU32 payload = .ok id body ∧
      map id = some ⟨packet.kind, some handler⟩ ∧ Packet.read body = .ok packet.value [] := by
  constructor
  · intro handed
    cases judged with
    | numberless unread => cases handed
    | unknown number absent => cases handed
    | registered number known opened =>
      cases opened with
      | unread failed => cases handed
      | trailing read extra => cases handed
      | whole read =>
        rename_i id body registration value
        obtain ⟨kind, _ | handler⟩ := registration
        · cases handed
        · cases handed
          exact ⟨id, body, handler, number, known, read⟩
  · rintro ⟨id, body, handler, number, known, read⟩
    rw [judged.unique (.registered number known (.whole read))]
    rfl

theorem Verdict.stateOf_answer (verdict : Verdict ι σ) (table : String) (context : σ)
    (idle : verdict.handed = []) : stateOf (verdict.answer table context) = context := by
  cases verdict with
  | whole registration value =>
    obtain ⟨kind, _ | handler⟩ := registration
    · rfl
    · cases idle
  | numberless | unknown | unread | trailing => rfl

/-- No handler is called twice. -/
theorem Verdict.handed_eq_nil (verdict : Verdict ι σ)
    (no : ∀ packet, verdict.handed ≠ [packet]) : verdict.handed = [] := by
  cases verdict with
  | whole registration value =>
    obtain ⟨kind, _ | handler⟩ := registration
    · rfl
    · exact absurd rfl (no ⟨kind, value⟩)
  | numberless | unknown | unread | trailing => rfl

/-- What the verdict gives to a handler is what is added to the log. -/
theorem Judged.log_answer (judged : Judged map payload verdict) {log : σ → List (Packet.Any ι)}
    (logs : Logs map log) (table : String) (context : σ) :
    log (stateOf (verdict.answer table context)) = log context ++ verdict.handed := by
  by_cases idle : verdict.handed = []
  · rw [verdict.stateOf_answer table context idle, idle, List.append_nil]
  · cases judged with
    | numberless unread => exact absurd rfl idle
    | unknown number absent => exact absurd rfl idle
    | registered number known opened =>
      cases opened with
      | unread failed => exact absurd rfl idle
      | trailing read extra => exact absurd rfl idle
      | whole read =>
        rename_i id body registration value
        obtain ⟨kind, _ | handler⟩ := registration
        · exact absurd rfl idle
        · have added := logs id kind handler known value context
          simp only [Verdict.answer, Verdict.handed]
          rcases done : handler value context with ⟨_, after⟩ | ⟨fault, after⟩
          · rw [done] at added
            exact added
          · rw [done] at added
            exact added

/-! ### Dispatches -/

variable [DecidableEq ι] {builder : Builder σ} {id : UInt32}

/-- What is built does with a body what is registered at the number would do. -/
theorem dispatch_of_known (holds : Holds builder map)
    (number : Varint.readU32 payload = .ok id body) (known : map id = some registration)
    (context : σ) :
    builder.build.dispatch payload context =
      match registration.shown.run body context with
      | .ok handled context => .ok ⟨registration.id, registration.name, handled⟩ context
      | .error fault context => .error fault context := by
  have found : builder.build.entry? id = some registration.entry := by
    rw [Builder.entry?_build holds.distinct, holds.found, known]
    rfl
  have ran := (Builder.matched registration).run body context
  rw [dispatch, number]
  dsimp only
  rw [found, ← holds.id_eq known]
  dsimp only
  rw [ran]
  rfl

/-- **A dispatch answers with the verdict.** -/
theorem Judged.dispatch_eq (judged : Judged map payload verdict) (holds : Holds builder map)
    (context : σ) :
    builder.build.dispatch payload context = verdict.answer builder.name context := by
  cases judged with
  | numberless unread => simp only [dispatch, unread, Verdict.answer]
  | @unknown id body number absent =>
    have missing : builder.build.entry? id = none := by
      rw [Builder.entry?_build holds.distinct, holds.found, absent]
      rfl
    simp only [dispatch, number, missing, Verdict.answer]
    rfl
  | @registered id body registration verdict number known opened =>
    rw [dispatch_of_known holds number known]
    cases opened with
    | unread failed =>
      have ran : registration.shown.run body context = .error _ context :=
        Entry.run_of_error failed context
      rw [ran]
      rfl
    | trailing read extra =>
      have ran : registration.shown.run body context =
          .error (.trailingBytes registration.name _) context :=
        Entry.run_of_rest read extra context
      rw [ran]
      rfl
    | @whole value read =>
      obtain ⟨kind, handler?⟩ := registration
      have ran := @Entry.run_of_whole _ _ _ handler? _ _ read context
      change (match (Entry.mk _ _ handler?).run body context with
        | .ok handled context => _
        | .error fault context => _) = _
      rw [ran]
      cases handler? with
      | none => rfl
      | some handler =>
        simp only [Verdict.answer]
        rcases handler value context with ⟨_, after⟩ | ⟨fault, after⟩ <;> rfl

/-! ### The result -/

omit [DecidableEq ι] in
theorem judged_encode {kind : ι} {value : Packet.Family.Value kind}
    {handler : Handler σ (Packet.Family.Value kind)} (back : Packet.ReadsBack value)
    (known : map (Packet.id (Packet.Family.Value kind)) = some ⟨kind, some handler⟩) :
    Judged map (Packet.encode value) (.whole ⟨kind, some handler⟩ value) :=
  .registered (Varint.readU32_encode_toNat _ _) known (.whole back.whole)

theorem name_performAll (builder : Builder σ) (calls : List (Builder.Call ι σ)) :
    (builder.performAll calls).name = builder.name := by
  induction calls generalizing builder with
  | nil => rfl
  | cons call rest ih =>
    have kept : (builder.perform call).name = builder.name := by cases call <;> rfl
    exact (ih (builder.perform call)).trans kept

/-- Hooks are no matter of the table. -/
theorem holds_performAll (name : String) (attach detach : σ → σ) (caught : Fault → σ → σ)
    (calls : List (Builder.Call ι σ)) :
    Holds (performAll { name, attach, detach, caught } calls) (Builder.Call.noteAll calls) := by
  have start : Holds { name, attach, detach, caught } (fun _ => none : Holding ι σ) :=
    ⟨List.nodup_nil, fun _ => rfl⟩
  exact start.performAll calls

/-- **A handler runs just if the whole payload is one packet of its kind**, and then once and with that
packet. -/
theorem handler_runs_iff_whole_packet (name : String) (attach detach : σ → σ)
    (caught : Fault → σ → σ) :
    (∀ (calls : List (Builder.Call ι σ)) (payload : Bytes),
      let registry := (performAll { name, attach, detach, caught } calls).build
      let map := Builder.Call.noteAll calls
      ∃ verdict, Judged map payload verdict ∧
        (∀ other, Judged map payload other → other = verdict) ∧
        (∀ context, registry.dispatch payload context = verdict.answer name context) ∧
        (∀ packet, verdict.handed = [packet] ↔ ∃ id body handler,
          Varint.readU32 payload = .ok id body ∧ map id = some ⟨packet.kind, some handler⟩ ∧
            Packet.read body = .ok packet.value []) ∧
        ((∀ packet, verdict.handed ≠ [packet]) → verdict.handed = [] ∧
          ∀ context, stateOf (registry.dispatch payload context) = context) ∧
        (∀ log, Logs map log → ∀ context,
          log (stateOf (registry.dispatch payload context)) = log context ++ verdict.handed) ∧
        ∀ kind value handler,
          map (Packet.id (Packet.Family.Value kind)) = some ⟨kind, some handler⟩ →
          Packet.ReadsBack value → payload = Packet.encode value →
          verdict = .whole ⟨kind, some handler⟩ value) ∧
    ∀ (calls : List (Builder.Call Packet.Kind σ)) (kind : Packet.Kind) (value : kind.Value)
      (handler : Handler σ kind.Value), kind.Within value →
      Builder.Call.noteAll calls (Packet.id kind.Value) = some ⟨kind, some handler⟩ →
      ∀ context, (performAll { name, attach, detach, caught } calls).build.dispatch
          (Packet.encode value) context =
        match handler value context with
        | .ok () after => .ok ⟨Packet.id kind.Value, Packet.name kind.Value, true⟩ after
        | .error fault after => .error (.handler (Packet.name kind.Value) fault) after := by
  constructor
  · intro calls payload registry map
    have holds : Holds _ map := holds_performAll name attach detach caught calls
    obtain ⟨verdict, judged⟩ := exists_judged map payload
    have answers (context : σ) :
        registry.dispatch payload context = verdict.answer name context := by
      rw [judged.dispatch_eq holds, name_performAll]
    refine ⟨verdict, judged, fun other judged' => judged'.unique judged, answers,
      judged.handed_eq_singleton_iff, ?_, ?_, ?_⟩
    · intro no
      have idle := verdict.handed_eq_nil no
      refine ⟨idle, ?_⟩
      intro context
      rw [answers, verdict.stateOf_answer name context idle]
    · intro log logs context
      rw [answers, judged.log_answer logs]
    · rintro kind value handler known back rfl
      exact judged.unique (judged_encode back known)
  · intro calls kind value handler inside known context
    have held : Builder.Call.noteAll calls (Packet.id (Packet.Family.Value kind)) =
      some ⟨kind, some handler⟩ := known
    have judged := judged_encode (kind.readsBack value inside) held
    have answered := judged.dispatch_eq (holds_performAll name attach detach caught calls) context
    rw [name_performAll] at answered
    exact answered

end

/-- A handler that keeps a log, and then fails. -/
def logging (kind : Packet.Kind) : Handler (List (Packet.Any Packet.Kind)) kind.Value :=
  fun value log => .error (.invalidData .emptyUsername) (log ++ [⟨kind, value⟩])

/-- Two kinds of one number, the second of them with a handler. -/
def logged : List (Builder.Call Packet.Kind (List (Packet.Any Packet.Kind))) :=
  [.add .pongResponse, .addWith .pingRequest (logging .pingRequest)]

/-- A ping is handed over once, although the handler fails.  With an octet after it, it is not. -/
theorem handler_runs_iff_whole_packet_logged :
    let registry := (performAll { name := "STATUS" } logged).build
    let ping : PingRequest := ⟨7⟩
    Packet.Kind.pingRequest.Within ping ∧ Logs (Builder.Call.noteAll logged) id ∧
      registry.dispatch (Packet.encode ping) [] =
        .error (.handler "PingRequest" (.invalidData .emptyUsername)) [⟨.pingRequest, ping⟩] ∧
      stateOf (registry.dispatch (Packet.encode ping) []) = [⟨.pingRequest, ping⟩] ∧
      stateOf (registry.dispatch (Packet.encode ping ++ [9]) []) = [] := by
  intro registry ping
  obtain ⟨judged, encoded⟩ := @handler_runs_iff_whole_packet Packet.Kind
    (List (Packet.Any Packet.Kind)) _ _ "STATUS" id id (fun _ => id)
  have logs : Logs (Builder.Call.noteAll logged) id := by
    intro number kind handler known value log
    by_cases here : number = 1
    · subst here
      cases known
      rfl
    · have absent : Builder.Call.noteAll logged number = none := by
        have pong : number ≠ Packet.id (Packet.Family.Value Packet.Kind.pongResponse) := here
        have ping : number ≠ Packet.id (Packet.Family.Value Packet.Kind.pingRequest) := here
        simp [Builder.Call.noteAll, logged, Builder.Call.note, Function.update_of_ne, pong, ping]
      rw [absent] at known
      cases known
  have held : Builder.Call.noteAll logged 1 =
      some ⟨.pingRequest, some (logging .pingRequest)⟩ := rfl
  have back : Packet.ReadsBack ping := Packet.Kind.readsBack .pingRequest ping trivial
  refine ⟨trivial, logs, encoded logged .pingRequest ping (logging .pingRequest) trivial held [],
    ?_, ?_⟩
  · obtain ⟨verdict, -, -, -, -, -, log, handed⟩ := judged logged (Packet.encode ping)
    rw [handed .pingRequest ping (logging .pingRequest) held back rfl] at log
    exact log id logs []
  · obtain ⟨verdict, given, -, -, handed, idle, -⟩ := judged logged (Packet.encode ping ++ [9])
    refine (idle ?_).2 []
    rintro ⟨kind, value⟩ one
    obtain ⟨number, body, handler, front, known, read⟩ := (handed ⟨kind, value⟩).mp one
    rw [Packet.encode, List.append_assoc, Varint.readU32_encode_toNat] at front
    cases front
    cases known
    have same := (back [9]).symm.trans read
    injection same with _ rest
    cases rest

end Registry

end GameTransport
