import GameTransport.Packet.Kind
import GameTransport.Proofs.Inlets
import GameTransport.Proofs.Tables

/-! # Who is to blame for a fault

A fault is internal if nothing that a peer sends should ever lead to it: a move that the arrows do not
allow, a key exchange of a server without a key, or what a handler says in its own words, such as that it
was given a packet of the wrong type.
Readers blame the body that they read, and so do both directions of a codec.  Of the default handlers
one alone can fail with an internal fault, and only with a token that a server without a key has issued
(`Handlers.refused_of_entry`).
-/

namespace GameTransport

/-- The server itself is to blame, below any number of handlers. -/
def Fault.isInternal : Fault → Bool
  | .invalidTransition _ _ | .crypto .noKeyPair | .crypto (.other _) | .invalidData (.other _) => true
  | .handler _ cause => cause.isInternal
  | _ => false

/-- Octets are wrong in themselves, or there are too many or too few of them. -/
def Fault.isFormat : Fault → Bool
  | .sizeExceeded _ _ _ | .truncated _ _ _ | .badEnvelope _ | .invalidNextState _ |
    .invalidData (.notText _) => true
  | _ => false

theorem Fault.isInternal_of_isFormat {fault : Fault} (format : fault.isFormat) :
    fault.isInternal = false := by
  cases fault with
  | invalidData cause => cases cause <;> first | rfl | cases format
  | _ => first | rfl | cases format

/-! ## Readers -/

namespace Reader

variable {α β : Type} {reader : Reader α}

/-- Every fault of the reader is about octets. -/
def BlamesPeer (reader : Reader α) : Prop :=
  ∀ buffer fault rest, reader buffer = .error fault rest → fault.isFormat

theorem BlamesPeer.pure (value : α) : BlamesPeer (Pure.pure value) := nofun

theorem BlamesPeer.throw {fault : Fault} (blames : fault.isFormat) :
    BlamesPeer (MonadExcept.throw fault : Reader α) := by
  intro buffer other rest failed
  cases failed
  exact blames

theorem BlamesPeer.bind (first : BlamesPeer reader) {next : α → Reader β}
    (later : ∀ value, BlamesPeer (next value)) : BlamesPeer (reader >>= next) := by
  intro buffer fault rest failed
  rcases read : reader buffer with ⟨value, between⟩ | ⟨fault', between⟩
  · rw [bind_ok read] at failed
    exact later value between fault rest failed
  · rw [bind_error read] at failed
    cases failed
    exact first _ _ _ read

theorem BlamesPeer.map (first : BlamesPeer reader) (f : α → β) : BlamesPeer (f <$> reader) := by
  intro buffer fault rest failed
  rcases read : reader buffer with ⟨value, between⟩ | ⟨fault', between⟩
  · rw [map_ok read] at failed
    cases failed
  · rw [map_error read] at failed
    cases failed
    exact first _ _ _ read

theorem blamesPeer_byte (what : String) : BlamesPeer (byte what) := by
  rintro (_ | ⟨b, buffer⟩) fault rest failed <;> cases failed
  rfl

theorem blamesPeer_take (what : String) (count : Nat) : BlamesPeer (take what count) := by
  intro buffer fault rest failed
  unfold take at failed
  dsimp only at failed
  split at failed <;> cases failed
  rfl

end Reader

open Reader (BlamesPeer)

theorem Varint.blamesPeer_digits {what : String} {overlong : Fault}
    (blames : overlong.isFormat) (left : Nat) : BlamesPeer (digits what overlong left) := by
  induction left with
  | zero => exact .throw blames
  | succ left ih =>
    refine .bind (Reader.blamesPeer_byte what) fun b => ?_
    split
    · exact .pure _
    · exact .bind ih fun higher => .pure _

theorem Varint.blamesPeer_readU32 : BlamesPeer readU32 := .map (blamesPeer_digits rfl _) _

namespace Field

theorem blamesPeer_readLength (what : String) (max : Nat) : BlamesPeer (readLength what max) := by
  refine .bind Varint.blamesPeer_readU32 fun length => ?_
  dsimp only
  split
  · exact .bind (.throw rfl) fun _ => .pure _
  · exact .pure _

theorem blamesPeer_bytes (max : Nat) : BlamesPeer (bytes max).read :=
  .bind (blamesPeer_readLength _ max) fun length => Reader.blamesPeer_take _ length

theorem blamesPeer_string (max : Nat) : BlamesPeer (string max).read := by
  refine .bind (blamesPeer_readLength _ _) fun length =>
    .bind (Reader.blamesPeer_take _ length) fun octets => ?_
  cases Utf8.decode octets with
  | error fault => exact .throw rfl
  | ok text =>
    dsimp only
    split
    · exact .bind (.throw rfl) fun _ => .pure _
    · exact .pure _

theorem blamesPeer_uuid : BlamesPeer uuid.read := .map (Reader.blamesPeer_take _ _) _

theorem blamesPeer_u16 : BlamesPeer u16.read := .map (.map (Reader.blamesPeer_take _ _) _) _

theorem blamesPeer_i64 : BlamesPeer i64.read := .map (.map (Reader.blamesPeer_take _ _) _) _

theorem blamesPeer_option {α : Type} {value : Field α} (blames : BlamesPeer value.read) :
    BlamesPeer (option value).read := by
  refine .bind (.map (Reader.blamesPeer_byte _) _) fun flag => ?_
  cases flag with
  | true => exact .map blames _
  | false => exact .pure _

end Field

open GameTransport.Field

/-- **A body that is not read is the peer's fault**, whatever its kind. -/
theorem Packet.Kind.blamesPeer_read (kind : Packet.Kind) :
    BlamesPeer (Packet.read : Reader kind.Value) := by
  cases kind with
  | handshake =>
    refine .bind Varint.blamesPeer_readU32 fun version => .bind (blamesPeer_string _) fun host =>
      .bind blamesPeer_u16 fun port => .bind Varint.blamesPeer_readU32 fun asked => ?_
    cases known : ConnectionState.requested asked.toInt32 with
    | error fault =>
      refine .throw ?_
      unfold ConnectionState.requested at known
      split at known
      · split at known <;> cases known
        rfl
      · cases known
        rfl
    | ok state => exact .pure _
  | statusRequest => exact .pure _
  | statusResponse => exact .map (blamesPeer_string _) _
  | pingRequest => exact .map blamesPeer_i64 _
  | pongResponse => exact .map blamesPeer_i64 _
  | loginStart =>
    exact .bind (blamesPeer_string _) fun username =>
      .bind (blamesPeer_option blamesPeer_uuid) fun uuid => .pure _
  | encryptionRequest =>
    exact .bind (blamesPeer_string _) fun serverId => .bind (blamesPeer_bytes _) fun publicKey =>
      .bind (blamesPeer_bytes _) fun verifyToken => .pure _
  | encryptionResponse =>
    exact .bind (blamesPeer_bytes _) fun sharedSecret =>
      .bind (blamesPeer_bytes _) fun verifyToken => .pure _
  | loginDisconnect => exact .map (blamesPeer_string _) _
  | loginSuccess =>
    exact .bind blamesPeer_uuid fun uuid => .bind (blamesPeer_string _) fun username => .pure _
  | setCompression => exact .map Varint.blamesPeer_readU32 _
  | keepAlive => exact .map blamesPeer_i64 _
  | disconnect => exact .map (blamesPeer_string _) _

/-! ## Codecs -/

theorem Frame.isFormat_of_split? {buffer : Bytes} {fault : Fault}
    (failed : split? buffer = .error fault) : fault.isFormat := by
  have overlong {left : Nat} {octets : Bytes} (failed : lengthWithin left octets = .error fault) :
      fault.isFormat := by
    induction left generalizing octets with
    | zero =>
      cases failed
      rfl
    | succ left ih =>
      rcases octets with _ | ⟨b, rest⟩
      · cases failed
      · by_cases last : b < 128
        · rw [lengthWithin_cons_of_lt last] at failed
          cases failed
        · rw [lengthWithin_cons_of_marked last] at failed
          rcases higher : lengthWithin left rest with fault' | found <;> rw [higher] at failed <;>
            cases failed
          exact ih higher
  exact overlong (split?_eq_error.mp failed)

namespace Codec

variable {z : Zlib.Library} {codec after : Codec} {fault : Fault}

theorem isFormat_of_unframe {frame : Bytes} (failed : codec.unframe z frame = .error fault) :
    fault.isFormat := by
  rw [unframe] at failed
  split at failed
  · rw [Compression.unwrap] at failed
    split at failed
    · rename_i number
      cases failed
      exact Varint.blamesPeer_readU32 _ _ _ number
    · rename_i declared body number
      rcases opened : Compression.open? z _ declared.toNat body with fault' | payload <;>
        rw [opened] at failed <;> cases failed
      rfl
  · cases failed

/-- What cannot be decoded is the peer's fault. -/
theorem isFormat_of_decode {inlet left : Inlet} (failed : decode z inlet = .error fault left) :
    fault.isFormat := by
  rcases decode_eq_error failed with ⟨overlong, -⟩ | ⟨frame, -, refused⟩
  · exact Frame.isFormat_of_split? (Inlet.takeFrame_eq_error.mp overlong)
  · exact isFormat_of_unframe refused

theorem isFormat_of_frame {payload : Bytes} (failed : codec.frame z payload = .error fault) :
    fault.isFormat := by
  have framed {body : Bytes} (failed : Frame.encode body = .error fault) :
      fault.isFormat := by
    unfold Frame.encode at failed
    dsimp only at failed
    split at failed <;> cases failed
    rfl
  rw [frame] at failed
  split at failed
  · rename_i compression _
    rcases wrapped : compression.wrap z payload with fault' | body <;> rw [wrapped] at failed
    · cases failed
      rw [Compression.wrap] at wrapped
      split at wrapped
      · cases wrapped
        rfl
      · split at wrapped <;> cases wrapped
    · exact framed failed
  · exact framed failed

theorem isFormat_of_encode {payload : Bytes} (failed : encode z payload codec = .error fault after) :
    fault.isFormat := by
  rw [encode] at failed
  rcases framed : codec.frame z payload with fault' | octets <;> rw [framed] at failed
  · cases failed
    exact isFormat_of_frame framed
  · dsimp only at failed
    split at failed <;> cases failed

end Codec

/-- What is too long to be sent is nobody's mistake. -/
theorem Conversation.isFormat_of_feed {α : Type} {z : Zlib.Library} {packet : Bytes} {fault : Fault}
    {c d : Conversation α} (failed : feed z packet c = .error fault d) : fault.isFormat := by
  unfold feed at failed
  dsimp only at failed
  split at failed
  · cases failed
  · rename_i unsent
    cases failed
    exact Codec.isFormat_of_encode unsent

/-! ## Dispatches -/

/-- If bodies are the peer's fault, a dispatch fails with an internal fault only if a handler does. -/
theorem Registry.handled_of_isInternal {σ : Type} {registry : Registry σ} {payload : Bytes}
    {context after : σ} {fault : Fault}
    (bodies : ∀ id entry, registry.entry? id = some entry → BlamesPeer entry.packet.read)
    (failed : registry.dispatch payload context = .error fault after) (internal : fault.isInternal) :
    ∃ (id : UInt32) (entry : Entry σ) (handler : Handler σ entry.Value) (packet : entry.Value)
      (cause : Fault), registry.entry? id = some entry ∧ entry.handler = some handler ∧
        handler packet context = .error cause after ∧ cause.isInternal := by
  have served := served_dispatch registry payload context
  rw [failed] at served
  cases served with
  | refused reason =>
    cases reason with
    | numberless unread =>
      rw [Fault.isInternal_of_isFormat (Varint.blamesPeer_readU32 _ _ _ unread)] at internal
      cases internal
    | unknown id => cases internal
    | unread known unread =>
      rw [Fault.isInternal_of_isFormat (bodies _ _ known _ _ _ unread)] at internal
      cases internal
    | overlong entry remaining => cases internal
  | failed number known takes read done => exact ⟨_, _, _, _, _, known, takes, done, internal⟩

/-! ## The default handlers -/

/-- A response that is not opened is the client's fault. -/
theorem ServerKey.isInternal_of_openResponse {key : ServerKey} {sealed token expected : Bytes}
    {fault : Fault} (failed : key.openResponse sealed token expected = .error fault) :
    fault.isInternal = false := by
  rw [ServerKey.openResponse] at failed
  split at failed
  · cases failed
    rfl
  · split at failed
    · cases failed
      rfl
    · split at failed
      · cases failed
        rfl
      · split at failed <;> cases failed
        rfl

namespace Handlers

variable {α : Type} {id : UInt32} {entry : Entry (Session α)} {state : ConnectionState}

theorem blamesPeer_of_entry
    (known : Registry.entry? ((registries (α := α)).active state) id = some entry) :
    BlamesPeer entry.packet.read := by
  cases state with
  | handshaking =>
    cases eq_of_entry?_handshaking known
    exact Packet.Kind.blamesPeer_read .handshake
  | status =>
    rcases eq_of_entry?_status known with rfl | rfl
    · exact Packet.Kind.blamesPeer_read .statusRequest
    · exact Packet.Kind.blamesPeer_read .pingRequest
  | login =>
    rcases eq_of_entry?_login known with rfl | rfl
    · exact Packet.Kind.blamesPeer_read .loginStart
    · exact Packet.Kind.blamesPeer_read .encryptionResponse
  | play =>
    cases eq_of_entry?_play known
    exact Packet.Kind.blamesPeer_read .keepAlive

/-- What a handler that fails makes of a session. -/
structure Refused (session after : Session α) (fault : Fault) : Prop where
  /-- Nothing has been queued. -/
  actions : after.actions = session.actions
  /-- The server is to blame if it has issued a token without a key. -/
  keyless : fault.isInternal → session.verifyToken ≠ none ∧ session.server.key = none

/-- Only the handlers of LOGIN fail. -/
theorem refused_of_entry {handler : Handler (Session α) entry.Value} {packet : entry.Value}
    {session after : Session α} {fault : Fault}
    (known : Registry.entry? (registries.active state) id = some entry)
    (takes : entry.handler = some handler) (failed : handler packet session = .error fault after) :
    Refused session after fault := by
  cases state with
  | handshaking =>
    cases eq_of_entry?_handshaking known
    cases takes
    cases failed
  | status =>
    rcases eq_of_entry?_status known with rfl | rfl <;> cases takes <;> cases failed
  | login =>
    rcases eq_of_entry?_login known with rfl | rfl <;> cases takes
    · -- A name that is refused leaves no trace; a response that is refused has used up the token.
      rcases loginStart_cases packet session with ⟨_, reason, refused⟩ | ⟨-, -, started⟩
      · rw [refused] at failed
        cases failed
        refine ⟨rfl, fun internal => ?_⟩
        rcases reason with rfl | rfl <;> cases internal
      · rw [started] at failed
        cases failed
    · rcases encryptionResponse_cases packet session with
        ⟨_, reason, refused⟩ | ⟨_, _, _, -, -, -, responded⟩
      · rw [refused] at failed
        cases failed
        refine ⟨rfl, fun internal => ?_⟩
        cases reason with
        | unrequested unissued => cases internal
        | keyless issued absent => exact ⟨by rw [issued]; exact nofun, absent⟩
        | unopened issued exchange unopened =>
          rw [ServerKey.isInternal_of_openResponse unopened] at internal
          cases internal
      · rw [responded] at failed
        cases failed
  | play =>
    cases eq_of_entry?_play known
    cases takes
    cases failed

end Handlers

end GameTransport
