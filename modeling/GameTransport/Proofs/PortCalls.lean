import GameTransport.Proofs.Ports

/-! # What a port is asked to do

The owner of a port encodes, decodes, switches layers on, and in between does with the two buffers
whatever it likes.  Each of these is a `Call` with a `Reply`, which tells all that the owner sees.
The replies depend on the layers alone: ports that are the same up to their other buffers reply the
same for ever (`run_congr`).
-/

namespace GameTransport.Port

/-- What the owner of a port does. -/
inductive Call where
  | encode (payload : Bytes)
  | decode
  | enableCompression (threshold level : Nat)
  | enableEncryption (secret : SharedSecret)
  /-- Octets arrive, or are written, or are lost: anything at all happens to the two buffers. -/
  | handle (change : Bytes × Bytes → Bytes × Bytes)

inductive Outcome where
  | encoded (outcome : Except Fault Unit)
  | decoded (outcome : Except Fault (Option Bytes))
  | done

/-- What the owner of a port sees after a call. -/
structure Reply where
  outcome : Outcome
  inbox : Bytes
  outbox : Bytes

/-- The replies to calls one after another, and what they leave. -/
def Call.run {σ : Type} (step : Call → σ → Reply × σ) : List Call → σ → List Reply × σ
  | [], state => ([], state)
  | call :: rest, state =>
    let (replies, last) := Call.run step rest (step call state).2
    ((step call state).1 :: replies, last)

variable {engine : Zlib.Engine}

/-- What a call comes to. -/
def act (call : Call) (port : Port engine) : Outcome × Port engine :=
  match call with
  | .encode payload => (told (encode payload port)).map .encoded id
  | .decode => (told (decode port)).map .decoded id
  | .enableCompression threshold level =>
    (.done, { port with codec := port.codec.enableCompression threshold level })
  | .enableEncryption secret =>
    (.done, { port with codec := port.codec.enableEncryption secret })
  | .handle change =>
    let (inbox, outbox) := change (port.inbox, port.outbox)
    (.done, { port with inbox, outbox })

def step (call : Call) (port : Port engine) : Reply × Port engine :=
  let (outcome, after) := port.act call
  (⟨outcome, after.inbox, after.outbox⟩, after)

def run (calls : List Call) (port : Port engine) : List Reply × Port engine :=
  Call.run step calls port

variable {port other : Port engine}

/-! ### Later calls depend on the layers alone -/

theorem act_cleared (call : Call) (port : Port engine) :
    (port.cleared.act call).map id cleared = (port.act call).map id cleared := by
  cases call with
  | encode payload => exact congrArg (Prod.map Outcome.encoded id) (told_encode_cleared payload port)
  | decode =>
    have same := congrArg (Prod.map Outcome.decoded cleared) (told_decode_cleared port)
    refine same.trans ?_
    exact congrArg (Prod.mk _) (cleared_cleared _)
  | enableCompression threshold level =>
    simp [act, cleared, BufferedCodec.cleared, BufferedCodec.enableCompression]
  | enableEncryption secret => rfl
  | handle change => simp [act, cleared]

theorem step_congr (same : port.cleared = other.cleared) (call : Call) :
    (port.step call).1 = (other.step call).1 ∧
      (port.step call).2.cleared = (other.step call).2.cleared := by
  have acts : (port.act call).map id cleared = (other.act call).map id cleared := by
    rw [← act_cleared call port, ← act_cleared call other, same]
  obtain ⟨outcome, left⟩ : (port.act call).1 = (other.act call).1 ∧
      (port.act call).2.cleared = (other.act call).2.cleared := Prod.ext_iff.mp acts
  obtain ⟨inbox, outbox⟩ := buffers_of_cleared_eq left
  refine ⟨?_, left⟩
  change Reply.mk (port.act call).1 (port.act call).2.inbox (port.act call).2.outbox = _
  rw [outcome, inbox, outbox]
  rfl

/-- Ports that are the same up to their buffers reply the same for ever. -/
theorem run_congr (same : port.cleared = other.cleared) (calls : List Call) :
    (port.run calls).1 = (other.run calls).1 ∧
      (port.run calls).2.cleared = (other.run calls).2.cleared := by
  induction calls generalizing port other with
  | nil => exact ⟨rfl, same⟩
  | cons call rest ih =>
    obtain ⟨reply, left⟩ := step_congr same call
    obtain ⟨replies, last⟩ := ih left
    refine ⟨?_, last⟩
    change (port.step call).1 :: ((port.step call).2.run rest).1 = _
    rw [reply, replies]
    rfl

/-! ### The compressor is new before every call -/

theorem atRest_step (resets : engine.ResetsDeflater) (rests : port.codec.AtRest) (call : Call) :
    (port.step call).2.codec.AtRest := by
  cases call with
  | encode payload =>
    change (told (encode payload port)).2.codec.AtRest
    rw [snd_told, BufferedCodec.AtRest, packer_encode resets rests]
    exact rests
  | decode =>
    change (told (decode port)).2.codec.AtRest
    rw [snd_told]
    exact atRest_decode rests
  | enableCompression threshold level =>
    rintro packer ⟨⟩
    exact Packer.atRest_new threshold level
  | enableEncryption secret => exact rests
  | handle change => exact rests

theorem atRest_run (resets : engine.ResetsDeflater) (rests : port.codec.AtRest)
    (calls : List Call) : (port.run calls).2.codec.AtRest := by
  induction calls generalizing port with
  | nil => exact rests
  | cons call rest ih => exact ih (atRest_step resets rests call)

end GameTransport.Port
