import GameTransport.Proofs.Envelopes
import GameTransport.Proofs.Unpacking

/-! # What was put into an envelope is taken out

Over a machine of the standard format a packer is left as it was by whatever it is asked to do
(`Packer.performAll_new`), so it may as well be a new one.  A packer whose threshold is not above that
of the sender gets back the payload that was wrapped (`Packer.unwraps_what_was_wrapped`).

There is one exception.  At threshold zero the empty payload is compressed, under a declared size of
zero, which says that the payload stands there as it is.  The receiver then takes the stream for the
payload.
-/

namespace GameTransport

namespace Zlib.Machine

variable {machine : Machine}

/-- What the compressor makes the decompressor turns back. -/
theorem roundTrips_engine (deflates : machine.Deflates) (inflates : machine.Inflates) :
    machine.engine.library.RoundTrips := by
  intro level capacity payload room
  obtain ⟨stream, used, made, starts, -⟩ := deflates.deflate_eq level payload
  have written : machine.engine.library.deflate level payload = stream := by
    have made : machine.engine.deflate payload (machine.engine.deflater level) = .ok stream used := made
    simp only [Engine.library, made]
  rw [written]
  exact inflates.inflate_eq starts room

/-- What a new compressor of the library makes is a complete stream. -/
theorem Deflates.starts_library (deflates : machine.Deflates) (level : Nat) (payload : Bytes) :
    Starts (machine.engine.library.deflate level payload) payload 0 := by
  obtain ⟨stream, used, made, starts, -⟩ := deflates.deflate_eq level payload
  have made : machine.engine.deflate payload (machine.engine.deflater level) = .ok stream used := made
  simp only [Engine.library, made]
  exact starts

/-- Objects that store what they are given, in the standard format. -/
def stores : Machine := .ofLibrary { deflate := fun _ => Zlib.deflate 0, inflate := Zlib.inflate }

theorem inflates_stores : stores.Inflates := inflates_ofLibrary rfl

theorem deflates_stores : stores.Deflates := by
  apply deflates_ofLibrary
  intro level payload
  have back := inflate_stored (Nat.le_refl payload.length) []
  rw [List.append_nil] at back
  exact ⟨_, back⟩

end Zlib.Machine

namespace Packer

/-- A packer is left as it was, also by calls that fail. -/
theorem performAll_new {engine : Zlib.Engine} (lawful : engine.Lawful)
    (threshold level : Nat) (calls : List Call) :
    (new threshold level : Packer engine).performAll calls = new threshold level := by
  have fresh : (new threshold level : Packer engine).Fresh := rfl
  induction calls with
  | nil => rfl
  | cons call rest ih =>
    have same : (new threshold level : Packer engine).perform call = new threshold level := by
      cases call with
      | wrap payload buffer =>
        exact fst_stateOf_wrap lawful.resetsDeflater (atRest_new threshold level) payload buffer
      | unwrap envelope => exact stateOf_unwrap lawful.resetsInflater fresh envelope
    rw [performAll, List.foldl_cons, same]
    exact ih

variable {machine : Zlib.Machine}

/-- **A payload that was put into an envelope is taken out again** by a packer whose threshold is not
above the sender's, unless it is the empty one and the sender compresses everything.  Then it is the
stream that is taken out. -/
theorem unwraps_what_was_wrapped (deflates : machine.Deflates) (inflates : machine.Inflates)
    {sending receiving : Nat} (threshold_le : receiving ≤ sending) (level level' : Nat)
    (earlier earlier' : List Call) {payload : Bytes}
    (fits : payload.length ≤ Compression.maxUncompressed) (buffer : Bytes) :
    let sender := (new sending level : Packer machine.engine).performAll earlier
    let receiver := (new receiving level' : Packer machine.engine).performAll earlier'
    ∃ envelope, wrap payload (sender, buffer) = .ok () (sender, buffer ++ envelope) ∧
      ((payload = [] → 0 < sending) → unwrap envelope receiver = .ok payload receiver) ∧
      (payload = [] → sending = 0 → ∃ stream, Zlib.Starts stream [] 0 ∧
        unwrap envelope receiver = .ok stream receiver) := by
  intro sender receiver
  have lawful := Zlib.Machine.lawful_engine deflates inflates
  have roundTrips := Zlib.Machine.roundTrips_engine deflates inflates
  obtain ⟨envelope, wrapped⟩ : ∃ envelope,
      Compression.wrap machine.engine.library ⟨sending, level⟩ payload = .ok envelope := by
    simp only [Compression.wrap]
    rw [if_neg (Nat.not_lt.mpr fits)]
    split <;> exact ⟨_, rfl⟩
  have sent : sender = ofCompression ⟨sending, level⟩ := performAll_new lawful sending level earlier
  have received : receiver = ofCompression ⟨receiving, level'⟩ :=
    performAll_new lawful receiving level' earlier'
  refine ⟨envelope, ?_, ?_, ?_⟩
  · rw [sent, wrap_ofCompression lawful, wrapped]
  · intro plain
    rw [received, unwrap_ofCompression lawful,
      Compression.unwrap_wrap roundTrips threshold_le plain wrapped]
  · rintro rfl rfl
    obtain ⟨-, ⟨short, -⟩ | ⟨-, rfl⟩⟩ := Compression.wrap_eq_ok wrapped
    · exact absurd short (Nat.not_lt_zero _)
    · refine ⟨_, deflates.starts_library (min level Compression.maxLevel) [], ?_⟩
      rw [received, unwrap_ofCompression lawful,
        Compression.unwrap_of_readU32 (Varint.readU32_encode _ (by decide))]
      rfl

/-- A payload of exactly the sender's threshold, after calls that fail. -/
theorem unwraps_what_was_wrapped_stored :
    let packer : Packer Zlib.Machine.stores.engine := new 3 6
    ∃ envelope, wrap [7, 8, 9] (packer.performAll [.unwrap [1]], [5]) =
        .ok () (packer.performAll [.unwrap [1]], [5] ++ envelope) ∧
      ∃ after, unwrap envelope ((new 2 9 : Packer Zlib.Machine.stores.engine).performAll
        [.wrap [] [], .unwrap [255]]) = .ok [7, 8, 9] after := by
  intro packer
  obtain ⟨envelope, sent, received, -⟩ := unwraps_what_was_wrapped Zlib.Machine.deflates_stores
    Zlib.Machine.inflates_stores (show 2 ≤ 3 by decide) 6 9 [.unwrap [1]]
    [.wrap [] [], .unwrap [255]] (show ([7, 8, 9] : Bytes).length ≤ _ by decide) [5]
  exact ⟨envelope, sent, _, received fun empty => by cases empty⟩

/-- At threshold zero the empty payload does not come back. -/
theorem wrapped_empty_not_unwrapped :
    let packer : Packer Zlib.Machine.stores.engine := new 0 6
    ∃ envelope, wrap [] (packer, []) = .ok () (packer, envelope) ∧
      unwrap envelope packer = .ok [0x78, 0x9C, 1, 0, 0, 255, 255, 0, 0, 0, 1] packer := by
  intro packer
  have made : Zlib.Machine.stores.compressFrom [] (Zlib.Machine.firstCapacity 0) {} (6, none) =
      some (.ok [0x78, 0x9C, 1, 0, 0, 255, 255, 0, 0, 0, 1] (6, some [])) :=
    (Zlib.Machine.compressFrom_eq _ _ _ _ _).trans rfl
  have deflated : Zlib.Machine.stores.engine.deflate [] packer.deflater =
      .ok [0x78, 0x9C, 1, 0, 0, 255, 255, 0, 0, 0, 1] (6, some []) :=
    Zlib.Machine.deflate_of_compressFrom made
  have none' : Varint.encode 0 = [0] := Varint.encode_of_lt (by decide)
  refine ⟨[0, 0x78, 0x9C, 1, 0, 0, 255, 255, 0, 0, 0, 1], ?_, rfl⟩
  simp only [wrap, List.length_nil, none', deflated]
  rfl

end Packer

end GameTransport
