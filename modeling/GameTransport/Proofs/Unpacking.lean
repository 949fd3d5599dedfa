import GameTransport.Proofs.Pieces
import GameTransport.Proofs.StoredStreams

/-! # Just the legal envelopes are opened

An envelope is legal for a threshold (`Packer.Legal`) if it holds a payload as it is, or declares a
size that is allowed and holds one complete stream of that size and nothing else.  A packer over a
machine of the standard format opens the legal envelopes and no others, after whatever it was asked to
do before.  It never makes more than one octet beyond the size that was declared
(`Packer.opens_legal_envelopes`).
-/

namespace GameTransport

/-! ### What stands behind the declared size -/

namespace Compression

variable {z : Zlib.Library} {c : Compression} {declared : Nat} {body envelope payload : Bytes}

theorem judge_eq_ok_iff {inflated : Zlib.Inflated} :
    judge declared inflated = .ok payload ↔
      inflated = .finished payload 0 ∧ payload.length = declared := by
  constructor
  · intro judged
    rcases inflated with _ | output | ⟨output, unread⟩
    · cases judged
    · simp only [judge] at judged
      split at judged <;> cases judged
    · simp only [judge] at judged
      split at judged
      · cases judged
      · split at judged
        · cases judged
        · rename_i size rest
          cases judged
          rw [not_ne_iff.mp rest]
          exact ⟨rfl, not_ne_iff.mp size⟩
  · rintro ⟨rfl, rfl⟩
    rw [judge, if_neg (not_not_intro rfl), if_neg (not_not_intro rfl)]

/-- What is opened is the payload as it is, or has an allowed size and is inflated. -/
theorem open?_eq_ok_iff :
    c.open? z declared body = .ok payload ↔
      declared = 0 ∧ payload = body ∨
        1 ≤ declared ∧ c.threshold ≤ declared ∧ declared ≤ maxUncompressed ∧
          z.inflate (declared + 1) body = .finished payload 0 ∧ payload.length = declared := by
  by_cases plain : declared = 0
  · have none' : ¬ 1 ≤ declared := by omega
    rw [open?, if_pos plain]
    simp [plain, eq_comm]
  by_cases below : declared < c.threshold
  · have outside : ¬ c.threshold ≤ declared := by omega
    rw [open?, if_neg plain, if_pos below]
    simp [plain, outside]
  by_cases above : maxUncompressed < declared
  · have outside : ¬ declared ≤ maxUncompressed := by omega
    rw [open?, if_neg plain, if_neg below, if_pos above]
    simp [plain, outside]
  · have some' : 1 ≤ declared := by omega
    rw [open?, if_neg plain, if_neg below, if_neg above, judge_eq_ok_iff]
    simp [plain, some', Nat.not_lt.mp below, Nat.not_lt.mp above]

theorem unwrap_eq_ok_iff :
    c.unwrap z envelope = .ok payload ↔ ∃ declared body,
      Varint.readU32 envelope = .ok declared body ∧ c.open? z declared.toNat body = .ok payload := by
  rw [unwrap]
  rcases Varint.readU32 envelope with ⟨declared, body⟩ | ⟨fault, rest⟩
  · rcases opened : c.open? z declared.toNat body with fault | found <;>
      simp [Except.mapError, opened]
  · simp

end Compression

namespace Packer

/-! ### Earlier calls -/

/-- What a packer is asked to do. -/
inductive Call where
  | wrap (payload buffer : Bytes)
  | unwrap (envelope : Bytes)

section Engine

variable {engine : Zlib.Engine} {packer : Packer engine}

/-- What a call leaves, whether it fails or not. -/
def perform (packer : Packer engine) : Call → Packer engine
  | .wrap payload buffer => (stateOf (wrap payload (packer, buffer))).1
  | .unwrap envelope => stateOf (unwrap envelope packer)

def performAll (packer : Packer engine) (calls : List Call) : Packer engine :=
  calls.foldl perform packer

theorem threshold_stateOf_wrap (packer : Packer engine) (payload buffer : Bytes) :
    (stateOf (wrap payload (packer, buffer))).1.threshold = packer.threshold := by
  simp only [wrap]
  split
  · rfl
  · split
    · rfl
    · split <;> rfl

theorem stateOf_unwrap (resets : engine.ResetsInflater) (fresh : packer.Fresh) (envelope : Bytes) :
    stateOf (unwrap envelope packer) = packer := by
  rw [unwrap_of_fresh resets fresh 0]
  split <;> rfl

/-- The decompressor is new after every call, and the threshold the same. -/
theorem fresh_performAll (resets : engine.ResetsInflater) (fresh : packer.Fresh) (calls : List Call) :
    (packer.performAll calls).Fresh ∧ (packer.performAll calls).threshold = packer.threshold := by
  induction calls generalizing packer with
  | nil => exact ⟨fresh, rfl⟩
  | cons call rest ih =>
    have next : (packer.perform call).Fresh ∧ (packer.perform call).threshold = packer.threshold := by
      cases call with
      | wrap payload buffer =>
        exact ⟨(inflater_stateOf_wrap packer payload buffer).trans fresh,
          threshold_stateOf_wrap packer payload buffer⟩
      | unwrap envelope =>
        rw [perform, stateOf_unwrap resets fresh]
        exact ⟨fresh, rfl⟩
    obtain ⟨still, same⟩ := ih next.1
    exact ⟨still, same.trans next.2⟩

end Engine

/-! ### Legal envelopes -/

/-- The envelope is legal for a receiver of this threshold, and holds this payload. -/
def Legal (threshold : Nat) (envelope payload : Bytes) : Prop :=
  ∃ declared body, Varint.readU32 envelope = .ok declared body ∧
    (declared = 0 ∧ payload = body ∨
      1 ≤ declared.toNat ∧ threshold ≤ declared.toNat ∧
        declared.toNat ≤ Compression.maxUncompressed ∧
        Zlib.Starts body payload 0 ∧ payload.length = declared.toNat)

variable {machine : Zlib.Machine} {packer : Packer machine.engine}

/-- **A packer with a new decompressor opens just the legal envelopes.** -/
theorem unwrap_eq_ok_iff (inflates : machine.Inflates) (fresh : packer.Fresh)
    (envelope payload : Bytes) :
    (∃ after, unwrap envelope packer = .ok payload after) ↔
      Legal packer.threshold envelope payload := by
  let settings : Compression := ⟨packer.threshold, 0⟩
  have outcome : (∃ after, unwrap envelope packer = .ok payload after) ↔
      settings.unwrap machine.engine.library envelope = .ok payload := by
    rw [unwrap_of_new inflates.resetsInflater fresh 0]
    rcases settings.unwrap machine.engine.library envelope with fault | found <;> simp
  rw [outcome, Compression.unwrap_eq_ok_iff]
  refine exists_congr fun declared => exists_congr fun body => and_congr_right fun _ => ?_
  have zero : declared.toNat = 0 ↔ declared = 0 := by
    rw [← UInt32.toNat_inj]
    rfl
  -- The buffer has room for one octet more than there should be.
  have inflated : machine.engine.library.inflate (declared.toNat + 1) body = .finished payload 0 ∧
        payload.length = declared.toNat ↔
      Zlib.Starts body payload 0 ∧ payload.length = declared.toNat := by
    refine and_congr_left fun size => ?_
    exact inflates.inflate_eq_finished_iff (by omega)
  rw [Compression.open?_eq_ok_iff, zero, inflated]

/-- **Just the legal envelopes are opened**, and nothing is made far beyond what was declared. -/
theorem opens_legal_envelopes (inflates : machine.Inflates) (threshold level : Nat)
    (earlier : List Call) (envelope : Bytes) :
    let packer := (new threshold level : Packer machine.engine).performAll earlier
    (∀ payload, (∃ after, unwrap envelope packer = .ok payload after) ↔
      Legal threshold envelope payload) ∧
    ((∀ payload, ¬ Legal threshold envelope payload) →
      ∃ fault after, unwrap envelope packer = .error fault after) ∧
    ∀ declared body,
      (machine.decompressFrom (declared + 1) body {} packer.inflater).2.1.output.length ≤
        declared + 1 := by
  intro packer
  have kept := fresh_performAll inflates.resetsInflater
    (rfl : (new threshold level : Packer machine.engine).Fresh) earlier
  obtain ⟨fresh, same⟩ : packer.Fresh ∧ packer.threshold = threshold := kept
  have opens (payload : Bytes) := unwrap_eq_ok_iff inflates fresh envelope payload
  rw [same] at opens
  refine ⟨opens, ?_, ?_⟩
  · intro illegal
    rcases outcome : unwrap envelope packer with ⟨payload, after⟩ | ⟨fault, after⟩
    · exact absurd ((opens payload).mp ⟨after, outcome⟩) (illegal payload)
    · exact ⟨fault, after, rfl⟩
  · intro declared body
    have new' : packer.inflater = machine.inflater := fresh
    rw [new']
    exact (inflates.settles .new (Nat.succ_pos declared)).fits

/-- Three octets under a threshold of two, after an envelope that is refused. -/
theorem opens_legal_envelopes_stored :
    let machine := Zlib.Machine.ofLibrary .standard
    let envelope := Varint.encode 3 ++ Zlib.deflate 0 [7, 8, 9]
    machine.Inflates ∧ ∃ after, unwrap envelope
      ((new 2 6 : Packer machine.engine).performAll [.unwrap [1], .wrap [7] []]) =
        .ok [7, 8, 9] after := by
  intro machine envelope
  have inflates : machine.Inflates := Zlib.Machine.inflates_ofLibrary rfl
  refine ⟨inflates, ((opens_legal_envelopes inflates 2 6 [.unwrap [1], .wrap [7] []] envelope).1
    [7, 8, 9]).mpr ?_⟩
  have starts : Zlib.Starts (Zlib.deflate 0 [7, 8, 9]) [7, 8, 9] 0 := by
    have back := @Zlib.inflate_stored 3 [7, 8, 9] (by decide) []
    rw [List.append_nil] at back
    exact ⟨3, back⟩
  exact ⟨3, _, Varint.readU32_encode _ (by decide), .inr ⟨by decide, by decide, by decide, starts, rfl⟩⟩

end Packer

end GameTransport
