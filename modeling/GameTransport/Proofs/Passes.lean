import GameTransport.Proofs.Inlets
import GameTransport.Proofs.Written
import Mathlib.Data.List.Basic
import Mathlib.Data.List.Induction

/-! # How often an octet is decrypted

A codec decrypts an octet while it stands in the buffer, and counts how many octets at the front it has
decrypted.  `Watched` keeps beside the codec, for each octet that has arrived, how often it was
decrypted; the codec knows nothing of it.

Turning encryption on starts the count over.  Where the count was zero, nothing is decrypted twice.
Where it was not, the octets that were counted stand in front of the count decrypted already
(`Watched.Stained`), and the next call of `decode` decrypts them again.  So an octet is decrypted twice
just if encryption is turned on over octets that are counted and `decode` is called after that
(`exists_twice_iff`).
-/

namespace GameTransport.Codec

/-- Octets that arrive for a codec, or a call on it. -/
inductive Call where
  | arrive (octets : Bytes)
  | decode
  | enableEncryption (secret : SharedSecret)
  deriving DecidableEq

/-- A codec in use, and how often each of its octets was decrypted. -/
structure Watched where
  inlet : Inlet := ⟨{}, []⟩
  /-- For the octets that were taken off the buffer. -/
  gone : List Nat := []
  /-- For the octets in the buffer. -/
  held : List Nat := []

namespace Watched

/-- For all octets, in the order of arrival. -/
def passes (w : Watched) : List Nat := w.gone ++ w.held

/-- For the octets that the codec counts as decrypted. -/
def counted (w : Watched) : List Nat := w.held.take w.inlet.codec.decrypted

/-- For the octets behind them. -/
def fresh (w : Watched) : List Nat := w.held.drop w.inlet.codec.decrypted

/-- For the octets in the buffer after those that are not counted have gone through the cipher. -/
def decrypted (w : Watched) : List Nat :=
  if w.inlet.codec.isEncrypted then w.counted ++ w.fresh.map (· + 1) else w.held

def step (z : Zlib.Library) (w : Watched) : Call → Watched
  | .arrive octets =>
    { w with inlet := w.inlet.arrive octets, held := w.held ++ octets.map fun _ => 0 }
  | .decode =>
    let inlet := stateOf (Codec.decode z w.inlet)
    let taken := w.inlet.buffer.length - inlet.buffer.length
    { inlet, gone := w.gone ++ w.decrypted.take taken, held := w.decrypted.drop taken }
  | .enableEncryption secret =>
    { w with inlet := { w.inlet with codec := w.inlet.codec.enableEncryption secret } }

end Watched

/-- A fresh codec after calls. -/
def watch (z : Zlib.Library) (calls : List Call) : Watched := calls.foldl (Watched.step z) {}

/-- The calls turn encryption on over octets that are counted as decrypted, and then come `after`. -/
def EnabledEarly (z : Zlib.Library) (calls after : List Call) : Prop :=
  ∃ before secret, calls = before ++ .enableEncryption secret :: after ∧
    0 < (watch z before).inlet.codec.decrypted

variable {z : Zlib.Library} {calls after : List Call} {call : Call} {inlet : Inlet}

/-! ### What a call of `decode` leaves -/

theorem stateOf_decode (z : Zlib.Library) (inlet : Inlet) :
    stateOf (decode z inlet) = inlet.decrypt ∨
      ∃ frame, inlet.decrypt.takeFrame = .ok (some (frame, stateOf (decode z inlet))) := by
  rcases decoded : decode z inlet with ⟨_ | payload, after⟩ | ⟨fault, after⟩
  · exact .inl (decode_eq_none decoded)
  · obtain ⟨frame, found, -⟩ := decode_eq_some decoded
    exact .inr ⟨frame, found⟩
  · rcases decode_eq_error decoded with ⟨-, same⟩ | ⟨frame, found, -⟩
    · exact .inl same
    · exact .inr ⟨frame, found⟩

theorem length_decode_le (z : Zlib.Library) (inlet : Inlet) :
    (stateOf (decode z inlet)).buffer.length ≤ inlet.buffer.length := by
  rw [← Inlet.length_decrypt inlet]
  rcases stateOf_decode z inlet with same | ⟨frame, found⟩
  · exact Nat.le_of_eq (congrArg (·.buffer.length) same)
  · exact Nat.le_of_lt (Frame.length_lt_of_split? (Inlet.takeFrame_eq_some found).1)

theorem Inlet.Counted.decode (counted : inlet.Counted) (z : Zlib.Library) :
    (stateOf (Codec.decode z inlet)).Counted := by
  rcases stateOf_decode z inlet with same | ⟨frame, found⟩
  · rw [same]
    exact counted.decrypt
  · exact counted.decrypt.takeFrame found

/-- With encryption on, all that is left is counted. -/
theorem decrypted_decode_of_some {cipher : Duplex} (counted : inlet.Counted)
    (on : inlet.codec.cipher = some cipher) :
    (stateOf (decode z inlet)).codec.decrypted = (stateOf (decode z inlet)).buffer.length := by
  have settled := Inlet.decrypt_of_some counted on
  have all : inlet.decrypt.codec.decrypted = inlet.decrypt.buffer.length := by
    rw [Inlet.length_decrypt, settled]
  rcases stateOf_decode z inlet with same | ⟨frame, found⟩
  · rw [same]
    exact all
  · obtain ⟨split, codec⟩ := Inlet.takeFrame_eq_some found
    have shorter := Frame.length_lt_of_split? split
    rw [codec, all]
    dsimp only
    omega

theorem isEncrypted_decode (z : Zlib.Library) (inlet : Inlet) :
    (stateOf (decode z inlet)).codec.isEncrypted = inlet.codec.isEncrypted := by
  have decrypted : inlet.decrypt.codec.isEncrypted = inlet.codec.isEncrypted := by
    have streams := congrArg Option.isSome (Inlet.outbound?_decrypt inlet)
    unfold outbound? at streams
    rw [Option.isSome_map, Option.isSome_map] at streams
    exact streams
  rcases stateOf_decode z inlet with same | ⟨frame, found⟩
  · rw [same, decrypted]
  · rw [(Inlet.takeFrame_eq_some found).2]
    exact decrypted

/-- Without encryption, nothing is counted. -/
theorem decrypted_decode_of_none (off : inlet.codec.cipher = none)
    (fresh : inlet.codec.decrypted = 0) : (stateOf (decode z inlet)).codec.decrypted = 0 := by
  have raw := Inlet.decrypt_of_none off
  rcases stateOf_decode z inlet with same | ⟨frame, found⟩
  · rw [same, raw, fresh]
  · rw [(Inlet.takeFrame_eq_some found).2, raw, fresh]
    exact Nat.zero_sub _

/-! ### Encryption that is turned on early -/

@[simp] theorem watch_concat : watch z (calls ++ [call]) = (watch z calls).step z call :=
  List.foldl_append ..

theorem not_enabledEarly_nil : ¬ EnabledEarly z [] after := by
  rintro ⟨before, secret, split, -⟩
  cases before <;> cases split

/-- One more call is one more of those that come after, or it turns encryption on. -/
theorem enabledEarly_concat_iff : EnabledEarly z (calls ++ [call]) after ↔
    (∃ earlier, after = earlier ++ [call] ∧ EnabledEarly z calls earlier) ∨
      after = [] ∧ (∃ secret, call = .enableEncryption secret) ∧
        0 < (watch z calls).inlet.codec.decrypted := by
  constructor
  · rintro ⟨before, secret, split, counted⟩
    rcases List.eq_nil_or_concat' after with rfl | ⟨earlier, last, rfl⟩
    · obtain ⟨rfl, rfl⟩ := List.append_singleton_inj.mp split
      exact .inr ⟨rfl, ⟨secret, rfl⟩, counted⟩
    · rw [← List.cons_append, ← List.append_assoc] at split
      obtain ⟨rfl, rfl⟩ := List.append_singleton_inj.mp split
      exact .inl ⟨earlier, rfl, before, secret, rfl, counted⟩
  · rintro (⟨earlier, rfl, before, secret, rfl, counted⟩ | ⟨rfl, ⟨secret, rfl⟩, counted⟩)
    · exact ⟨before, secret, by simp, counted⟩
    · exact ⟨calls, secret, rfl, counted⟩

/-- Encryption was turned on early, and nothing was decoded since. -/
def Pending (z : Zlib.Library) (calls : List Call) : Prop :=
  ∃ after, EnabledEarly z calls after ∧ .decode ∉ after

/-- Encryption was turned on early, and something was decoded since. -/
def Used (z : Zlib.Library) (calls : List Call) : Prop :=
  ∃ after, EnabledEarly z calls after ∧ .decode ∈ after

theorem pending_concat_iff : Pending z (calls ++ [call]) ↔
    call ≠ .decode ∧ (Pending z calls ∨
      (∃ secret, call = .enableEncryption secret) ∧ 0 < (watch z calls).inlet.codec.decrypted) := by
  constructor
  · rintro ⟨after, early, unused⟩
    rcases enabledEarly_concat_iff.mp early with
      ⟨earlier, rfl, before⟩ | ⟨-, ⟨secret, rfl⟩, counted⟩
    · rw [List.mem_append, List.mem_singleton, not_or] at unused
      exact ⟨fun same => unused.2 same.symm, .inl ⟨earlier, before, unused.1⟩⟩
    · exact ⟨nofun, .inr ⟨⟨secret, rfl⟩, counted⟩⟩
  · rintro ⟨other, ⟨earlier, early, unused⟩ | ⟨enabled, counted⟩⟩
    · refine ⟨earlier ++ [call], enabledEarly_concat_iff.mpr (.inl ⟨earlier, rfl, early⟩), ?_⟩
      rw [List.mem_append, List.mem_singleton, not_or]
      exact ⟨unused, other.symm⟩
    · exact ⟨[], enabledEarly_concat_iff.mpr (.inr ⟨rfl, enabled, counted⟩), List.not_mem_nil⟩

theorem used_concat_iff : Used z (calls ++ [call]) ↔
    Used z calls ∨ call = .decode ∧ Pending z calls := by
  constructor
  · rintro ⟨after, early, used⟩
    rcases enabledEarly_concat_iff.mp early with ⟨earlier, rfl, before⟩ | ⟨rfl, -⟩
    · by_cases already : .decode ∈ earlier
      · exact .inl ⟨earlier, before, already⟩
      · rcases List.mem_append.mp used with used | used
        · exact absurd used already
        · exact .inr ⟨(List.mem_singleton.mp used).symm, earlier, before, already⟩
    · cases used
  · rintro (⟨earlier, early, used⟩ | ⟨rfl, earlier, early, -⟩)
    · exact ⟨earlier ++ [call], enabledEarly_concat_iff.mpr (.inl ⟨earlier, rfl, early⟩),
        List.mem_append_left _ used⟩
    · exact ⟨earlier ++ [.decode], enabledEarly_concat_iff.mpr (.inl ⟨earlier, rfl, early⟩),
        List.mem_append_right _ (List.mem_singleton_self _)⟩

/-! ### One call -/

namespace Watched

variable {w : Watched}

/-- What the codec's count says of the octets. -/
structure Sound (w : Watched) : Prop where
  size : w.held.length = w.inlet.buffer.length
  enough : w.inlet.Counted
  /-- Without encryption, nothing is decrypted. -/
  plain : w.inlet.codec.cipher = none → w.inlet.codec.decrypted = 0 ∧ ∀ n ∈ w.held, n = 0
  /-- What is counted was decrypted. -/
  once : ∀ n ∈ w.counted, 1 ≤ n

/-- Behind what is counted stands an octet that was decrypted. -/
def Stained (w : Watched) : Prop := ∃ n ∈ w.fresh, 1 ≤ n

/-- An octet was decrypted twice. -/
def Twice (w : Watched) : Prop := ∃ n ∈ w.passes, 1 < n

theorem counted_append_fresh (w : Watched) : w.counted ++ w.fresh = w.held :=
  List.take_append_drop ..

theorem Sound.le_length (sound : w.Sound) : w.inlet.codec.decrypted ≤ w.held.length := by
  rw [sound.size]
  exact sound.enough

/-! #### Octets arrive -/

theorem Sound.counted_arrive (sound : w.Sound) (octets : Bytes) :
    (w.step z (.arrive octets)).counted = w.counted :=
  List.take_append_of_le_length sound.le_length

theorem Sound.fresh_arrive (sound : w.Sound) (octets : Bytes) :
    (w.step z (.arrive octets)).fresh = w.fresh ++ octets.map fun _ => 0 :=
  List.drop_append_of_le_length sound.le_length

theorem Sound.arrive (sound : w.Sound) (octets : Bytes) : (w.step z (.arrive octets)).Sound where
  size := by simp [step, sound.size]
  enough := sound.enough.arrive octets
  plain := by
    intro off
    obtain ⟨fresh, zero⟩ := sound.plain off
    refine ⟨fresh, fun n mem => ?_⟩
    rcases List.mem_append.mp mem with mem | mem
    · exact zero n mem
    · obtain ⟨_, -, rfl⟩ := List.mem_map.mp mem
      rfl
  once := by
    rw [sound.counted_arrive]
    exact sound.once

theorem Sound.stained_arrive (sound : w.Sound) (octets : Bytes) :
    (w.step z (.arrive octets)).Stained ↔ w.Stained := by
  unfold Stained
  rw [sound.fresh_arrive]
  simp [or_and_right, exists_or]

theorem twice_arrive (octets : Bytes) : (w.step z (.arrive octets)).Twice ↔ w.Twice := by
  unfold Twice passes step
  simp [or_and_right, exists_or]

/-! #### Encryption is turned on -/

theorem Sound.enableEncryption (sound : w.Sound) (secret : SharedSecret) :
    (w.step z (.enableEncryption secret)).Sound where
  size := sound.size
  enough := Nat.zero_le _
  plain := nofun
  once := nofun

/-- What was counted is not counted any more. -/
theorem Sound.stained_enableEncryption (sound : w.Sound) (secret : SharedSecret) :
    (w.step z (.enableEncryption secret)).Stained ↔
      w.Stained ∨ 0 < w.inlet.codec.decrypted := by
  have anew : (w.step z (.enableEncryption secret)).fresh = w.counted ++ w.fresh :=
    (counted_append_fresh w).symm
  unfold Stained
  rw [anew]
  constructor
  · rintro ⟨n, mem, one⟩
    rcases List.mem_append.mp mem with mem | mem
    · refine .inr (Nat.pos_of_ne_zero fun zero => ?_)
      rw [counted, zero] at mem
      cases mem
    · exact .inl ⟨n, mem, one⟩
  · rintro (⟨n, mem, one⟩ | some)
    · exact ⟨n, List.mem_append_right _ mem, one⟩
    · have nonempty : w.counted ≠ [] := by
        refine List.ne_nil_of_length_pos ?_
        rw [counted, List.length_take, Nat.min_eq_left sound.le_length]
        exact some
      obtain ⟨n, mem⟩ := List.exists_mem_of_ne_nil _ nonempty
      exact ⟨n, List.mem_append_left _ mem, sound.once n mem⟩

/-! #### Something is decoded -/

theorem passes_decode (w : Watched) :
    (w.step z .decode).passes = w.gone ++ w.decrypted := by
  unfold passes step
  rw [List.append_assoc, List.take_append_drop]

theorem Sound.length_decrypted (sound : w.Sound) :
    w.decrypted.length = w.inlet.buffer.length := by
  unfold decrypted
  split
  · rw [List.length_append, List.length_map, ← List.length_append, counted_append_fresh, sound.size]
  · exact sound.size

/-- With encryption on, all octets in the buffer have been decrypted. -/
theorem Sound.decrypted_of_some (sound : w.Sound) {cipher : Duplex}
    (on : w.inlet.codec.cipher = some cipher) :
    w.decrypted = w.counted ++ w.fresh.map (· + 1) ∧ ∀ n ∈ w.decrypted, 1 ≤ n := by
  have same : w.decrypted = w.counted ++ w.fresh.map (· + 1) := by
    unfold decrypted isEncrypted
    rw [on]
    rfl
  refine ⟨same, fun n mem => ?_⟩
  rw [same] at mem
  rcases List.mem_append.mp mem with mem | mem
  · exact sound.once n mem
  · obtain ⟨m, -, rfl⟩ := List.mem_map.mp mem
    omega

theorem decrypted_of_none (off : w.inlet.codec.cipher = none) : w.decrypted = w.held := by
  unfold decrypted isEncrypted
  rw [off]
  rfl

theorem Sound.decode (sound : w.Sound) : (w.step z .decode).Sound := by
  have size : (w.step z .decode).held.length = (w.step z .decode).inlet.buffer.length := by
    have := length_decode_le z w.inlet
    simp only [step, List.length_drop, sound.length_decrypted]
    omega
  have encrypted := isEncrypted_decode z w.inlet
  rcases cipher : w.inlet.codec.cipher with _ | duplex
  · have raw := decrypted_of_none cipher
    obtain ⟨fresh, zero⟩ := sound.plain cipher
    have none' := @decrypted_decode_of_none z w.inlet cipher fresh
    refine ⟨size, sound.enough.decode z, fun _ => ⟨none', fun n mem => zero n ?_⟩, ?_⟩
    · rw [← raw]
      exact List.mem_of_mem_drop mem
    · unfold counted
      simp only [step, none', List.take_zero]
      exact nofun
  · refine ⟨size, sound.enough.decode z, fun off => ?_, fun n mem => ?_⟩
    · unfold isEncrypted at encrypted
      rw [cipher] at encrypted
      change (w.step z .decode).inlet.codec.cipher.isSome = true at encrypted
      rw [off] at encrypted
      cases encrypted
    · exact (sound.decrypted_of_some cipher).2 n (List.mem_of_mem_drop (List.mem_of_mem_take mem))

theorem Sound.not_stained_decode (sound : w.Sound) : ¬ (w.step z .decode).Stained := by
  rintro ⟨n, mem, one⟩
  rcases cipher : w.inlet.codec.cipher with _ | duplex
  · have held : n ∈ w.held := by
      rw [← decrypted_of_none cipher]
      exact List.mem_of_mem_drop (List.mem_of_mem_drop mem)
    have := (sound.plain cipher).2 n held
    omega
  · have all := @decrypted_decode_of_some z w.inlet duplex sound.enough cipher
    have size := sound.decode (z := z) |>.size
    unfold fresh at mem
    rw [List.drop_of_length_le] at mem
    · cases mem
    · rw [size]
      exact Nat.le_of_eq all.symm

theorem Sound.twice_decode (sound : w.Sound) :
    (w.step z .decode).Twice ↔ w.Twice ∨ w.Stained := by
  unfold Twice Stained
  rw [passes_decode, passes, ← counted_append_fresh]
  rcases cipher : w.inlet.codec.cipher with _ | duplex
  · -- Without encryption nothing was decrypted, and nothing is.
    have clean : ¬ ∃ n ∈ w.fresh, 1 ≤ n := by
      rintro ⟨n, mem, one⟩
      have := (sound.plain cipher).2 n (List.mem_of_mem_drop mem)
      omega
    rw [decrypted_of_none cipher, counted_append_fresh, or_iff_left clean]
  · rw [(sound.decrypted_of_some cipher).1]
    constructor
    · rintro ⟨n, mem, two⟩
      rcases List.mem_append.mp mem with mem | mem
      · exact .inl ⟨n, List.mem_append_left _ mem, two⟩
      · rcases List.mem_append.mp mem with mem | mem
        · exact .inl ⟨n, List.mem_append_right _ (List.mem_append_left _ mem), two⟩
        · obtain ⟨m, origin, rfl⟩ := List.mem_map.mp mem
          exact .inr ⟨m, origin, by omega⟩
    · rintro (⟨n, mem, two⟩ | ⟨n, mem, one⟩)
      · rcases List.mem_append.mp mem with mem | mem
        · exact ⟨n, List.mem_append_left _ mem, two⟩
        · rcases List.mem_append.mp mem with mem | mem
          · exact ⟨n, List.mem_append_right _ (List.mem_append_left _ mem), two⟩
          · exact ⟨n + 1, by simp [mem], by omega⟩
      · exact ⟨n + 1, by simp [mem], by omega⟩

end Watched

/-! ### All calls -/

theorem sound_watch (z : Zlib.Library) (calls : List Call) : (watch z calls).Sound := by
  induction calls using List.reverseRecOn with
  | nil => exact ⟨rfl, Nat.le_refl 0, fun _ => ⟨rfl, nofun⟩, nofun⟩
  | append_singleton calls call sound =>
    rw [watch_concat]
    cases call with
    | arrive octets => exact sound.arrive octets
    | decode => exact sound.decode
    | enableEncryption secret => exact sound.enableEncryption secret

/-- An octet is stained or was decrypted twice by what the calls have done since encryption was turned
on early. -/
theorem stained_and_twice_iff (z : Zlib.Library) (calls : List Call) :
    ((watch z calls).Stained ↔ Pending z calls) ∧ ((watch z calls).Twice ↔ Used z calls) := by
  induction calls using List.reverseRecOn with
  | nil =>
    have none : watch z [] = {} := rfl
    simp [none, Watched.Stained, Watched.Twice, Watched.fresh, Watched.passes, Pending, Used,
      not_enabledEarly_nil]
  | append_singleton calls call ih =>
    obtain ⟨stained, twice⟩ := ih
    have sound := sound_watch z calls
    rw [watch_concat, pending_concat_iff, used_concat_iff, ← stained, ← twice]
    cases call with
    | arrive octets => simp [sound.stained_arrive, Watched.twice_arrive]
    | decode => simp [sound.not_stained_decode, sound.twice_decode]
    | enableEncryption secret =>
      have same : ((watch z calls).step z (.enableEncryption secret)).Twice ↔
        (watch z calls).Twice := Iff.rfl
      simp [sound.stained_enableEncryption, same]

/-- **An octet is decrypted twice just if encryption is turned on over octets that are counted as
decrypted, and something is decoded after that.** -/
theorem exists_twice_iff (z : Zlib.Library) (calls : List Call) :
    (∃ n ∈ (watch z calls).passes, 1 < n) ↔
      ∃ before secret after, calls = before ++ .enableEncryption secret :: after ∧
        0 < (watch z before).inlet.codec.decrypted ∧ .decode ∈ after := by
  rw [show (∃ n ∈ (watch z calls).passes, 1 < n) ↔ Used z calls from
    (stained_and_twice_iff z calls).2]
  constructor
  · rintro ⟨after, ⟨before, secret, split, counted⟩, used⟩
    exact ⟨before, secret, after, split, counted, used⟩
  · rintro ⟨before, secret, after, split, counted, used⟩
    exact ⟨after, ⟨before, secret, split, counted⟩, used⟩

end GameTransport.Codec
