import GameTransport.Wire.Varint
import Mathlib.Algebra.Group.Nat.Defs

/-! # Readers one after another

A reader that is bound to another runs first, and what it leaves is what the other reads
(`bind_ok`).  So two readers succeed one after the other only if each does (`of_bind_ok`).  Numbers of
variable length are the first case: `Varint.digits` looks at one octet at a time, so what
`Varint.encode` writes is read back by every reader that allows enough octets, whatever stands after
it (`readU32_encode`).
-/

namespace GameTransport

namespace Reader

variable {ε σ α β : Type} {x : EStateM ε σ α} {s t : σ}

section Bind

variable {f : α → EStateM ε σ β}

theorem bind_ok {value : α} (h : x s = .ok value t) : (x >>= f) s = f value t := by
  change EStateM.bind x f s = _
  rw [EStateM.bind, h]

theorem bind_error {fault : ε} (h : x s = .error fault t) : (x >>= f) s = .error fault t := by
  change EStateM.bind x f s = _
  rw [EStateM.bind, h]

/-- Readers one after another succeed only if each does. -/
theorem of_bind_ok {result : β} (h : (x >>= f) s = .ok result t) :
    ∃ value between, x s = .ok value between ∧ f value between = .ok result t := by
  change EStateM.bind x f s = _ at h
  rw [EStateM.bind] at h
  rcases first : x s with ⟨value, between⟩ | ⟨fault, between⟩ <;> rw [first] at h
  · exact ⟨value, between, rfl, h⟩
  · cases h

end Bind

theorem map_ok {g : α → β} {value : α} (h : x s = .ok value t) :
    (g <$> x) s = .ok (g value) t := by
  change EStateM.map g x s = _
  rw [EStateM.map, h]

theorem map_error {g : α → β} {fault : ε} (h : x s = .error fault t) :
    (g <$> x) s = .error fault t := by
  change EStateM.map g x s = _
  rw [EStateM.map, h]

theorem of_map_ok {g : α → β} {result : β} (h : (g <$> x) s = .ok result t) :
    ∃ value, x s = .ok value t ∧ g value = result := by
  change EStateM.map g x s = _ at h
  rw [EStateM.map] at h
  rcases first : x s with ⟨value, after⟩ | ⟨fault, after⟩ <;> rw [first] at h
  · cases h
    exact ⟨value, rfl, rfl⟩
  · cases h

end Reader

namespace Varint

theorem encode_of_lt {n : Nat} (h : n < 128) : encode n = [UInt8.ofNat n] := by
  rw [encode, if_pos h]

theorem encode_of_le {n : Nat} (h : 128 ≤ n) :
    encode n = UInt8.ofNat (n % 128 + 128) :: encode (n / 128) := by
  rw [encode, if_neg (Nat.not_lt.mpr h)]

theorem encode_ne_nil (n : Nat) : encode n ≠ [] := by
  rw [encode]
  split <;> exact List.cons_ne_nil _ _

/-- The last digit has no mark. -/
theorem toNat_last {n : Nat} (h : n < 128) : (UInt8.ofNat n).toNat = n := by
  rw [UInt8.toNat_ofNat']
  omega

theorem last_lt {n : Nat} (h : n < 128) : UInt8.ofNat n < 128 := by
  rw [UInt8.lt_iff_toNat_lt, toNat_last h]
  exact h

/-- Every other digit has its mark. -/
theorem toNat_marked (n : Nat) : (UInt8.ofNat (n % 128 + 128)).toNat = n % 128 + 128 := by
  rw [UInt8.toNat_ofNat']
  omega

theorem not_marked_lt (n : Nat) : ¬ UInt8.ofNat (n % 128 + 128) < 128 := by
  rw [UInt8.lt_iff_toNat_lt, toNat_marked]
  change ¬ n % 128 + 128 < 128
  omega

variable {what : String} {overlong : Fault}

theorem digits_last {left : Nat} {b : UInt8} (rest : Bytes) (h : b < 128) :
    digits what overlong (left + 1) (b :: rest) = .ok b.toNat rest := by
  change (if b < 128 then _ else _ : Reader Nat) rest = _
  rw [if_pos h]
  rfl

theorem digits_marked {left higher : Nat} {b : UInt8} {rest after : Bytes} (h : ¬ b < 128)
    (later : digits what overlong left rest = .ok higher after) :
    digits what overlong (left + 1) (b :: rest) = .ok (b.toNat - 128 + 128 * higher) after := by
  change (if b < 128 then _ else _ : Reader Nat) rest = _
  rw [if_neg h, Reader.bind_ok later]
  rfl

/-- A number of no more digits than are allowed is read back. -/
theorem digits_encode {left n : Nat} (rest : Bytes) (fits : n < 128 ^ (left + 1)) :
    digits what overlong (left + 1) (encode n ++ rest) = .ok n rest := by
  induction left generalizing n with
  | zero =>
    have small : n < 128 := by simpa using fits
    rw [encode_of_lt small, List.singleton_append, digits_last rest (last_lt small),
      toNat_last small]
  | succ left ih =>
    by_cases small : n < 128
    · rw [encode_of_lt small, List.singleton_append, digits_last rest (last_lt small),
        toNat_last small]
    · have higher : n / 128 < 128 ^ (left + 1) := by
        rw [Nat.pow_succ] at fits
        exact Nat.div_lt_of_lt_mul (by rw [Nat.mul_comm]; exact fits)
      rw [encode_of_le (Nat.not_lt.mp small), List.cons_append,
        digits_marked (not_marked_lt n) (ih higher), toNat_marked,
        show n % 128 + 128 - 128 + 128 * (n / 128) = n by omega]

/-- **A number of 32 bits is read back**, and what stands after it is left. -/
theorem readU32_encode {n : Nat} (rest : Bytes) (fits : n < 2 ^ 32) :
    readU32 (encode n ++ rest) = .ok (UInt32.ofNat n) rest :=
  Reader.map_ok (digits_encode rest (Nat.lt_trans fits (by decide)))

theorem readU32_encode_toNat (n : UInt32) (rest : Bytes) :
    readU32 (encode n.toNat ++ rest) = .ok n rest := by
  rw [readU32_encode rest n.toNat_lt, UInt32.ofNat_toNat]

theorem readU64_encode {n : Nat} (rest : Bytes) (fits : n < 2 ^ 64) :
    readU64 (encode n ++ rest) = .ok (UInt64.ofNat n) rest :=
  Reader.map_ok (digits_encode rest (Nat.lt_trans fits (by decide)))

/-! ### Signed numbers -/

theorem fold_lt {z : Int} {bound : Nat} (below : -bound ≤ z) (above : z < bound) :
    fold z < 2 * bound := by
  unfold fold
  split <;> omega

theorem readI32_encodeI32 (z : Int32) (rest : Bytes) :
    readI32 (encodeI32 z ++ rest) = .ok z rest := by
  have fits : fold z.toInt < 2 ^ 32 := fold_lt z.le_toInt z.toInt_lt
  have read := Reader.map_ok (g := fun n : UInt32 => Int32.ofInt (unfold n.toNat))
    (readU32_encode rest fits)
  rw [UInt32.toNat_ofNat_of_lt' fits, unfold_fold, Int32.ofInt_toInt] at read
  exact read

theorem readI64_encodeI64 (z : Int64) (rest : Bytes) :
    readI64 (encodeI64 z ++ rest) = .ok z rest := by
  have fits : fold z.toInt < 2 ^ 64 := fold_lt z.le_toInt z.toInt_lt
  have read := Reader.map_ok (g := fun n : UInt64 => Int64.ofInt (unfold n.toNat))
    (readU64_encode rest fits)
  rw [UInt64.toNat_ofNat_of_lt' fits, unfold_fold, Int64.ofInt_toInt] at read
  exact read

/-! ### Sizes -/

theorem length_encode_le {left n : Nat} (fits : n < 128 ^ (left + 1)) :
    (encode n).length ≤ left + 1 := by
  induction left generalizing n with
  | zero =>
    rw [encode_of_lt (by simpa using fits)]
    exact Nat.le_refl _
  | succ left ih =>
    by_cases small : n < 128
    · rw [encode_of_lt small, List.length_singleton]
      omega
    · have higher : n / 128 < 128 ^ (left + 1) := by
        rw [Nat.pow_succ] at fits
        exact Nat.div_lt_of_lt_mul (by rw [Nat.mul_comm]; exact fits)
      rw [encode_of_le (Nat.not_lt.mp small), List.length_cons]
      have := ih higher
      omega

theorem length_encode_toNat_le (n : UInt32) : (encode n.toNat).length ≤ 5 :=
  length_encode_le (Nat.lt_trans n.toNat_lt (by decide))

end Varint

end GameTransport
