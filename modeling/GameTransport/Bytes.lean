/-!
# Runs of octets

A stream is a list of octets.  The one thing a list does not come with is the reading of such a
run as a number: `Bytes.toNat` takes the octets as digits in base 256, most significant first, and
`Bytes.ofNat width` writes the last `width` of those digits.
-/

namespace GameTransport

/-- A run of octets, as it travels on a stream. -/
abbrev Bytes := List UInt8

namespace Bytes

/-- The number whose digits in base 256, most significant first, are `bytes`. -/
def toNat (bytes : Bytes) : Nat :=
  bytes.foldl (fun n b => n * 256 + b.toNat) 0

/-- The last `width` digits of `n` in base 256, most significant first. -/
def ofNat : (width : Nat) → (n : Nat) → Bytes
  | 0, _ => []
  | width + 1, n => ofNat width (n / 256) ++ [UInt8.ofNat n]

@[simp] theorem length_ofNat (width n : Nat) : (ofNat width n).length = width := by
  induction width generalizing n with
  | zero => rfl
  | succ width ih => simp [ofNat, ih]

theorem toNat_append_singleton (bytes : Bytes) (b : UInt8) :
    toNat (bytes ++ [b]) = toNat bytes * 256 + b.toNat := by
  simp [toNat]

/-- Writing keeps the number up to the width. -/
theorem toNat_ofNat (width n : Nat) : toNat (ofNat width n) = n % Nat.pow 256 width := by
  induction width generalizing n with
  | zero => simp [ofNat, toNat, Nat.mod_one]
  | succ width ih =>
    have hpow : Nat.pow 256 (width + 1) = 256 * Nat.pow 256 width := Nat.mul_comm _ _
    rw [ofNat, toNat_append_singleton, ih, hpow, Nat.mod_mul, UInt8.toNat_ofNat']
    omega

end Bytes

end GameTransport
