import GameTransport.KeyExchange.ServerKey
import Mathlib.FieldTheory.Finite.Basic

/-! # A message under a public key is opened with its pair

What is encrypted is a number below the modulus: the padding begins with a zero octet, so it has
fewer octets than the modulus (`Rsa.toNat_lt_modulus`).  The two exponents of a pair leave such a
number as it is, modulo either prime by Fermat's little theorem and hence modulo the product
(`Rsa.KeyPair.power_power`).  What is left is the padding, which is taken off where it was put on.
-/

namespace GameTransport

namespace Bytes

theorem toNat_lt (bytes : Bytes) : toNat bytes < 256 ^ bytes.length := by
  induction bytes using List.reverseRecOn with
  | nil => exact Nat.one_pos
  | append_singleton bytes b ih =>
    have digit := b.toNat_lt
    rw [toNat_append_singleton, List.length_append, List.length_singleton, Nat.pow_succ]
    omega

theorem ofNat_toNat (bytes : Bytes) : ofNat bytes.length (toNat bytes) = bytes := by
  induction bytes using List.reverseRecOn with
  | nil => rfl
  | append_singleton bytes b ih =>
    have digit := b.toNat_lt
    have front : (toNat bytes * 256 + b.toNat) / 256 = toNat bytes := by omega
    have last : UInt8.ofNat (toNat bytes * 256 + b.toNat) = b := by
      apply UInt8.toNat_inj.mp
      rw [UInt8.toNat_ofNat']
      omega
    rw [toNat_append_singleton, List.length_append, List.length_singleton, ofNat, front, last, ih]

end Bytes

namespace Rsa

/-! ## Arithmetic -/

theorem power_eq (modulus base exponent : Nat) :
    power modulus base exponent = base ^ exponent % modulus := by
  induction exponent using Nat.strong_induction_on generalizing base with
  | h exponent ih =>
    rw [power]
    by_cases zero : exponent = 0
    · rw [if_pos zero, zero, Nat.pow_zero]
    · have halved : power modulus (base * base % modulus) (exponent / 2) =
          base ^ (2 * (exponent / 2)) % modulus := by
        rw [ih _ (by omega), ← Nat.pow_mod, ← Nat.pow_two, ← Nat.pow_mul]
      rw [if_neg zero]
      dsimp only
      rw [halved]
      by_cases odd : exponent % 2 = 1
      · have whole : exponent = 2 * (exponent / 2) + 1 := by omega
        rw [if_pos odd, Nat.mul_mod_mod, ← pow_succ', ← whole]
      · have whole : exponent = 2 * (exponent / 2) := by omega
        rw [if_neg odd, ← whole]

/-- The factors make the divisor. -/
theorem divisor_factors (a b : Nat) :
    (a : Int) * (divisor a b).2.1 + b * (divisor a b).2.2 = Nat.gcd a b := by
  induction a, b using divisor.induct with
  | case1 a =>
    rw [divisor, if_pos rfl, Nat.gcd_zero_right]
    ring
  | case2 a b positive _ _ _ _ ih =>
    have steps : Nat.gcd b (a % b) = Nat.gcd a b := by
      rw [Nat.gcd_comm a b, Nat.gcd_rec b a, Nat.gcd_comm]
    have divides : (a : Int) = b * (a / b : Nat) + (a % b : Nat) := by
      exact_mod_cast (Nat.div_add_mod a b).symm
    rw [divisor, if_neg positive, ← steps, ← ih]
    dsimp only
    linear_combination (divisor b (a % b)).2.2 * divides

/-- An inverse is one. -/
theorem mul_inverse {a modulus : Nat} (positive : 0 < modulus) (coprime : Nat.Coprime a modulus) :
    a * inverse a modulus ≡ 1 [MOD modulus] := by
  have factors := divisor_factors a modulus
  rw [Nat.coprime_iff_gcd_eq_one.mp coprime] at factors
  have residue : ((inverse a modulus : Nat) : Int) = (divisor a modulus).2.1 % modulus :=
    Int.toNat_of_nonneg (Int.emod_nonneg _ (by omega))
  apply Int.natCast_modEq_iff.mp
  rw [Nat.cast_mul, residue, ← factors]
  calc
    (a : Int) * ((divisor a modulus).2.1 % modulus)
      ≡ a * (divisor a modulus).2.1 [ZMOD modulus] := (Int.mod_modEq _ _).mul_left _
    _ ≡ a * (divisor a modulus).2.1 + modulus * (divisor a modulus).2.2 [ZMOD modulus] :=
      (Int.modEq_add_modulus_mul_iff.mpr rfl)

/-- Fermat's little theorem, for numbers that the prime may divide. -/
theorem pow_succ_modEq {p k : Nat} (prime : p.Prime) (whole : p - 1 ∣ k) (n : Nat) :
    n ^ (k + 1) ≡ n [MOD p] := by
  have : Fact p.Prime := ⟨prime⟩
  obtain ⟨times, rfl⟩ := whole
  apply (ZMod.natCast_eq_natCast_iff _ _ _).mp
  push_cast
  -- The theorem needs a number that the prime does not divide; a multiple of it stays one.
  by_cases zero : (n : ZMod p) = 0
  · rw [zero, pow_succ, mul_zero]
  · rw [pow_succ, pow_mul, ZMod.pow_card_sub_one_eq_one zero, one_pow, one_mul]

/-! ## Padding -/

theorem unpad?_append {padding message : Bytes} (filled : ∀ octet ∈ padding, (octet != 0) = true)
    (enough : minPadding ≤ padding.length) :
    unpad? (0 :: 2 :: padding ++ 0 :: message) = some message := by
  have kept : (padding ++ 0 :: message).takeWhile (· != 0) = padding := by
    rw [List.takeWhile_append_of_pos filled, List.takeWhile_cons_of_neg (by decide), List.append_nil]
  have left : (padding ++ 0 :: message).dropWhile (· != 0) = 0 :: message := by
    rw [List.dropWhile_append_of_pos filled, List.dropWhile_cons_of_neg (by decide)]
  rw [List.cons_append, List.cons_append, unpad?, left]
  dsimp only
  rw [kept, if_pos enough]

/-- Any filler fills its room. -/
theorem length_filling {filler : Bytes} (usable : filler ≠ []) (room : Nat) :
    ((List.replicate room filler).flatten.take room).length = room := by
  have one : 1 ≤ filler.length := List.length_pos_iff.mpr usable
  rw [List.length_take, List.length_flatten, List.map_replicate, List.sum_replicate_nat]
  exact Nat.min_eq_left (Nat.le_mul_of_pos_right room one)

/-- What is padded has the size that was asked for, begins with zero and says the message. -/
theorem pad?_eq_some {size : Nat} {filler message octets : Bytes}
    (padded : pad? size filler message = some octets) :
    octets.length = size ∧ (∃ rest, octets = 0 :: rest) ∧ unpad? octets = some message := by
  unfold pad? at padded
  dsimp only at padded
  split at padded
  · cases padded
  · rename_i fits
    rw [Bool.or_eq_true, decide_eq_true_eq, List.isEmpty_iff, not_or] at fits
    obtain ⟨room, usable⟩ := fits
    have filled := length_filling usable (size - message.length - 3)
    obtain rfl := Option.some.inj padded
    refine ⟨?_, ⟨_, rfl⟩, unpad?_append ?_ ?_⟩
    · rw [List.length_append, List.length_cons, List.length_cons, List.length_cons, filled]
      omega
    · intro octet member
      obtain ⟨part, parts, there⟩ := List.mem_flatten.mp (List.mem_of_mem_take member)
      rw [List.eq_of_mem_replicate parts] at there
      exact (List.mem_filter.mp there).2
    · rw [filled]
      omega

/-- Any message short enough can be padded. -/
theorem exists_pad? {size : Nat} {filler message : Bytes}
    (room : message.length + minPadding + 3 ≤ size) (usable : filler.filter (· != 0) ≠ []) :
    ∃ octets, pad? size filler message = some octets := by
  unfold pad?
  dsimp only
  rw [if_neg]
  · exact ⟨_, rfl⟩
  · rw [Bool.or_eq_true, decide_eq_true_eq, List.isEmpty_iff, not_or]
    exact ⟨Nat.not_lt.mpr room, usable⟩

/-! ## Pairs -/

/-- What begins with zero and has no more octets than the modulus is below it. -/
theorem toNat_lt_modulus {key : PublicKey} (positive : key.modulus ≠ 0) {rest : Bytes}
    (size : (0 :: rest).length = key.size) : Bytes.toNat (0 :: rest) < key.modulus := by
  have bound := Bytes.toNat_lt rest
  have fewer : 8 * rest.length ≤ key.modulus.log2 := by
    unfold PublicKey.size at size
    rw [List.length_cons] at size
    omega
  calc
    Bytes.toNat (0 :: rest) < 256 ^ rest.length := bound
    _ = 2 ^ (8 * rest.length) := by rw [Nat.pow_mul]
    _ ≤ 2 ^ key.modulus.log2 := Nat.pow_le_pow_right (by decide) fewer
    _ ≤ key.modulus := Nat.log2_self_le positive

theorem modulus_lt (key : PublicKey) : key.modulus < Nat.pow 256 key.size := by
  have fewer : key.modulus.log2 + 1 ≤ 8 * key.size := by
    unfold PublicKey.size
    omega
  calc
    key.modulus < 2 ^ (key.modulus.log2 + 1) := Nat.lt_log2_self
    _ ≤ 2 ^ (8 * key.size) := Nat.pow_le_pow_right (by decide) fewer
    _ = Nat.pow 256 key.size := Nat.pow_mul 2 8 key.size

/-- Any message short enough can be encrypted. -/
theorem PublicKey.exists_encrypt? {key : PublicKey} {filler message : Bytes}
    (room : message.length + minPadding + 3 ≤ key.size) (usable : filler.filter (· != 0) ≠ []) :
    ∃ cipher, key.encrypt? filler message = some cipher ∧ cipher.length = key.size := by
  obtain ⟨octets, padded⟩ := exists_pad? room usable
  unfold encrypt?
  rw [padded]
  exact ⟨_, rfl, Bytes.length_ofNat _ _⟩

/-- A pair whose exponents undo each other modulo both primes. -/
structure KeyPair.OfPrimes (pair : KeyPair) (p q : Nat) : Prop where
  prime : p.Prime
  prime' : q.Prime
  distinct : p ≠ q
  modulus : pair.publicKey.modulus = p * q
  undone : ∃ k, pair.publicKey.exponent * pair.privateExponent = k + 1 ∧ p - 1 ∣ k ∧ q - 1 ∣ k

namespace KeyPair

variable {p q : Nat} {pair : KeyPair}

theorem ofPrimes_of_coprime (prime : p.Prime) (prime' : q.Prime) (distinct : p ≠ q)
    (coprime : Nat.Coprime 65537 (Nat.lcm (p - 1) (q - 1))) : (ofPrimes p q).OfPrimes p q := by
  refine ⟨prime, prime', distinct, rfl, ?_⟩
  have low : 0 < p - 1 := Nat.sub_pos_of_lt prime.one_lt
  have low' : 0 < q - 1 := Nat.sub_pos_of_lt prime'.one_lt
  have positive : 0 < Nat.lcm (p - 1) (q - 1) := Nat.lcm_pos low low'
  have one := mul_inverse positive coprime
  have nonzero : 65537 * inverse 65537 (Nat.lcm (p - 1) (q - 1)) ≠ 0 := by
    intro zero
    rw [zero] at one
    have unit := Nat.modEq_zero_iff_dvd.mp one.symm
    have two := Nat.dvd_one.mp ((Nat.dvd_lcm_left (p - 1) (q - 1)).trans unit)
    have two' := Nat.dvd_one.mp ((Nat.dvd_lcm_right (p - 1) (q - 1)).trans unit)
    omega
  obtain ⟨k, exponents⟩ := Nat.exists_eq_succ_of_ne_zero nonzero
  have whole : Nat.lcm (p - 1) (q - 1) ∣ k := by
    rw [exponents] at one
    exact (Nat.modEq_iff_dvd' (Nat.succ_pos k)).mp one.symm
  exact ⟨k, exponents, (Nat.dvd_lcm_left _ _).trans whole, (Nat.dvd_lcm_right _ _).trans whole⟩

/-- The exponents of a pair leave a number below its modulus as it is. -/
theorem OfPrimes.power_power (ofPrimes : pair.OfPrimes p q) {n : Nat}
    (below : n < pair.publicKey.modulus) :
    power pair.publicKey.modulus
        (power pair.publicKey.modulus n pair.publicKey.exponent) pair.privateExponent = n := by
  obtain ⟨k, exponents, whole, whole'⟩ := ofPrimes.undone
  have coprime : Nat.Coprime p q :=
    (Nat.coprime_primes ofPrimes.prime ofPrimes.prime').mpr ofPrimes.distinct
  have same : n ^ (k + 1) ≡ n [MOD p * q] :=
    (Nat.modEq_and_modEq_iff_modEq_mul coprime).mp
      ⟨pow_succ_modEq ofPrimes.prime whole n, pow_succ_modEq ofPrimes.prime' whole' n⟩
  rw [power_eq, power_eq, ← Nat.pow_mod, ← Nat.pow_mul, exponents, ofPrimes.modulus, same]
  exact Nat.mod_eq_of_lt (ofPrimes.modulus ▸ below)

/-- **What is encrypted under a public key is opened with its pair.** -/
theorem OfPrimes.decrypt?_encrypt? (ofPrimes : pair.OfPrimes p q) {filler message cipher : Bytes}
    (encrypted : pair.publicKey.encrypt? filler message = some cipher) :
    pair.decrypt? cipher = some message := by
  obtain ⟨padded, pads, rfl⟩ := Option.map_eq_some_iff.mp encrypted
  obtain ⟨size, ⟨rest, rfl⟩, unpads⟩ := pad?_eq_some pads
  have positive : pair.publicKey.modulus ≠ 0 := by
    rw [ofPrimes.modulus]
    exact Nat.mul_ne_zero ofPrimes.prime.ne_zero ofPrimes.prime'.ne_zero
  have below := toNat_lt_modulus positive size
  have below' : power pair.publicKey.modulus (Bytes.toNat (0 :: rest)) pair.publicKey.exponent <
      pair.publicKey.modulus := by
    rw [power_eq]
    exact Nat.mod_lt _ (Nat.pos_of_ne_zero positive)
  unfold decrypt?
  dsimp only
  rw [Bytes.toNat_ofNat, Nat.mod_eq_of_lt (below'.trans (modulus_lt _)), if_pos below',
    ofPrimes.power_power below, ← size, Bytes.ofNat_toNat, unpads]

end KeyPair

end Rsa

end GameTransport
