import GameTransport.Cipher.Duplex

/-! # A stream may be cut anywhere

Both directions of `Cfb8` take octets one at a time through `passFrom`.  What a run of octets comes
to is therefore what its first part comes to, followed by what the rest comes to on the stream that
the first part left (`decrypt_append`).  A decryptor that starts where the encryptor started undoes
it and ends where the encryptor ended (`decrypt_encrypt`), whatever the block cipher is.
-/

namespace GameTransport

namespace Cfb8

theorem passFrom_eq (step : Cfb8 → UInt8 → UInt8 × Cfb8) (done : Bytes) (stream : Cfb8)
    (bytes : Bytes) :
    passFrom step done stream bytes =
      (done.reverse ++ (passFrom step [] stream bytes).1, (passFrom step [] stream bytes).2) := by
  induction bytes generalizing done stream with
  | nil => simp [passFrom]
  | cons b rest ih =>
    simp only [passFrom]
    rw [ih, ih [(step stream b).1]]
    simp

theorem passFrom_cons (step : Cfb8 → UInt8 → UInt8 × Cfb8) (stream : Cfb8) (b : UInt8)
    (rest : Bytes) :
    passFrom step [] stream (b :: rest) =
      ((step stream b).1 :: (passFrom step [] (step stream b).2 rest).1,
        (passFrom step [] (step stream b).2 rest).2) := by
  simp only [passFrom]
  rw [passFrom_eq step [(step stream b).1]]
  rfl

theorem passFrom_append (step : Cfb8 → UInt8 → UInt8 × Cfb8) (stream : Cfb8) (xs ys : Bytes) :
    passFrom step [] stream (xs ++ ys) =
      ((passFrom step [] stream xs).1 ++ (passFrom step [] (passFrom step [] stream xs).2 ys).1,
        (passFrom step [] (passFrom step [] stream xs).2 ys).2) := by
  induction xs generalizing stream with
  | nil => simp [passFrom]
  | cons b xs ih => simp only [List.cons_append, passFrom_cons, ih]

@[simp] theorem encrypt_nil (stream : Cfb8) : stream.encrypt [] = ([], stream) := rfl

@[simp] theorem decrypt_nil (stream : Cfb8) : stream.decrypt [] = ([], stream) := rfl

theorem encrypt_append (stream : Cfb8) (xs ys : Bytes) :
    stream.encrypt (xs ++ ys) =
      ((stream.encrypt xs).1 ++ ((stream.encrypt xs).2.encrypt ys).1,
        ((stream.encrypt xs).2.encrypt ys).2) :=
  passFrom_append _ _ _ _

theorem decrypt_append (stream : Cfb8) (xs ys : Bytes) :
    stream.decrypt (xs ++ ys) =
      ((stream.decrypt xs).1 ++ ((stream.decrypt xs).2.decrypt ys).1,
        ((stream.decrypt xs).2.decrypt ys).2) :=
  passFrom_append _ _ _ _

/-- A stream keeps its key. -/
@[simp] theorem block_decrypt (stream : Cfb8) (cipher : Bytes) :
    (stream.decrypt cipher).2.block = stream.block := by
  induction cipher generalizing stream with
  | nil => rfl
  | cons b rest ih =>
    have later := ih (stream.decryptByte b).2
    simp only [decrypt] at later ⊢
    rw [passFrom_cons, later]
    rfl

/-- An octet that was masked is unmasked by the same mask. -/
theorem decryptByte_encryptByte (stream : Cfb8) (plain : UInt8) :
    stream.decryptByte (stream.encryptByte plain).1 = (plain, (stream.encryptByte plain).2) := by
  simp only [decryptByte, encryptByte]
  rw [UInt8.xor_assoc, UInt8.xor_self, UInt8.xor_zero]

/-- **Decryption undoes encryption**, and both leave the same stream. -/
theorem decrypt_encrypt (stream : Cfb8) (plain : Bytes) :
    stream.decrypt (stream.encrypt plain).1 = (plain, (stream.encrypt plain).2) := by
  induction plain generalizing stream with
  | nil => rfl
  | cons b rest ih =>
    have first := decryptByte_encryptByte stream b
    have later := ih (stream.encryptByte b).2
    simp only [encrypt, decrypt] at later ⊢
    rw [passFrom_cons encryptByte, passFrom_cons decryptByte, first, later]

end Cfb8

namespace Duplex

@[simp] theorem decrypt_nil (duplex : Duplex) : duplex.decrypt [] = ([], duplex) := rfl

/-- What is received may be decrypted in parts. -/
theorem decrypt_append (duplex : Duplex) (xs ys : Bytes) :
    duplex.decrypt (xs ++ ys) =
      ((duplex.decrypt xs).1 ++ ((duplex.decrypt xs).2.decrypt ys).1,
        ((duplex.decrypt xs).2.decrypt ys).2) := by
  simp [decrypt, Cfb8.decrypt_append]

end Duplex

end GameTransport
