import GameTransport.Proofs.CipherStream
import GameTransport.Proofs.Ports
import Mathlib.Data.List.DropRight

/-! # Cutting an encrypted stream

Both directions of a stream take their octets in chunks, and nobody promises that the receiver's
chunks are the sender's.  The register is all that a chunk hands on to the next, and after any number
of octets it is the last sixteen of what it was at first and the ciphertext since
(`Cfb8.snd_encrypt`, `Cfb8.snd_decrypt`).  So it does not matter where a stream is cut
(`Cfb8.encryptAll_flatten`, `Cfb8.decryptAll_flatten`), and two receivers that have had sixteen octets
of ciphertext in common agree from there on (`Cfb8.decryptAll_agrees`).

`Cfb8.Masks` says what the ciphertext is, with neither register nor loop.  Nothing is assumed of the
block cipher.  A sealer has a buffer and both directions; what it answers to calls in any order is what
two streams answer that know nothing of each other (`Sealer.chunks_answerAll`).
-/

namespace GameTransport

/-- The first chunk passes, and then the others through what it leaves. -/
theorem mapM_cons_apply {σ α β : Type} (pass : α → StateM σ β) (first : α) (rest : List α) (s : σ) :
    (first :: rest).mapM pass s =
      ((pass first s).1 :: (rest.mapM pass (pass first s).2).1,
        (rest.mapM pass (pass first s).2).2) := by
  rw [List.mapM_cons]
  rfl

namespace Cfb8

variable {stream : Cfb8} {pass : Bytes → StateM Cfb8 Bytes}

/-! ### Chunks one after another -/

/-- Encrypts chunks one after another. -/
def encryptAll (chunks : List Bytes) : StateM Cfb8 (List Bytes) :=
  chunks.mapM fun chunk stream => stream.encrypt chunk

/-- Decrypts chunks one after another. -/
def decryptAll (chunks : List Bytes) : StateM Cfb8 (List Bytes) :=
  chunks.mapM fun chunk stream => stream.decrypt chunk

/-- What passes in two parts passes at once. -/
structure Seamless (pass : Bytes → StateM Cfb8 Bytes) : Prop where
  nil (stream : Cfb8) : pass [] stream = ([], stream)
  append (xs ys : Bytes) (stream : Cfb8) : pass (xs ++ ys) stream =
    ((pass xs stream).1 ++ (pass ys (pass xs stream).2).1, (pass ys (pass xs stream).2).2)

theorem seamless_encrypt : Seamless fun chunk stream => stream.encrypt chunk where
  nil := encrypt_nil
  append xs ys stream := encrypt_append stream xs ys

theorem seamless_decrypt : Seamless fun chunk stream => stream.decrypt chunk where
  nil := decrypt_nil
  append xs ys stream := decrypt_append stream xs ys

theorem Seamless.mapM_flatten (seamless : Seamless pass) (chunks : List Bytes) (stream : Cfb8) :
    ((chunks.mapM pass stream).1.flatten, (chunks.mapM pass stream).2) =
      pass chunks.flatten stream := by
  induction chunks generalizing stream with
  | nil => exact (seamless.nil stream).symm
  | cons chunk rest ih =>
    have later := ih (pass chunk stream).2
    rw [mapM_cons_apply, List.flatten_cons (l := chunk), seamless.append, ← later]
    simp

theorem mapM_lengths (same : ∀ chunk stream, (pass chunk stream).1.length = chunk.length)
    (chunks : List Bytes) (stream : Cfb8) :
    (chunks.mapM pass stream).1.map List.length = chunks.map List.length := by
  induction chunks generalizing stream with
  | nil => rfl
  | cons chunk rest ih =>
    rw [mapM_cons_apply]
    simp [same, ih]

/-- Where the sender cuts the stream does not matter. -/
theorem encryptAll_flatten (chunks : List Bytes) (stream : Cfb8) :
    ((encryptAll chunks stream).1.flatten, (encryptAll chunks stream).2) =
      stream.encrypt chunks.flatten :=
  seamless_encrypt.mapM_flatten chunks stream

/-- Where the receiver cuts the stream does not matter. -/
theorem decryptAll_flatten (chunks : List Bytes) (stream : Cfb8) :
    ((decryptAll chunks stream).1.flatten, (decryptAll chunks stream).2) =
      stream.decrypt chunks.flatten :=
  seamless_decrypt.mapM_flatten chunks stream

/-- Chunks of what was encrypted decrypt to as many octets of what it was encrypted from. -/
theorem decryptAll_of_front {plain : Bytes} {chunks : List Bytes}
    (front : chunks.flatten <+: (stream.encrypt plain).1) :
    (decryptAll chunks stream).1.flatten = plain.take chunks.flatten.length := by
  obtain ⟨rest, whole⟩ := front
  have undone := congrArg Prod.fst (decrypt_encrypt stream plain)
  rw [← whole, decrypt_append, ← decryptAll_flatten] at undone
  have length : (decryptAll chunks stream).1.flatten.length = chunks.flatten.length := by
    have passed := congrArg (List.length ∘ Prod.fst) (decryptAll_flatten chunks stream)
    simpa using passed
  have parts : (decryptAll chunks stream).1.flatten ++ _ = plain := undone
  rw [← parts, List.take_left' length]

/-! ### The register -/

/-- What a direction hands on to its next octet, after ciphertext. -/
def after (stream : Cfb8) (cipher : Bytes) : Cfb8 :=
  { stream with register := (stream.register ++ cipher).rtake 16 }

/-- Octet after octet, the register keeps the last sixteen. -/
theorem foldl_shift (full : stream.register.length = 16) (cipher : Bytes) :
    cipher.foldl shift stream = stream.after cipher := by
  induction cipher generalizing stream with
  | nil => simp [after, List.rtake, full]
  | cons b rest ih =>
    have full' : (stream.shift b).register.length = 16 := by
      simp [shift, full]
    have longer : 1 ≤ stream.register.length := by omega
    have moved : (stream.shift b).register ++ rest = (stream.register ++ b :: rest).drop 1 := by
      simp [shift, List.drop_append_of_le_length longer]
    rw [List.foldl_cons, ih full']
    unfold after List.rtake
    rw [moved, List.drop_drop]
    simp only [shift, List.length_drop, List.length_append, List.length_cons, full]
    congr 2
    omega

theorem snd_decrypt_eq_foldl (stream : Cfb8) (cipher : Bytes) :
    (stream.decrypt cipher).2 = cipher.foldl shift stream := by
  induction cipher generalizing stream with
  | nil => rfl
  | cons b rest ih =>
    have later := ih (stream.decryptByte b).2
    simp only [decrypt] at later ⊢
    rw [passFrom_cons decryptByte, later]
    rfl

/-- Decryption leaves the last sixteen octets of ciphertext in the register. -/
theorem snd_decrypt (full : stream.register.length = 16) (cipher : Bytes) :
    (stream.decrypt cipher).2 = stream.after cipher := by
  rw [snd_decrypt_eq_foldl, foldl_shift full]

/-- Encryption leaves the same register as the decryption of what it makes. -/
theorem snd_encrypt (full : stream.register.length = 16) (plain : Bytes) :
    (stream.encrypt plain).2 = stream.after (stream.encrypt plain).1 := by
  have received := congrArg Prod.snd (decrypt_encrypt stream plain)
  rw [← snd_decrypt full]
  exact received.symm

/-- Sixteen octets of ciphertext fill the register, whatever it held. -/
theorem rtake_append_of_le {α : Type} {count : Nat} (before : List α) {recent : List α}
    (enough : count ≤ recent.length) : (before ++ recent).rtake count = recent.rtake count := by
  have longer : before.length ≤ (before ++ recent).length - count := by
    rw [List.length_append]
    omega
  have rest : (before ++ recent).length - count - before.length = recent.length - count := by
    rw [List.length_append]
    omega
  unfold List.rtake
  rw [List.drop_append, List.drop_eq_nil_of_le longer, rest, List.nil_append]

/-- Two receivers with one key may start from different registers and miss different octets.  Sixteen
octets of ciphertext later they are the same. -/
theorem decryptAll_agrees {block : Bytes → Bytes} {register register' : Bytes}
    (full : register.length = 16) (full' : register'.length = 16)
    (missed missed' : List Bytes) {common common' : List Bytes}
    (same : common.flatten = common'.flatten) (enough : 16 ≤ common.flatten.length) :
    (decryptAll (missed ++ common) ⟨block, register⟩).2 =
      (decryptAll (missed' ++ common') ⟨block, register'⟩).2 := by
  have left := congrArg Prod.snd (decryptAll_flatten (missed ++ common) ⟨block, register⟩)
  have right := congrArg Prod.snd (decryptAll_flatten (missed' ++ common') ⟨block, register'⟩)
  rw [snd_decrypt full] at left
  rw [snd_decrypt full'] at right
  simp only [after, List.flatten_append, ← same, ← List.append_assoc] at left right
  rw [rtake_append_of_le _ enough] at left right
  exact left.trans right.symm

/-! ### The ciphertext -/

/-- Each octet of ciphertext is the plain octet and the first octet that the block cipher makes of the
sixteen octets before, added bit by bit. -/
def Masks (stream : Cfb8) (plain cipher : Bytes) : Prop :=
  ∀ i : Nat, cipher[i]? =
    plain[i]?.map (· ^^^ (stream.block ((stream.register ++ cipher.take i).rtake 16)).headD 0)

theorem encrypt_cons (stream : Cfb8) (b : UInt8) (rest : Bytes) :
    (stream.encrypt (b :: rest)).1 =
      (b ^^^ stream.mask) :: ((stream.shift (b ^^^ stream.mask)).encrypt rest).1 := by
  rw [encrypt, passFrom_cons]
  rfl

/-- Encryption makes the ciphertext of its octets. -/
theorem masks_encrypt (full : stream.register.length = 16) (plain : Bytes) :
    stream.Masks plain (stream.encrypt plain).1 := by
  intro i
  by_cases within : i < plain.length
  · have cut : plain = plain.take i ++ plain[i] :: plain.drop (i + 1) := by simp
    have parts : (stream.encrypt plain).1 = (stream.encrypt (plain.take i)).1 ++
        ((stream.after (stream.encrypt (plain.take i)).1).encrypt
          (plain[i] :: plain.drop (i + 1))).1 := by
      conv_lhs => rw [cut, encrypt_append, snd_encrypt full]
    have length : (stream.encrypt (plain.take i)).1.length = i := by
      simp [within.le]
    have before : (stream.encrypt plain).1.take i = (stream.encrypt (plain.take i)).1 := by
      rw [parts, List.take_left' length]
    rw [before, parts, List.getElem?_append_right length.le, length, Nat.sub_self, encrypt_cons,
      List.getElem?_cons_zero, List.getElem?_eq_getElem within]
    rfl
  · have most : plain.length ≤ i := by omega
    simp [most]

end Cfb8

/-! ### Both directions -/

/-- The directions of a connection, as seen from one end. -/
inductive Direction where
  | outbound
  | inbound
  deriving DecidableEq, Repr

namespace Direction

/-- The octets of a direction, chunk by chunk. -/
def chunks (direction : Direction) (tagged : List (Direction × Bytes)) : List Bytes :=
  (tagged.filter (·.1 = direction)).map (·.2)

/-- The stream of a direction. -/
def stream : Direction → Duplex → Cfb8
  | outbound => Duplex.outbound
  | inbound => Duplex.inbound

/-- What goes out is encrypted, and what comes in is decrypted. -/
def pass : Direction → Bytes → StateM Cfb8 Bytes
  | outbound => fun plain stream => stream.encrypt plain
  | inbound => fun cipher stream => stream.decrypt cipher

end Direction

namespace Sealer

/-- One call, and the answer to it. -/
def answer (call : Direction × Bytes) : StateM Sealer (Direction × Bytes) := fun sealer =>
  let (result, sealer) := match call.1 with
    | .outbound => sealer.encrypt call.2
    | .inbound => sealer.decrypt call.2
  ((call.1, result), sealer)

/-- Calls of both directions, in any order. -/
def answerAll (calls : List (Direction × Bytes)) : StateM Sealer (List (Direction × Bytes)) :=
  calls.mapM answer

variable (sealer : Sealer)

/-- A call is answered by the stream of its direction. -/
theorem fst_answer (direction : Direction) (chunk : Bytes) :
    (answer (direction, chunk) sealer).1 =
      (direction, (direction.pass chunk (direction.stream sealer.duplex)).1) := by
  cases direction with
  | outbound => exact congrArg (Prod.mk _) (fst_encrypt sealer chunk)
  | inbound => rfl

/-- A call moves the stream of its direction on, and leaves the other where it was. -/
theorem stream_answer (direction other : Direction) (chunk : Bytes) :
    other.stream (answer (direction, chunk) sealer).2.duplex =
      if direction = other then (other.pass chunk (other.stream sealer.duplex)).2
      else other.stream sealer.duplex := by
  cases direction with
  | outbound =>
    have moved : (answer (.outbound, chunk) sealer).2.duplex = (sealer.duplex.encrypt chunk).2 :=
      duplex_encrypt sealer chunk
    rw [moved]
    cases other <;> rfl
  | inbound => cases other <;> rfl

/-- The answers of a direction are what its stream makes of the calls of that direction. -/
theorem chunks_answerAll (direction : Direction) (calls : List (Direction × Bytes)) :
    (direction.chunks (answerAll calls sealer).1,
        direction.stream (answerAll calls sealer).2.duplex) =
      (direction.chunks calls).mapM direction.pass (direction.stream sealer.duplex) := by
  induction calls generalizing sealer with
  | nil => rfl
  | cons call rest ih =>
    obtain ⟨towards, chunk⟩ := call
    have later := ih (answer (towards, chunk) sealer).2
    have moved := stream_answer sealer towards direction chunk
    unfold answerAll at later ⊢
    rw [mapM_cons_apply, fst_answer]
    by_cases same : towards = direction
    · subst same
      rw [if_pos rfl] at moved
      rw [moved] at later
      simp only [Direction.chunks, List.filter_cons, decide_true, if_true,
        List.map_cons] at later ⊢
      rw [mapM_cons_apply, ← later]
    · rw [if_neg same] at moved
      rw [moved] at later
      simpa [Direction.chunks, same] using later

theorem directions_answerAll (calls : List (Direction × Bytes)) :
    (answerAll calls sealer).1.map Prod.fst = calls.map Prod.fst := by
  induction calls generalizing sealer with
  | nil => rfl
  | cons call rest ih =>
    have later := ih (answer call sealer).2
    unfold answerAll at later ⊢
    rw [mapM_cons_apply, fst_answer]
    simp [later]

end Sealer

/-! ### The result -/

open Cfb8 Direction Sealer in
/-- **An encrypted stream may be cut anywhere, on both sides.**  The ciphertext is that of all octets
at once, any chunks of it decrypt to what was encrypted, and the register of either side holds the last
sixteen octets of ciphertext, so that receivers fall into step.  A sealer answers calls in any order so,
direction by direction, whatever stands in its buffer. -/
theorem encrypted_stream_cut_anywhere (block : Bytes → Bytes) (register : Bytes)
    (full : register.length = 16) :
    let stream : Cfb8 := ⟨block, register⟩
    (∀ plains : List Bytes,
      let sent := encryptAll plains stream
      sent.1.flatten = (stream.encrypt plains.flatten).1 ∧
      sent.1.map List.length = plains.map List.length ∧
      stream.Masks plains.flatten sent.1.flatten ∧
      sent.2 = ⟨block, (register ++ sent.1.flatten).rtake 16⟩ ∧
      ∀ ciphers : List Bytes, ciphers.flatten <+: sent.1.flatten →
        let received := decryptAll ciphers stream
        received.1.flatten = plains.flatten.take ciphers.flatten.length ∧
        received.1.map List.length = ciphers.map List.length ∧
        received.2 = ⟨block, (register ++ ciphers.flatten).rtake 16⟩) ∧
    (∀ (register' : Bytes) (missed missed' common common' : List Bytes), register'.length = 16 →
      common.flatten = common'.flatten → 16 ≤ common.flatten.length →
      (decryptAll (missed ++ common) stream).2 =
        (decryptAll (missed' ++ common') ⟨block, register'⟩).2) ∧
    ∀ (sealer : Sealer) (calls : List (Direction × Bytes)),
      let answered := answerAll calls sealer
      answered.1.map Prod.fst = calls.map Prod.fst ∧
      (outbound.chunks answered.1, answered.2.duplex.outbound) =
        encryptAll (outbound.chunks calls) sealer.duplex.outbound ∧
      (inbound.chunks answered.1, answered.2.duplex.inbound) =
        decryptAll (inbound.chunks calls) sealer.duplex.inbound := by
  intro stream
  refine ⟨fun plains => ?_, fun register' missed missed' common common' full' same enough =>
    decryptAll_agrees full full' missed missed' same enough, fun sealer calls =>
    ⟨directions_answerAll sealer calls, chunks_answerAll sealer .outbound calls,
      chunks_answerAll sealer .inbound calls⟩⟩
  have atOnce : (encryptAll plains stream).1.flatten = (stream.encrypt plains.flatten).1 :=
    congrArg Prod.fst (encryptAll_flatten plains stream)
  have left : (encryptAll plains stream).2 = (stream.encrypt plains.flatten).2 :=
    congrArg Prod.snd (encryptAll_flatten plains stream)
  have lengths := mapM_lengths (fun chunk stream => length_encrypt stream chunk) plains stream
  have masked : stream.Masks plains.flatten (encryptAll plains stream).1.flatten := by
    rw [atOnce]
    exact masks_encrypt full plains.flatten
  have handed : (encryptAll plains stream).2 =
      stream.after (encryptAll plains stream).1.flatten := by
    rw [left, atOnce]
    exact snd_encrypt full plains.flatten
  refine ⟨atOnce, lengths, masked, handed, ?_⟩
  intro ciphers front
  have front' : ciphers.flatten <+: (stream.encrypt plains.flatten).1 := atOnce ▸ front
  have lengths' := mapM_lengths (fun chunk stream => length_decrypt stream chunk) ciphers stream
  have handed' : (decryptAll ciphers stream).2 = stream.after ciphers.flatten :=
    (congrArg Prod.snd (decryptAll_flatten ciphers stream)).trans
      (snd_decrypt full ciphers.flatten)
  exact ⟨decryptAll_of_front front', lengths', handed'⟩

open Cfb8 Direction Sealer in
/-- Eighteen octets, cut in two ways, a receiver that has missed the first, and a buffer that is not
clean. -/
theorem cut_stream_received :
    let block : Bytes → Bytes := fun register => register.reverse.map (· + 7)
    let register : Bytes := List.replicate 16 5
    let stream : Cfb8 := ⟨block, register⟩
    let plains : List Bytes := [[1, 2], [], List.replicate 16 3]
    let sent := (encryptAll plains stream).1.flatten
    let sealer : Sealer := ⟨⟨stream, stream⟩, [9, 9, 9]⟩
    let calls := [(outbound, [1, 2]), (inbound, [7]), (outbound, [3])]
    register.length = 16 ∧ [sent.take 1, sent.drop 1].flatten <+: sent ∧
      (decryptAll [sent.take 1, sent.drop 1] stream).1.flatten = plains.flatten ∧
      (decryptAll [sent.take 1, sent.drop 1] stream).2 =
        (decryptAll [(sent.drop 1).take 3, sent.drop 4] ⟨block, List.replicate 16 0⟩).2 ∧
      outbound.chunks (answerAll calls sealer).1 = [[13, 22], [30]] := by
  intro block register stream plains sent sealer calls
  obtain ⟨cut, agree, answered⟩ := encrypted_stream_cut_anywhere block register (by decide)
  have front : [sent.take 1, sent.drop 1].flatten <+: sent := by decide
  have received := (cut plains).2.2.2.2 [sent.take 1, sent.drop 1] front
  have agreed := agree (List.replicate 16 0) [sent.take 1] [] [sent.drop 1]
    [(sent.drop 1).take 3, sent.drop 4] (by decide) (by decide) (by decide)
  have encrypted := (answered sealer calls).2.1
  exact ⟨by decide, front, received.1.trans (by decide), agreed,
    (congrArg Prod.fst encrypted).trans (by decide)⟩

end GameTransport
