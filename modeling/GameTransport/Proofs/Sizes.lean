import GameTransport.KeyExchange.ServerKey
import GameTransport.Proofs.Documents
import GameTransport.Proofs.Kinds
import GameTransport.Session
import Mathlib.Data.Nat.Digits.Defs

/-! # How long the fields of outgoing packets get

Who writes a packet checks no limit, and who reads it does.  A public key keeps to its limit because of
its number of bits (`Der.length_encode_le`).  The document of the server list has whatever length the
texts of the configuration give it (`ServerStatus.length_toJson`).
-/

namespace GameTransport

/-! ## Public keys -/

namespace Der

theorem length_octets_le {n size : Nat} (some : 0 < size) (small : n < 2 ^ (8 * size)) :
    (octets n).length ≤ size := by
  have bits : n.log2 < 8 * size := by
    by_cases zero : n = 0
    · rw [zero]
      change 0 < 8 * size
      omega
    · exact (Nat.log2_lt zero).mpr small
  rw [octets, Bytes.length_ofNat]
  omega

theorem length_length_le {n : Nat} (small : n < 2 ^ 64) : (length n).length ≤ 9 := by
  rw [length]
  split
  · exact Nat.le_add_left 1 8
  · exact Nat.succ_le_succ (@length_octets_le n 8 (by decide) small)

theorem length_element_le (tag : UInt8) {content : Bytes} {bound : Nat}
    (fits : content.length ≤ bound) (small : bound < 2 ^ 64) :
    (element tag content).length ≤ bound + 10 := by
  have prefixed := @length_length_le content.length (by omega)
  simp only [element, List.length_cons, List.length_append]
  omega

theorem length_unsigned_le {n size : Nat} (some : 0 < size) (small : n < 2 ^ (8 * size)) :
    (unsigned n).length ≤ size + 1 := by
  have digits := length_octets_le some small
  change (if (octets n).headD 0 < 128 then octets n else 0 :: octets n).length ≤ _
  split
  · omega
  · exact Nat.succ_le_succ digits

/-- A public key of 1024 bits, which is 128 octets, takes no more than 256 octets. -/
theorem length_encode_le {key : Rsa.PublicKey} (modulus : key.modulus < 2 ^ (8 * 128))
    (exponent : key.exponent < 2 ^ (8 * 4)) : (encode key).length ≤ 256 := by
  have first := length_element_le integer (@length_unsigned_le _ 128 (by decide) modulus) (by decide)
  have second := length_element_le integer (@length_unsigned_le _ 4 (by decide) exponent) (by decide)
  have numbers : (element sequence (element integer (unsigned key.modulus) ++
      element integer (unsigned key.exponent))).length ≤ 164 := by
    refine @length_element_le sequence _ 154 ?_ (by decide)
    rw [List.length_append]
    omega
  have bits := @length_element_le bitString (0 :: element sequence (element integer
    (unsigned key.modulus) ++ element integer (unsigned key.exponent))) 165
    (Nat.succ_le_succ numbers) (by decide)
  have name : algorithm.length = 15 := by decide
  refine Nat.le_trans (@length_element_le sequence _ 190 ?_ (by decide)) (by decide)
  rw [List.length_append, name]
  omega

end Der

/-! ## Documents -/

namespace Json

theorem length_escape (c : Char) : 1 ≤ (escape c).length ∧ (escape c).length ≤ 6 := by
  rcases Token.escape_cases c with ⟨letter, spelled, -⟩ | ⟨a, b, spelled, -⟩ | ⟨spelled, -⟩ <;>
    simp [spelled]

/-- A string has at least as many characters as its text, and two quotes. -/
theorem length_quote (text : String) :
    text.length + 2 ≤ (quote text).length ∧ (quote text).length ≤ 6 * text.length + 2 := by
  have chars (l : List Char) :
      l.length ≤ (l.flatMap escape).length ∧ (l.flatMap escape).length ≤ 6 * l.length := by
    induction l with
    | nil => exact ⟨Nat.le_refl 0, Nat.le_refl 0⟩
    | cons c l ih =>
      have one := length_escape c
      rw [List.flatMap_cons, List.length_append, List.length_cons]
      omega
  have size := chars text.toList
  rw [String.length_toList] at size
  rw [quote, String.length_ofList]
  simp only [List.length_cons, List.length_append, List.length_nil]
  omega

end Json

namespace ServerStatus

theorem length_toString_u64 (n : UInt64) : (toString n.toNat).length ≤ 20 :=
  Nat.repr_length _ 20 (by decide) (Nat.lt_trans n.toNat_lt (by decide))

theorem length_toString_i32 (n : Int32) : (toString n.toInt).length ≤ 11 := by
  have low := n.minValue_le_toInt
  have high := n.toInt_le
  have digits {m : Nat} (small : m < 10 ^ 10) : (Nat.toDigits 10 m).length ≤ 10 :=
    Nat.toDigits_length 10 m 10 (by decide) small
  rw [← String.length_toList, Json.Token.toList_toString_int]
  split
  · exact Nat.le_succ_of_le (digits (by change _ ≤ (2147483647 : Int) at high; omega))
  · exact Nat.succ_le_succ (digits (by change (-2147483648 : Int) ≤ _ at low; omega))

/-- What is not a text of the configuration takes no more than 150 characters. -/
theorem length_toJson (status : ServerStatus) (plain : status.favicon = none) :
    status.versionName.length + status.motd.length ≤ status.toJson.length ∧
      status.toJson.length ≤ 6 * (status.versionName.length + status.motd.length) + 150 := by
  have version := Json.length_quote status.versionName
  have motd := Json.length_quote status.motd
  have protocol := length_toString_i32 status.protocol
  have max := length_toString_u64 status.maxPlayers
  have online := length_toString_u64 status.online
  have names : (Json.quote "version").length = 9 ∧ (Json.quote "name").length = 6 ∧
      (Json.quote "protocol").length = 10 ∧ (Json.quote "players").length = 9 ∧
      (Json.quote "max").length = 5 ∧ (Json.quote "online").length = 8 ∧
      (Json.quote "description").length = 13 ∧ (Json.quote "text").length = 6 := by decide
  have marks : ",".length = 1 ∧ ":".length = 1 ∧ "\x7b".length = 1 ∧ "\x7d".length = 1 := by decide
  rw [toJson, plain]
  simp only [Json.writeObject, Option.map_none, Option.toList_none, List.append_nil, List.map_cons,
    List.map_nil, String.intercalate_cons_cons, String.intercalate_singleton, String.length_append]
  omega

end ServerStatus

/-! ## Octets -/

/-- A character takes at least one octet. -/
theorem Utf8.le_length_encode (text : String) : text.length ≤ (encode text).length := by
  have chars (l : List Char) : l.length ≤ (l.flatMap String.utf8EncodeChar).length := by
    induction l with
    | nil => exact Nat.le_refl 0
    | cons c l ih =>
      have := c.utf8Size_pos
      rw [List.flatMap_cons, List.length_append, String.length_utf8EncodeChar, List.length_cons]
      omega
  exact chars text.toList

theorem StatusResponse.le_length_encode (packet : StatusResponse) :
    packet.json.length ≤ (Packet.encode packet).length := by
  have text := Utf8.le_length_encode packet.json
  simp only [Packet.encode, Packet.write, Field.string, List.length_append]
  omega

end GameTransport
