import GameTransport.Bytes

/-!
# UTF-8

Text is written one character after another (`encode`).  Reading (`decode`) takes the longest
well-formed run of characters and, where it stops early, says at which octet and why: octets that
can begin no character, or a character of which the end is missing.

The octets that may follow a first octet are those of the Unicode standard's table of well-formed
sequences, so overlong forms, surrogates and numbers above `10FFFF` are refused at the first octet
that shows them.
-/

namespace GameTransport.Utf8

/-- Where and why a run of octets stops being text. -/
inductive Fault where
  /-- The `length` octets from `index` on begin no character. -/
  | invalid (index length : Nat)
  /-- The octets from `index` on begin a character and end before it does. -/
  | incomplete (index : Nat)
  deriving DecidableEq, Repr

/-- The wording of a fault. -/
def Fault.message : Fault → String
  | .invalid index length => s!"invalid utf-8 sequence of {length} bytes from index {index}"
  | .incomplete index => s!"incomplete utf-8 byte sequence from index {index}"

/-- The octets of a text. -/
def encode (text : String) : Bytes :=
  text.toList.flatMap String.utf8EncodeChar

/-- What the octets at the front of a run are. -/
inductive Step where
  /-- One character, and the octets after it. -/
  | char (c : Char) (rest : Bytes)
  /-- `length` octets that begin no character. -/
  | invalid (length : Nat)
  /-- The beginning of a character. -/
  | incomplete
  deriving DecidableEq, Repr

/-- The six low bits of an octet that is not the first of its character. -/
def payload (b : UInt8) : Nat := b.toNat % 64

/-- Whether an octet may stand third or fourth in a character, or second where nothing more is
asked of it. -/
def isTrail (b : UInt8) : Bool := 0x80 ≤ b && b ≤ 0xBF

/-- The second octets that may follow the first octet `lead` of a character of three octets. -/
def isSecondOfThree (lead b : UInt8) : Bool :=
  if lead == 0xE0 then 0xA0 ≤ b && b ≤ 0xBF
  else if lead == 0xED then 0x80 ≤ b && b ≤ 0x9F
  else isTrail b

/-- The second octets that may follow the first octet `lead` of a character of four octets. -/
def isSecondOfFour (lead b : UInt8) : Bool :=
  if lead == 0xF0 then 0x90 ≤ b && b ≤ 0xBF
  else if lead == 0xF4 then 0x80 ≤ b && b ≤ 0x8F
  else isTrail b

/-- Reads the character that begins with `lead`. -/
def step (lead : UInt8) (rest : Bytes) : Step :=
  if lead < 0x80 then .char (Char.ofNat lead.toNat) rest
  else if lead < 0xC2 then .invalid 1
  else if lead < 0xE0 then
    match rest with
    | [] => .incomplete
    | b :: rest =>
      if isTrail b then .char (Char.ofNat ((lead.toNat - 0xC0) * 64 + payload b)) rest
      else .invalid 1
  else if lead < 0xF0 then
    match rest with
    | [] => .incomplete
    | b :: rest =>
      if !isSecondOfThree lead b then .invalid 1
      else match rest with
        | [] => .incomplete
        | c :: rest =>
          if isTrail c then
            .char (Char.ofNat (((lead.toNat - 0xE0) * 64 + payload b) * 64 + payload c)) rest
          else .invalid 2
  else if lead < 0xF5 then
    match rest with
    | [] => .incomplete
    | b :: rest =>
      if !isSecondOfFour lead b then .invalid 1
      else match rest with
        | [] => .incomplete
        | c :: rest =>
          if !isTrail c then .invalid 2
          else match rest with
            | [] => .incomplete
            | d :: rest =>
              if isTrail d then
                .char (Char.ofNat
                  ((((lead.toNat - 0xF0) * 64 + payload b) * 64 + payload c) * 64 + payload d)) rest
              else .invalid 3
  else .invalid 1

/-- What stands after a character is no longer than what stood after its first octet. -/
theorem length_le_of_step {lead : UInt8} {rest after : Bytes} {c : Char}
    (h : step lead rest = .char c after) : after.length ≤ rest.length := by
  unfold step at h
  repeat' split at h
  all_goals cases h
  all_goals grind

/-- Reads characters up to the end, `index` being the number of octets before `bytes` and `done`
the characters before them, last first. -/
def decodeFrom (index : Nat) (done : List Char) (bytes : Bytes) : Except Fault (List Char) :=
  match bytes with
  | [] => .ok done.reverse
  | lead :: rest =>
    match _stepped : step lead rest with
    | .char c after => decodeFrom (index + c.utf8Size) (c :: done) after
    | .invalid length => .error (.invalid index length)
    | .incomplete => .error (.incomplete index)
termination_by bytes.length
decreasing_by
  have := length_le_of_step _stepped
  simp only [List.length_cons]
  omega

/-- The text that a run of octets encodes. -/
def decode (bytes : Bytes) : Except Fault String :=
  (decodeFrom 0 [] bytes).map String.ofList

end GameTransport.Utf8
