import GameTransport.Bytes

/-!
# Hexadecimal numerals

Lower-case digits are written, padded with zeros on the left to a least width; digits in either
case are read.  A run of octets is written with two digits for each.
-/

namespace GameTransport.Hexadecimal

/-- `n` in base sixteen with at least `width` digits. -/
def pad (width n : Nat) : String :=
  let digits := Nat.toDigits 16 n
  String.ofList (List.replicate (width - digits.length) '0' ++ digits)

/-- The value of one digit, in either case. -/
def digit? (c : Char) : Option Nat :=
  if '0' ≤ c && c ≤ '9' then some (c.toNat - '0'.toNat)
  else if 'a' ≤ c && c ≤ 'f' then some (c.toNat - 'a'.toNat + 10)
  else if 'A' ≤ c && c ≤ 'F' then some (c.toNat - 'A'.toNat + 10)
  else none

/-- The number that a run of digits denotes; none if one of them is no digit. -/
def number? (digits : List Char) : Option Nat :=
  digits.foldlM (fun n c => (digit? c).map (n * 16 + ·)) 0

/-- The two digits of an octet. -/
def pair (b : UInt8) : List Char :=
  let digit (n : UInt8) : Char := Nat.digitChar n.toNat
  [digit (b >>> 4), digit (b &&& 15)]

/-- The digits of a run of octets. -/
def ofBytes (bytes : Bytes) : String := String.ofList (bytes.flatMap pair)

/-- Reads two digits at a time, `done` holding the octets so far, last first. -/
def bytesFrom (done : Bytes) : List Char → Option Bytes
  | [] => some done.reverse
  | [_] => none
  | high :: low :: rest =>
    match digit? high, digit? low with
    | some h, some l => bytesFrom (UInt8.ofNat (h * 16 + l) :: done) rest
    | _, _ => none

/-- The octets that a run of digits denotes; none if their number is odd or one is no digit. -/
def toBytes? (digits : String) : Option Bytes := bytesFrom [] digits.toList

end GameTransport.Hexadecimal
