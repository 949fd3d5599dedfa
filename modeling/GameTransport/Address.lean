import GameTransport.Bytes
import GameTransport.Text.Hexadecimal
import GameTransport.Text.Numeral

/-!
# Addresses

Text of network addresses.  Four octets are written in decimal without zeros in front.  Eight
groups of sixteen bits are written in hexadecimal; the longest run of zero groups, the first of
several, is written `::` if it is longer than one group, and the last two groups may be read as
four octets.  An address of four octets inside one of eight groups is written as such.
-/

namespace GameTransport

/-- An address of a network interface. -/
inductive IpAddress where
  | v4 (octets : Vector UInt8 4)
  | v6 (groups : Vector UInt16 8)
  deriving DecidableEq, Repr

namespace IpAddress

/-- All interfaces. -/
def unspecified : IpAddress := .v4 (Vector.replicate 4 0)

/-! ### Writing -/

def octetsText (octets : List UInt8) : String :=
  ".".intercalate (octets.map fun o => toString o.toNat)

def groupsText (groups : List UInt16) : String :=
  ":".intercalate (groups.map fun g => Hexadecimal.pad 1 g.toNat)

/-- The start and the length of the longest run of zeros, the first of several; `index` groups
stand before those given, the last `run` of them zeros. -/
def longestZeros (index run : Nat) (best : Nat × Nat) : List UInt16 → Nat × Nat
  | [] => best
  | g :: rest =>
    if g = 0 then
      let run := run + 1
      longestZeros (index + 1) run (if best.2 < run then (index + 1 - run, run) else best) rest
    else longestZeros (index + 1) 0 best rest

/-- The octets of a group. -/
def halves (g : UInt16) : List UInt8 := Bytes.ofNat 2 g.toNat

def text : IpAddress → String
  | v4 octets => octetsText octets.toList
  | v6 groups =>
    match groups.toList with
    | [0, 0, 0, 0, 0, 0xFFFF, high, low] => "::ffff:" ++ octetsText (halves high ++ halves low)
    | groups =>
      let (start, run) := longestZeros 0 0 (0, 0) groups
      if 1 < run then
        groupsText (groups.take start) ++ "::" ++ groupsText (groups.drop (start + run))
      else groupsText groups

/-! ### Reading

Each reader gives what it read and the characters after it. -/

/-- Reads an octet: at most three digits, and no zero in front of others. -/
def octet? (cs : List Char) : Option (UInt8 × List Char) :=
  let (digits, rest) := cs.span Char.isDigit
  if 3 < digits.length || (digits.head? = some '0' && digits.length ≠ 1) then none
  else (Numeral.digits? digits).bind fun n =>
    if n < 256 then some (UInt8.ofNat n, rest) else none

/-- Reads `count` octets with a point before each. -/
def pointedOctets? : (count : Nat) → List Char → Option (List UInt8 × List Char)
  | 0, cs => some ([], cs)
  | count + 1, '.' :: cs => do
    let (octet, cs) ← octet? cs
    let (octets, cs) ← pointedOctets? count cs
    return (octet :: octets, cs)
  | _ + 1, _ => none

/-- Reads four octets with points between them. -/
def octets? (cs : List Char) : Option (List UInt8 × List Char) := do
  let (octet, cs) ← octet? cs
  let (octets, cs) ← pointedOctets? 3 cs
  return (octet :: octets, cs)

/-- Reads a group: one to four digits. -/
def group? (cs : List Char) : Option (UInt16 × List Char) :=
  let (digits, rest) := cs.span fun c => (Hexadecimal.digit? c).isSome
  if digits.isEmpty || 4 < digits.length then none
  else (Hexadecimal.number? digits).map fun n => (UInt16.ofNat n, rest)

/-- Takes the colon that stands between groups. -/
def separator? (isFirst : Bool) (cs : List Char) : Option (List Char) :=
  if isFirst then some cs
  else match cs with
    | ':' :: rest => some rest
    | _ => none

/-- Reads at most `limit` groups, the last two of them perhaps as four octets.  Whether they
were. -/
def groups : (limit : Nat) → (isFirst : Bool) → List Char → List UInt16 × Bool × List Char
  | 0, _, cs => ([], false, cs)
  | limit + 1, isFirst, cs =>
    let asOctets := if limit = 0 then none else separator? isFirst cs >>= octets?
    match asOctets with
    | some ([a, b, c, d], rest) =>
      let join (high low : UInt8) : UInt16 := UInt16.ofNat (high.toNat * 256 + low.toNat)
      ([join a b, join c d], true, rest)
    | _ =>
      match separator? isFirst cs >>= group? with
      | some (group, rest) =>
        let (more, pointed, rest) := groups limit false rest
        (group :: more, pointed, rest)
      | none => ([], false, cs)

/-- The address of eight groups. -/
def ofGroups? (groups : List UInt16) : Option IpAddress :=
  if h : groups.toArray.size = 8 then some (.v6 ⟨groups.toArray, h⟩) else none

/-- The address of four octets. -/
def ofOctets? (octets : List UInt8) : Option IpAddress :=
  if h : octets.toArray.size = 4 then some (.v4 ⟨octets.toArray, h⟩) else none

/-- Reads an address of eight groups. -/
def readV6? (cs : List Char) : Option (IpAddress × List Char) := do
  let (head, pointed, rest) := groups 8 true cs
  if head.length = 8 then return (← ofGroups? head, rest)
  if pointed then none
  let ':' :: ':' :: rest := rest | none
  let (tail, _, rest) := groups (7 - head.length) true rest
  let zeros := List.replicate (8 - head.length - tail.length) 0
  return (← ofGroups? (head ++ zeros ++ tail), rest)

/-- Reads an address of either form. -/
def read? (cs : List Char) : Option (IpAddress × List Char) :=
  match octets? cs with
  | some (octets, rest) => (ofOctets? octets).map (·, rest)
  | none => readV6? cs

/-- The address that a text is. -/
def ofText? (cs : List Char) : Option IpAddress :=
  match read? cs with
  | some (address, []) => some address
  | _ => none

end IpAddress

/-- An interface and a port. -/
structure SocketAddress where
  ip : IpAddress
  port : UInt16
  /-- The zone in which an address of eight groups is meant; zero is the default zone. -/
  zone : UInt32 := 0
  deriving DecidableEq, Repr

namespace SocketAddress

def text (address : SocketAddress) : String :=
  let port := toString address.port.toNat
  match address.ip with
  | .v4 _ => address.ip.text ++ ":" ++ port
  | .v6 _ =>
    let zone := if address.zone = 0 then "" else "%" ++ toString address.zone.toNat
    "[" ++ address.ip.text ++ zone ++ "]:" ++ port

/-- Reads a colon and a port up to the end. -/
def port? : List Char → Option UInt16
  | ':' :: digits => (Numeral.digits? digits).bind fun n =>
    if n < UInt16.size then some (UInt16.ofNat n) else none
  | _ => none

/-- Reads a percent sign and a zone, if there is one. -/
def zone? : List Char → Option (UInt32 × List Char)
  | '%' :: cs =>
    let (digits, rest) := cs.span Char.isDigit
    (Numeral.digits? digits).bind fun n =>
      if n < UInt32.size then some (UInt32.ofNat n, rest) else none
  | cs => some (0, cs)

/-- The address that a text is. -/
def ofText? (text : String) : Option SocketAddress := do
  match text.toList with
  | '[' :: cs =>
    let (ip, rest) ← IpAddress.readV6? cs
    let (zone, rest) ← zone? rest
    let ']' :: rest := rest | none
    return { ip, port := ← port? rest, zone }
  | cs =>
    let (octets, rest) ← IpAddress.octets? cs
    return { ip := ← IpAddress.ofOctets? octets, port := ← port? rest }

end SocketAddress

end GameTransport
