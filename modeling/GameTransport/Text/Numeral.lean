/-!
# Decimal numerals

A numeral is one digit of ASCII at least, after a sign that may be left out: a plus, or, where
negative numbers are allowed, a minus.  Zeros in front do not matter.
-/

namespace GameTransport.Numeral

/-- The number that digits denote; none if there are none, or if one is no digit. -/
def digits? : List Char → Option Nat
  | [] => none
  | cs => cs.foldlM (fun n c => if c.isDigit then some (n * 10 + (c.toNat - '0'.toNat)) else none) 0

/-- The natural number that a numeral denotes. -/
def nat? : List Char → Option Nat
  | '+' :: cs => digits? cs
  | cs => digits? cs

/-- The integer that a numeral denotes. -/
def int? : List Char → Option Int
  | '-' :: cs => (digits? cs).map fun n => -(n : Int)
  | cs => (nat? cs).map Int.ofNat

/-- A natural number below `bound`. -/
def below? (bound : Nat) (cs : List Char) : Option Nat :=
  (nat? cs).filter (· < bound)

def u16? (cs : List Char) : Option UInt16 := (below? UInt16.size cs).map UInt16.ofNat

def u32? (cs : List Char) : Option UInt32 := (below? UInt32.size cs).map UInt32.ofNat

def u64? (cs : List Char) : Option UInt64 := (below? UInt64.size cs).map UInt64.ofNat

def i32? (cs : List Char) : Option Int32 :=
  ((int? cs).filter fun n => Int32.minValue.toInt ≤ n && n ≤ Int32.maxValue.toInt).map Int32.ofInt

end GameTransport.Numeral
