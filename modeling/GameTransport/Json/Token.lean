import GameTransport.Text.Hexadecimal

/-!
# Words of JSON

A text is cut into brackets, separators, names, numbers and strings; blanks between them are
skipped.  An escape in a string may stand for half of a character outside the basic plane.  Such
halves have to stand in pairs for the string to have a value, but a string without a value is a
word all the same: it depends on the reader whether it minds.
-/

namespace GameTransport.Json

inductive Token where
  | openArray
  | closeArray
  | openObject
  | closeObject
  | comma
  | colon
  | null
  | bool (value : Bool)
  /-- A number, with its value if it is written as an integer. -/
  | number (value : Option Int)
  /-- A string, with its value if it has one. -/
  | string (value : Option String)
  deriving DecidableEq, Repr

namespace Token

/-! ### Strings -/

/-- The character that a letter after a backslash stands for. -/
def escaped? : Char → Option Char
  | '\"' => some '\"'
  | '\\' => some '\\'
  | '/' => some '/'
  | 'b' => some '\x08'
  | 'f' => some '\x0c'
  | 'n' => some '\n'
  | 'r' => some '\r'
  | 't' => some '\t'
  | _ => none

/-- Reads up to the closing quote.  `done` holds the numbers of the characters before, and of the
units that escapes stand for, last first. -/
def stringBody (done : List Nat) : List Char → Option (List Nat × List Char)
  | [] => none
  | '\"' :: rest => some (done.reverse, rest)
  | '\\' :: 'u' :: a :: b :: c :: d :: rest =>
    match Hexadecimal.number? [a, b, c, d] with
    | some n => stringBody (n :: done) rest
    | none => none
  | '\\' :: letter :: rest =>
    match escaped? letter with
    | some c => stringBody (c.toNat :: done) rest
    | none => none
  | c :: rest => if c.toNat < 0x20 || c == '\\' then none else stringBody (c.toNat :: done) rest

/-- Joins pairs of halves, `done` holding the characters before, last first. -/
def joinHalves (done : List Char) : List Nat → Option (List Char)
  | [] => some done.reverse
  | high :: rest =>
    if high < 0xD800 || 0xE000 ≤ high then joinHalves (Char.ofNat high :: done) rest
    else if 0xDC00 ≤ high then none
    else match rest with
      | low :: rest =>
        if 0xDC00 ≤ low && low < 0xE000 then
          let n := 0x10000 + (high - 0xD800) * 1024 + (low - 0xDC00)
          joinHalves (Char.ofNat n :: done) rest
        else none
      | [] => none

/-! ### Numbers -/

/-- Splits digits off the front. -/
def digits (cs : List Char) : List Char × List Char := cs.span Char.isDigit

/-- Digits, one at least. -/
def someDigits? (cs : List Char) : Option (List Char) :=
  match digits cs with
  | ([], _) => none
  | (_, rest) => some rest

/-- Reads a point and digits, if there is a point; whether there was one. -/
def fraction? : List Char → Option (Bool × List Char)
  | '.' :: rest => (someDigits? rest).map (true, ·)
  | cs => some (false, cs)

/-- Reads an exponent, if there is one; whether there was one. -/
def exponent? : List Char → Option (Bool × List Char)
  | c :: rest =>
    if c == 'e' || c == 'E' then
      match rest with
      | sign :: more =>
        if sign == '+' || sign == '-' then (someDigits? more).map (true, ·)
        else (someDigits? rest).map (true, ·)
      | [] => none
    else some (false, c :: rest)
  | [] => some (false, [])

/-- Reads a number without its sign.  A zero stands alone before the point. -/
def magnitude? (cs : List Char) : Option (Option Nat × List Char) := do
  let (whole, rest) := digits cs
  guard (whole ≠ [] && (whole.length = 1 || whole.head? ≠ some '0'))
  let (pointed, rest) ← fraction? rest
  let (scaled, rest) ← exponent? rest
  let value := whole.foldl (fun n c => n * 10 + (c.toNat - '0'.toNat)) 0
  return (if pointed || scaled then none else some value, rest)

/-- Reads a number.  A zero with a sign is not an integer. -/
def number? (cs : List Char) : Option (Option Int × List Char) :=
  match cs with
  | '-' :: rest =>
    (magnitude? rest).map fun (value, rest) =>
      (value.bind fun n => if n = 0 then none else some (-(n : Int)), rest)
  | cs => (magnitude? cs).map fun (value, rest) => (value.map Int.ofNat, rest)

/-! ### All words -/

def isBlank (c : Char) : Bool := c == ' ' || c == '\t' || c == '\n' || c == '\r'

/-- Takes `word` off the front. -/
def after? (word : List Char) (cs : List Char) : Option (List Char) :=
  if word.isPrefixOf cs then some (cs.drop word.length) else none

/-- The word that begins with `c`, and what stands after it. -/
def next? (c : Char) (rest : List Char) : Option (Token × List Char) :=
  match c with
  | '[' => some (openArray, rest)
  | ']' => some (closeArray, rest)
  | '\x7b' => some (openObject, rest)
  | '\x7d' => some (closeObject, rest)
  | ',' => some (comma, rest)
  | ':' => some (colon, rest)
  | '\"' => (stringBody [] rest).map fun (units, rest) =>
    (string ((joinHalves [] units).map String.ofList), rest)
  | 'n' => (after? ['u', 'l', 'l'] rest).map (null, ·)
  | 't' => (after? ['r', 'u', 'e'] rest).map (bool true, ·)
  | 'f' => (after? ['a', 'l', 's', 'e'] rest).map (bool false, ·)
  | c => (number? (c :: rest)).map fun (value, rest) => (number value, rest)

/-- The words of a text, `done` holding those before, last first.  Each word takes a character at
least. -/
def scanFrom : (fuel : Nat) → (done : List Token) → List Char → Option (List Token)
  | _, done, [] => some done.reverse
  | 0, _, _ => none
  | fuel + 1, done, c :: rest =>
    if isBlank c then scanFrom fuel done rest
    else match next? c rest with
      | some (token, rest) => scanFrom fuel (token :: done) rest
      | none => none

/-- The words of a text. -/
def scan? (text : String) : Option (List Token) :=
  let cs := text.toList
  scanFrom cs.length [] cs

end Token

end GameTransport.Json
