/-!
# Blanks

The characters with the property White_Space of the Unicode standard, and trimming them off.
Text is a list of characters here: a scan looks at one character after another.
-/

namespace GameTransport.Blank

/-- Whether a character is a blank. -/
def isBlank (c : Char) : Bool :=
  let n := c.toNat
  (0x09 ≤ n && n ≤ 0x0D) || n == 0x20 || n == 0x85 || n == 0xA0 || n == 0x1680 ||
    (0x2000 ≤ n && n ≤ 0x200A) || n == 0x2028 || n == 0x2029 || n == 0x202F || n == 0x205F ||
    n == 0x3000

/-- Without the blanks in front. -/
def trimStart (cs : List Char) : List Char := cs.dropWhile isBlank

/-- Without the blanks in front and behind. -/
def trim (cs : List Char) : List Char := (trimStart (trimStart cs).reverse).reverse

end GameTransport.Blank
