import GameTransport.Text.Hexadecimal
import GameTransport.Text.Printable

/-!
# Quoted text

A text between quotes, for a note to an operator: quotes, backslashes and the common controls
are escaped by a letter, and whatever else has no glyph by its number.
-/

namespace GameTransport.Quoted

/-- How a character stands between quotes. -/
def escape (c : Char) : List Char :=
  match c with
  | '\"' => ['\\', '\"']
  | '\\' => ['\\', '\\']
  | '\t' => ['\\', 't']
  | '\n' => ['\\', 'n']
  | '\r' => ['\\', 'r']
  | '\x00' => ['\\', '0']
  | c =>
    if Printable.isPrintable c then [c]
    else ['\\', 'u', '\x7b'] ++ (Hexadecimal.pad 1 c.toNat).toList ++ ['\x7d']

/-- A text between quotes. -/
def quote (text : String) : String :=
  String.ofList ('\"' :: text.toList.flatMap escape ++ ['\"'])

end GameTransport.Quoted
