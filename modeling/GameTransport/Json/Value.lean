import GameTransport.Json.Token

/-!
# Values of JSON

Reading takes a text as a whole: one value and nothing after it, however deep.  The brackets that
are open are kept in a list, so depth is bounded by nothing but the text.

Writing is compact, and escapes quotes, backslashes and control characters.
-/

namespace GameTransport

/-- A value of JSON, as far as a reader can care: a number has a value if it is written as an
integer, a string if its escapes pair up. -/
inductive Json where
  | null
  | bool (value : Bool)
  | number (value : Option Int)
  | string (value : Option String)
  | array (elements : List Json)
  | object (members : List (Option String × Json))

namespace Json

/-! ### Reading -/

/-- A bracket that is open: what it holds so far, last first. -/
inductive Level where
  | array (done : List Json)
  | object (done : List (Option String × Json)) (name : Option String)

/-- What may come next. -/
inductive Expected where
  | value
  /-- A value, or the end of the array just opened. -/
  | valueOrEnd
  | name
  /-- A name, or the end of the object just opened. -/
  | nameOrEnd
  | colon
  /-- A comma or the end of the innermost bracket. -/
  | separator
  deriving DecidableEq

/-- Puts a value into the innermost bracket. -/
def Level.add (value : Json) : Level → Level
  | .array done => .array (value :: done)
  | .object done name => .object ((name, value) :: done) name

/-- The value of a word that is one by itself. -/
def ofToken? : Token → Option Json
  | .null => some .null
  | .bool value => some (.bool value)
  | .number value => some (.number value)
  | .string value => some (.string value)
  | _ => none

/-- Reads words, one at a time.  `whole` is the outermost value once it is complete. -/
def readFrom : (whole : Option Json) → (levels : List Level) → Expected → List Token → Option Json
  | some value, [], _, [] => some value
  | _, _, _, [] => none
  | some _, [], _, _ :: _ => none
  | whole, levels, expected, token :: rest =>
    /- Goes on after a complete value. -/
    let complete (value : Json) (outer : List Level) : Option Json :=
      match outer with
      | [] => readFrom (some value) [] .separator rest
      | level :: outer => readFrom none (level.add value :: outer) .separator rest
    match expected, token, levels with
    | .valueOrEnd, .closeArray, .array done :: outer => complete (.array done.reverse) outer
    | .separator, .closeArray, .array done :: outer => complete (.array done.reverse) outer
    | .separator, .closeObject, .object done _ :: outer => complete (.object done.reverse) outer
    | .nameOrEnd, .closeObject, .object done _ :: outer => complete (.object done.reverse) outer
    | .separator, .comma, .array _ :: _ => readFrom whole levels .value rest
    | .separator, .comma, .object _ _ :: _ => readFrom whole levels .name rest
    | .name, .string name, .object done _ :: outer =>
      readFrom whole (.object done name :: outer) .colon rest
    | .nameOrEnd, .string name, .object done _ :: outer =>
      readFrom whole (.object done name :: outer) .colon rest
    | .colon, .colon, _ => readFrom whole levels .value rest
    | .value, .openArray, _ | .valueOrEnd, .openArray, _ =>
      readFrom whole (.array [] :: levels) .valueOrEnd rest
    | .value, .openObject, _ | .valueOrEnd, .openObject, _ =>
      readFrom whole (.object [] none :: levels) .nameOrEnd rest
    | .value, token, levels | .valueOrEnd, token, levels =>
      match ofToken? token with
      | some value => complete value levels
      | none => none
    | _, _, _ => none

/-- The value that a text is. -/
def read? (text : String) : Option Json :=
  Token.scan? text >>= readFrom none [] .value

/-! ### Writing -/

/-- How a character stands in a string. -/
def escape (c : Char) : List Char :=
  match c with
  | '\"' => ['\\', '\"']
  | '\\' => ['\\', '\\']
  | '\x08' => ['\\', 'b']
  | '\t' => ['\\', 't']
  | '\n' => ['\\', 'n']
  | '\x0c' => ['\\', 'f']
  | '\r' => ['\\', 'r']
  | c => if c.toNat < 0x20 then '\\' :: 'u' :: (Hexadecimal.pad 4 c.toNat).toList else [c]

/-- A text as a string. -/
def quote (text : String) : String :=
  String.ofList ('\"' :: text.toList.flatMap escape ++ ['\"'])

/-- An object of members that are written already. -/
def writeObject (members : List (String × String)) : String :=
  "\x7b" ++ ",".intercalate (members.map fun (name, value) => quote name ++ ":" ++ value) ++ "\x7d"

end Json

end GameTransport
