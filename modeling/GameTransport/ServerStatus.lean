import GameTransport.Fault
import GameTransport.Json.Value

/-!
# The document of the server list

What a server tells about itself to a client that only asks: its version, its players, its message
of the day and perhaps an icon.  It travels as JSON.

```text
object: version     (object: name, protocol)
        players     (object: max, online)
        description (object: text)
        favicon     (left out if there is none)
```

A reader skips members it does not know, refuses a second copy of one that it knows, and takes the
array of an object's members in order for the object.  The icon may be missing or null.
-/

namespace GameTransport

structure ServerStatus where
  versionName : String
  protocol : Int32
  maxPlayers : UInt64
  online : UInt64
  motd : String
  favicon : Option String := none
  deriving DecidableEq, Repr

namespace ServerStatus

/-! ### Writing -/

/-- The document. -/
def toJson (status : ServerStatus) : String :=
  Json.writeObject ([
    ("version", Json.writeObject [
      ("name", Json.quote status.versionName),
      ("protocol", toString status.protocol.toInt)]),
    ("players", Json.writeObject [
      ("max", toString status.maxPlayers.toNat),
      ("online", toString status.online.toNat)]),
    ("description", Json.writeObject [("text", Json.quote status.motd)])]
    ++ (status.favicon.map fun icon => ("favicon", Json.quote icon)).toList)

/-! ### Reading -/

/-- The members of an object under the names of a record, each with its value if it is there.
An array gives its elements to the names in order. -/
def members? (names : List String) : Json → Option (List (Option Json))
  | .array elements =>
    if elements.length ≤ names.length then
      some ((List.range names.length).map fun index => elements[index]?)
    else none
  | .object members =>
    if members.any fun (name, _) => name.isNone then none
    else
      let named := names.map fun name =>
        members.filterMap fun (other, value) => if other = some name then some value else none
      if named.any fun values => 1 < values.length then none
      else some (named.map List.head?)
  | _ => none

def text? : Json → Option String
  | .string value => value
  | _ => none

/-- An integer from `least` to `most`. -/
def integer? (least most : Int) : Json → Option Int
  | .number (some n) => if least ≤ n && n ≤ most then some n else none
  | _ => none

def i32? (j : Json) : Option Int32 :=
  (integer? Int32.minValue.toInt Int32.maxValue.toInt j).map Int32.ofInt

def u64? (j : Json) : Option UInt64 :=
  (integer? 0 (UInt64.size - 1) j).map fun n => UInt64.ofNat n.toNat

/-- A record of two members. -/
def pair? {α β : Type} (first : String) (read : Json → Option α) (second : String)
    (read' : Json → Option β) (j : Json) : Option (α × β) := do
  let [some a, some b] ← members? [first, second] j | none
  return (← read a, ← read' b)

def description? (j : Json) : Option String := do
  let [some text] ← members? ["text"] j | none
  text? text

def favicon? : Option Json → Option (Option String)
  | none | some .null => some none
  | some j => (text? j).map some

/-- The status that a value describes. -/
def ofValue? (j : Json) : Option ServerStatus := do
  let [some version, some players, some description, favicon] ←
    members? ["version", "players", "description", "favicon"] j | none
  let (versionName, protocol) ← pair? "name" text? "protocol" i32? version
  let (maxPlayers, online) ← pair? "max" u64? "online" u64? players
  let motd ← description? description
  let favicon ← favicon? favicon
  return { versionName, protocol, maxPlayers, online, motd, favicon }

/-- The status that a document describes. -/
def ofJson (text : String) : Except Fault ServerStatus :=
  match Json.read? text >>= ofValue? with
  | some status => .ok status
  | none => .error (.invalidData .malformedStatus)

end ServerStatus

end GameTransport
