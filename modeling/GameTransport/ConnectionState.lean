import GameTransport.Fault

/-!
# Connection states

```text
HANDSHAKING ──▶ STATUS
     │
     └────────▶ LOGIN ──▶ PLAY
```

A connection only moves along these arrows, so it makes at most two moves.  `movesLeft` counts
those still possible and falls with every move.
-/

namespace GameTransport

/-- How far a connection has come. -/
inductive ConnectionState where
  | handshaking
  | status
  | login
  | play
  deriving DecidableEq, Repr

namespace ConnectionState

def all : List ConnectionState := [handshaking, status, login, play]

/-- The number that stands for a state on the wire. -/
def id : ConnectionState → Int32
  | handshaking => -1
  | play => 0
  | status => 1
  | login => 2

def ofId? (n : Int32) : Option ConnectionState := all.find? (·.id == n)

def name : ConnectionState → String
  | handshaking => "HANDSHAKING"
  | status => "STATUS"
  | login => "LOGIN"
  | play => "PLAY"

def ofName? (name : String) : Option ConnectionState := all.find? (·.name == name)

/-- Whether a handshake may ask for a state. -/
def isRequestable : ConnectionState → Bool
  | status | login => true
  | handshaking | play => false

/-- The state that a handshake asks for. -/
def requested (n : Int32) : Except Fault ConnectionState :=
  match ofId? n with
  | some state => if state.isRequestable then .ok state else .error (.invalidNextState n)
  | none => .error (.invalidNextState n)

/-- The arrows. -/
def canMoveTo : ConnectionState → ConnectionState → Bool
  | handshaking, status => true
  | handshaking, login => true
  | login, play => true
  | _, _ => false

/-- The most moves that can still be made. -/
def movesLeft : ConnectionState → Nat
  | handshaking => 2
  | login => 1
  | status | play => 0

theorem movesLeft_lt_of_canMoveTo {source target : ConnectionState}
    (h : source.canMoveTo target = true) : target.movesLeft < source.movesLeft := by
  cases source <;> cases target <;> first | decide | cases h

end ConnectionState

end GameTransport
