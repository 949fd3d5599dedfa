import GameTransport.Packet.Basic

/-!
# Registries

A registry says, for one connection state, which kinds of packets exist and what is done with
them.  A builder collects kinds, handlers and hooks; what it builds is a table indexed by the
number of the kind.

```text
payload → number of the kind → entry → body → handler
```

An entry keeps a kind together with the handler for packets of that kind, so a handler is never
given another packet than its own.  A payload is dispatched only if its kind is known and its body
is read to the last octet; a kind without a handler is read and dropped.
-/

namespace GameTransport

/-- What a handler does with a packet: it changes a context of type `σ`, and may fail. -/
abbrev Handler (σ α : Type) : Type := α → EStateM Fault σ Unit

/-- A kind of packet and what is done with packets of that kind. -/
structure Entry (σ : Type) : Type 1 where
  Value : Type
  packet : Packet Value
  handler : Option (Handler σ Value)

namespace Entry

variable {σ : Type}

def id (entry : Entry σ) : UInt32 := entry.packet.id

def name (entry : Entry σ) : String := entry.packet.name

/-- Reads a body to its end and hands the packet to the handler.  Whether there is one. -/
def run (entry : Entry σ) (body : Bytes) : EStateM Fault σ Bool := fun context =>
  match entry.packet.read body with
  | .error fault _ => .error fault context
  | .ok value [] =>
    match entry.handler with
    | none => .ok false context
    | some handler =>
      match handler value context with
      | .ok () context => .ok true context
      | .error fault context => .error (.handler entry.name fault) context
  | .ok _ rest => .error (.trailingBytes entry.name rest.length) context

end Entry

/-- The kinds, handlers and hooks of one connection state. -/
structure Registry (σ : Type) : Type 1 where
  /-- Stands for the registry in faults. -/
  name : String
  /-- The entries, each at the number of its kind. -/
  table : Array (Option (Entry σ))
  /-- The number of entries. -/
  size : Nat
  /-- Runs when a connection comes to this registry. -/
  attach : σ → σ
  /-- Runs when a connection leaves this registry. -/
  detach : σ → σ
  /-- Runs on a fault that arises while this registry is active. -/
  caught : Fault → σ → σ

/-- Collects what a registry is to hold. -/
structure Registry.Builder (σ : Type) : Type 1 where
  name : String
  /-- At most one entry for each number. -/
  entries : List (Entry σ) := []
  attach : σ → σ := id
  detach : σ → σ := id
  caught : Fault → σ → σ := fun _ => id

/-- A packet that was dispatched. -/
structure Dispatched where
  id : UInt32
  packet : String
  /-- Whether a handler was given it. -/
  handled : Bool
  deriving DecidableEq, Repr

namespace Registry

variable {σ : Type}

namespace Builder

/-- Adds an entry.  It takes the place of one with the same number. -/
def insert (builder : Builder σ) (entry : Entry σ) : Builder σ :=
  { builder with entries := entry :: builder.entries.filter (·.id != entry.id) }

/-- Adds a kind whose packets are dropped. -/
def add (builder : Builder σ) (α : Type) [packet : Packet α] : Builder σ :=
  builder.insert ⟨α, packet, none⟩

/-- Adds a kind with a handler for its packets. -/
def addWith {α : Type} [packet : Packet α] (builder : Builder σ) (handler : Handler σ α) :
    Builder σ :=
  builder.insert ⟨α, packet, some handler⟩

/-- Keeps the entries that satisfy `p`. -/
def retain (builder : Builder σ) (p : Entry σ → Bool) : Builder σ :=
  { builder with entries := builder.entries.filter p }

/-- Drops the entries that satisfy `p`. -/
def discard (builder : Builder σ) (p : Entry σ → Bool) : Builder σ :=
  builder.retain fun entry => !p entry

/-- Drops the entry with a number. -/
def remove (builder : Builder σ) (id : UInt32) : Builder σ :=
  builder.discard (·.id == id)

def onAttach (builder : Builder σ) (hook : σ → σ) : Builder σ := { builder with attach := hook }

def onDetach (builder : Builder σ) (hook : σ → σ) : Builder σ := { builder with detach := hook }

def onCaught (builder : Builder σ) (hook : Fault → σ → σ) : Builder σ :=
  { builder with caught := hook }

/-- The length of the table: one more than the largest number. -/
def tableSize (builder : Builder σ) : Nat :=
  builder.entries.foldl (fun size entry => max size (entry.id.toNat + 1)) 0

/-- The entries, each at its place. -/
def table (builder : Builder σ) : Array (Option (Entry σ)) :=
  builder.entries.foldl (fun table entry => table.setIfInBounds entry.id.toNat (some entry))
    (Array.replicate builder.tableSize none)

def build (builder : Builder σ) : Registry σ where
  name := builder.name
  table := builder.table
  size := builder.entries.length
  attach := builder.attach
  detach := builder.detach
  caught := builder.caught

end Builder

def isEmpty (registry : Registry σ) : Bool := registry.size == 0

/-- The entry with a number. -/
def entry? (registry : Registry σ) (id : UInt32) : Option (Entry σ) :=
  (registry.table[id.toNat]?).join

def contains (registry : Registry σ) (id : UInt32) : Bool := (registry.entry? id).isSome

def hasHandler (registry : Registry σ) (id : UInt32) : Bool :=
  (registry.entry? id).any (·.handler.isSome)

/-- Reads the packet that a payload is and hands it to its handler. -/
def dispatch (registry : Registry σ) (payload : Bytes) : EStateM Fault σ Dispatched :=
  fun context =>
  match Varint.readU32 payload with
  | .error fault _ => .error fault context
  | .ok id body =>
    match registry.entry? id with
    | none => .error (.unknownPacket registry.name id) context
    | some entry =>
      match entry.run body context with
      | .ok handled context => .ok ⟨id, entry.name, handled⟩ context
      | .error fault context => .error fault context

/-- Dispatches a payload, and tells the registry of a fault. -/
def serve (registry : Registry σ) (payload : Bytes) : EStateM Fault σ Dispatched := fun context =>
  match registry.dispatch payload context with
  | .ok dispatched context => .ok dispatched context
  | .error fault context => .error fault (registry.caught fault context)

end Registry

end GameTransport
