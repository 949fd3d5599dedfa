/-!
# Counters

What a server counts over all its connections.  Each counter has 64 bits and wraps around, below
zero too.
-/

namespace GameTransport

structure Metrics where
  connectionsTotal : UInt64 := 0
  connectionsActive : UInt64 := 0
  connectionsRejected : UInt64 := 0
  playersOnline : UInt64 := 0
  packetsReceived : UInt64 := 0
  packetsSent : UInt64 := 0
  protocolErrors : UInt64 := 0
  deriving DecidableEq, Repr

namespace Metrics

/-- The counters by their names. -/
def entries (m : Metrics) : List (String × UInt64) :=
  [("connections_total", m.connectionsTotal), ("connections_active", m.connectionsActive),
    ("connections_rejected", m.connectionsRejected), ("players_online", m.playersOnline),
    ("packets_received", m.packetsReceived), ("packets_sent", m.packetsSent),
    ("protocol_errors", m.protocolErrors)]

/-- A connection began. -/
def opened (m : Metrics) : Metrics :=
  { m with
    connectionsTotal := m.connectionsTotal + 1
    connectionsActive := m.connectionsActive + 1 }

/-- A connection ended. -/
def closed (m : Metrics) : Metrics := { m with connectionsActive := m.connectionsActive - 1 }

/-- A client was turned away. -/
def rejected (m : Metrics) : Metrics := { m with connectionsRejected := m.connectionsRejected + 1 }

/-- A connection reached PLAY. -/
def joined (m : Metrics) : Metrics := { m with playersOnline := m.playersOnline + 1 }

/-- A connection left PLAY. -/
def left (m : Metrics) : Metrics := { m with playersOnline := m.playersOnline - 1 }

def received (m : Metrics) : Metrics := { m with packetsReceived := m.packetsReceived + 1 }

def sent (m : Metrics) : Metrics := { m with packetsSent := m.packetsSent + 1 }

/-- A connection ended by a fault that is not the transport's. -/
def failed (m : Metrics) : Metrics := { m with protocolErrors := m.protocolErrors + 1 }

end Metrics

end GameTransport
