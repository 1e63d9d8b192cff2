import PlayServer.Number.Duration

/-!
# Metrics

Seventeen 64-bit counters and gauges, which wrap, and the window of the newest tick times from
which the percentile gauges are taken. `Metric` names them, in the order in which they are
reported.
-/

namespace PlayServer

/-- The counters and gauges. -/
structure Metrics where
  connectionsActive : UInt64 := 0
  connectionsTotal : UInt64 := 0
  connectionsRejected : UInt64 := 0
  authSuccess : UInt64 := 0
  authFailure : UInt64 := 0
  sessionsActive : UInt64 := 0
  sessionPlayers : UInt64 := 0
  packetsSent : UInt64 := 0
  packetsReceived : UInt64 := 0
  bytesSent : UInt64 := 0
  bytesReceived : UInt64 := 0
  protocolFaults : UInt64 := 0
  tickTime : UInt64 := 0
  tickTimeP95 : UInt64 := 0
  tickTimeP99 : UInt64 := 0
  tickTimeMax : UInt64 := 0
  tickCount : UInt64 := 0
  /-- The newest tick times in microseconds, oldest first. -/
  window : List UInt64 := []
  deriving DecidableEq, Repr, Inhabited

/-- Names one counter or gauge. -/
inductive Metric where
  | connectionsActive
  | connectionsTotal
  | connectionsRejected
  | authSuccess
  | authFailure
  | sessionsActive
  | sessionPlayers
  | packetsSent
  | packetsReceived
  | bytesSent
  | bytesReceived
  | protocolFaults
  | tickTime
  | tickTimeP95
  | tickTimeP99
  | tickTimeMax
  | tickCount
  deriving DecidableEq, Repr, Inhabited

namespace Metric

/-- All counters and gauges in the order in which they are reported. -/
def all : List Metric :=
  [connectionsActive, connectionsTotal, connectionsRejected, authSuccess, authFailure,
    sessionsActive, sessionPlayers, packetsSent, packetsReceived, bytesSent, bytesReceived,
    protocolFaults, tickTime, tickTimeP95, tickTimeP99, tickTimeMax, tickCount]

end Metric

namespace Metrics

/-- The value of a counter or gauge. -/
def get (m : Metrics) : Metric → UInt64
  | .connectionsActive => m.connectionsActive
  | .connectionsTotal => m.connectionsTotal
  | .connectionsRejected => m.connectionsRejected
  | .authSuccess => m.authSuccess
  | .authFailure => m.authFailure
  | .sessionsActive => m.sessionsActive
  | .sessionPlayers => m.sessionPlayers
  | .packetsSent => m.packetsSent
  | .packetsReceived => m.packetsReceived
  | .bytesSent => m.bytesSent
  | .bytesReceived => m.bytesReceived
  | .protocolFaults => m.protocolFaults
  | .tickTime => m.tickTime
  | .tickTimeP95 => m.tickTimeP95
  | .tickTimeP99 => m.tickTimeP99
  | .tickTimeMax => m.tickTimeMax
  | .tickCount => m.tickCount

/-- Stores a value in a counter or gauge. -/
def set (m : Metrics) (metric : Metric) (value : UInt64) : Metrics :=
  match metric with
  | .connectionsActive => { m with connectionsActive := value }
  | .connectionsTotal => { m with connectionsTotal := value }
  | .connectionsRejected => { m with connectionsRejected := value }
  | .authSuccess => { m with authSuccess := value }
  | .authFailure => { m with authFailure := value }
  | .sessionsActive => { m with sessionsActive := value }
  | .sessionPlayers => { m with sessionPlayers := value }
  | .packetsSent => { m with packetsSent := value }
  | .packetsReceived => { m with packetsReceived := value }
  | .bytesSent => { m with bytesSent := value }
  | .bytesReceived => { m with bytesReceived := value }
  | .protocolFaults => { m with protocolFaults := value }
  | .tickTime => { m with tickTime := value }
  | .tickTimeP95 => { m with tickTimeP95 := value }
  | .tickTimeP99 => { m with tickTimeP99 := value }
  | .tickTimeMax => { m with tickTimeMax := value }
  | .tickCount => { m with tickCount := value }

/-- Counts a payload written in full. -/
def packetSent (m : Metrics) (bytes : Nat) : Metrics :=
  { m with packetsSent := m.packetsSent + 1, bytesSent := m.bytesSent + UInt64.ofNat bytes }

/-- Counts a packet read. -/
def packetReceived (m : Metrics) (bytes : Nat) : Metrics :=
  { m with
    packetsReceived := m.packetsReceived + 1
    bytesReceived := m.bytesReceived + UInt64.ofNat bytes }

/-- Counts a connection that broke the limits of framing. -/
def protocolFault (m : Metrics) : Metrics := { m with protocolFaults := m.protocolFaults + 1 }

/-- Counts a log-in. -/
def authenticated (m : Metrics) (success : Bool) : Metrics :=
  if success then { m with authSuccess := m.authSuccess + 1 }
  else { m with authFailure := m.authFailure + 1 }

/-- Counts a connection that was accepted. -/
def connectionOpened (m : Metrics) : Metrics :=
  { m with
    connectionsTotal := m.connectionsTotal + 1
    connectionsActive := m.connectionsActive + 1 }

/-- Counts a connection that has ended; the gauge stops at zero. -/
def connectionClosed (m : Metrics) : Metrics :=
  { m with
    connectionsActive := if m.connectionsActive = 0 then 0 else m.connectionsActive - 1 }

/-- Counts a connection that was refused. -/
def connectionRejected (m : Metrics) : Metrics :=
  { m with connectionsRejected := m.connectionsRejected + 1 }

/-- Sets the gauges of sessions and of players in them. -/
def setSessions (m : Metrics) (sessions players : UInt64) : Metrics :=
  { m with sessionsActive := sessions, sessionPlayers := players }

/-- How many tick times the window holds. -/
def windowSize : Nat := 1000

/-- How many tick times it takes before percentiles are reported. -/
def percentileThreshold : Nat := 10

/-- Where a share of `count` sorted samples ends, in single precision. -/
def shareIndex (share : Float32) (count : Nat) : Nat :=
  (Float32.ofNat count * share).toUInt64.toNat

/-- The sample at the end of a share of the sorted samples. -/
def percentile (sorted : List UInt64) (share : Float32) : UInt64 :=
  sorted.getD (min (shareIndex share sorted.length) (sorted.length - 1)) 0

/-- Takes percentiles over the window, once it holds enough samples. -/
def takePercentiles (m : Metrics) : Metrics :=
  if m.window.length < percentileThreshold then m
  else
    let sorted := m.window.mergeSort
    { m with
      tickTimeP95 := percentile sorted 0.95
      tickTimeP99 := percentile sorted 0.99
      tickTimeMax := sorted.getLastD 0 }

/-- Counts a tick that took some time. -/
def tick (m : Metrics) (time : Duration) : Metrics :=
  let window := m.window ++ [time.micros]
  takePercentiles
    { m with
      tickTime := time.micros
      tickCount := m.tickCount + 1
      window := window.drop (window.length - windowSize) }

end Metrics

end PlayServer
