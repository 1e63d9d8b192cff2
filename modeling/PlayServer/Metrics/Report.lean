import PlayServer.Metrics.Counters
import PlayServer.Text.Json

/-!
# Reports of the metrics

The metrics as a text for a scraper, three lines a metric, and as a JSON object. The time since
the start is no part of the metrics: whoever asks for a report supplies its digits.
-/

namespace PlayServer.Metrics

/-- Whether a metric only grows or is set. -/
inductive Kind where
  | counter
  | gauge
  deriving DecidableEq, Repr

/-- The name of a kind. -/
def Kind.name : Kind → String
  | counter => "counter"
  | gauge => "gauge"

/-- The name, the description and the kind of a metric in the text report. -/
def describe : Metric → String × String × Kind
  | .connectionsActive => ("connections_active", "Open client connections", .gauge)
  | .connectionsTotal => ("connections_total", "Accepted client connections", .counter)
  | .connectionsRejected =>
    ("connections_rejected_total", "Connections refused by the per-address cap", .counter)
  | .authSuccess => ("auth_success_total", "Successful logins", .counter)
  | .authFailure => ("auth_failure_total", "Failed logins", .counter)
  | .sessionsActive => ("sessions_active", "Live game sessions", .gauge)
  | .sessionPlayers => ("session_players", "Players across all sessions", .gauge)
  | .packetsSent => ("packets_sent_total", "Packets written", .counter)
  | .packetsReceived => ("packets_received_total", "Packets read", .counter)
  | .bytesSent => ("bytes_sent_total", "Bytes written", .counter)
  | .bytesReceived => ("bytes_received_total", "Bytes read", .counter)
  | .protocolFaults =>
    ("protocol_faults_total", "Connections closed for framing violations", .counter)
  | .tickTime => ("tick_time_microseconds", "Last scheduler tick time", .gauge)
  | .tickTimeP95 => ("tick_time_p95_microseconds", "95th percentile tick time", .gauge)
  | .tickTimeP99 => ("tick_time_p99_microseconds", "99th percentile tick time", .gauge)
  | .tickTimeMax => ("tick_time_max_microseconds", "Maximum tick time", .gauge)
  | .tickCount => ("tick_count", "Scheduler ticks processed", .counter)

/-- The three lines of one metric. -/
def reportLines (name help : String) (kind : Kind) (value : String) : String :=
  let full := "d3_server_" ++ name
  "# HELP " ++ full ++ " " ++ help ++ "\n# TYPE " ++ full ++ " " ++ kind.name ++ "\n" ++ full ++
    " " ++ value ++ "\n"

/-- The text report, with the digits of the seconds since the start. -/
def textReport (m : Metrics) (uptime : String) : String :=
  String.join (Metric.all.map fun metric =>
    let (name, help, kind) := describe metric
    reportLines name help kind (toString (m.get metric).toNat)) ++
  reportLines "uptime_seconds" "Server uptime in seconds" .counter uptime

/-- A counter in the JSON report. -/
def counter (value : UInt64) : Json := .nat value.toNat

/-- The JSON report, with the digits of the seconds since the start. Fields are in the order of
their names. -/
def jsonReport (m : Metrics) (uptime : String) : Json :=
  .object
    [("auth", .object
      [("failure", counter m.authFailure), ("success", counter m.authSuccess)]),
    ("connections", .object
      [("active", counter m.connectionsActive), ("rejected", counter m.connectionsRejected),
        ("total", counter m.connectionsTotal)]),
    ("network", .object
      [("bytes_received", counter m.bytesReceived), ("bytes_sent", counter m.bytesSent),
        ("packets_received", counter m.packetsReceived), ("packets_sent", counter m.packetsSent),
        ("protocol_faults", counter m.protocolFaults)]),
    ("performance", .object
      [("tick_count", counter m.tickCount), ("tick_time_max_us", counter m.tickTimeMax),
        ("tick_time_p95_us", counter m.tickTimeP95), ("tick_time_p99_us", counter m.tickTimeP99),
        ("tick_time_us", counter m.tickTime)]),
    ("sessions", .object
      [("active", counter m.sessionsActive), ("players", counter m.sessionPlayers)]),
    ("uptime_seconds", .number uptime)]

end PlayServer.Metrics
