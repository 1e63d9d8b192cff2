import PlayServer.Metrics.Report
import PlayServer.Number.Shortest
import PlayServer.Server.State

/-!
# Answers to operators

What the admin endpoint answers to a method and a target: read-only views of the metrics, the
sessions and the audit log. A target is a path and, after a question mark, a query; the query
counts for the audit log alone, where the last `limit` tells how many records are wanted.

The times that the answers tell of are no part of the state of a server. Whoever asks supplies
their texts as `Times`.
-/

namespace PlayServer

/-- The texts of times in the answers to operators. -/
structure Times where
  /-- The digits of the seconds since the start. -/
  uptime : String
  /-- The instant at which a session was created. -/
  created : SessionId → String
  /-- The instant of an audit record, by its place among those asked for. -/
  recorded : Nat → String

/-- An answer to an operator. -/
structure AdminAnswer where
  status : Nat
  contentType : String
  body : String
  deriving DecidableEq, Repr, Inhabited

namespace AdminAnswer

/-- The phrase that goes with a status. -/
def reason (status : Nat) : String :=
  match status with
  | 200 => "OK"
  | 400 => "Bad Request"
  | 404 => "Not Found"
  | 405 => "Method Not Allowed"
  | _ => "Internal Server Error"

/-- A successful answer. -/
def ok (contentType body : String) : AdminAnswer := ⟨200, contentType, body⟩

/-- A successful answer in JSON. -/
def json (value : Json) : AdminAnswer := ok "application/json" value.indented

/-- A refusal, whose body is the phrase of its status. -/
def refusal (status : Nat) : AdminAnswer := ⟨status, "text/plain", reason status⟩

end AdminAnswer

/-- A session as a JSON object, with the text of the instant it was created at. -/
def SessionSummary.toJson (s : SessionSummary) (created : String) : Json :=
  .object
    [("id", .nat s.id.value.toNat), ("difficulty", .string s.options.difficulty.name),
      ("mode", .string s.options.mode.name), ("members", .array (s.members.map .string)),
      ("max_players", .nat s.maxPlayers), ("host", .string? s.host),
      ("created_at", .string created), ("tick_count", .nat s.tickCount.toNat),
      ("elapsed_secs", .number (Shortest.print s.elapsed.toFloat))]

/-- The number of audit records that are shown when none is asked for. -/
def defaultAuditLimit : Nat := 100

/-- The number in the last `limit` of a query, or else the default. Nothing, if one of them is no
64-bit number. -/
def auditLimit? (query : String) : Option Nat :=
  ((Text.splitAtChar '&' query).filterMap (Text.after? "limit=")).foldlM
    (fun _ value => Text.unsigned? UInt64.size value) defaultAuditLimit

namespace ServerState

/-- The version that the status report gives. -/
def version : String := "0.1.0"

/-- The status report. Fields are in the order of their names. -/
def statusReport (s : ServerState) (times : Times) : Json :=
  .object
    [("audit", .object
      [("dropped", .nat s.audit.dropped.toNat), ("recorded", .nat s.audit.recorded.toNat)]),
    ("game", .object [("connections", .nat s.game.count)]),
    ("gateway", .object [("connections", .nat s.gateway.count)]),
    ("sessions", .object
      [("active", .nat s.lobby.count), ("max_players", .nat s.lobby.maxPlayers),
        ("players", .nat s.lobby.playerCount)]),
    ("uptime_seconds", .number times.uptime),
    ("version", .string version)]

/-- All sessions, in the order of their ids. -/
def sessionReport (s : ServerState) (times : Times) : Json :=
  .array (s.lobby.inIdOrder.map fun t => t.summary.toJson (times.created t.id))

/-- The newest audit records, oldest first. -/
def auditReport (s : ServerState) (times : Times) (limit : Nat) : Json :=
  .array ((s.audit.recent limit).mapIdx fun i r => r.toJson (times.recorded i))

/-- A target apart: the path, and the query or an empty text. -/
def splitTarget (target : String) : String × String :=
  (Text.splitOnce? '?' target).getD (target, "")

/-- Answers an operator's request. -/
def answer (s : ServerState) (times : Times) (method target : String) : AdminAnswer :=
  if method ≠ "GET" then .refusal 405
  else
    let (path, query) := splitTarget target
    match path with
    | "/" | "/health" => .ok "text/plain" "OK"
    | "/metrics" => .ok "text/plain; version=0.0.4" (s.metrics.textReport times.uptime)
    | "/metrics/json" => .json (s.metrics.jsonReport times.uptime)
    | "/api/status" => .json (s.statusReport times)
    | "/api/sessions" => .json (s.sessionReport times)
    | "/api/audit" =>
      match auditLimit? query with
      | some limit => .json (s.auditReport times limit)
      | none => .refusal 400
    | _ => .refusal 404

end ServerState

end PlayServer
