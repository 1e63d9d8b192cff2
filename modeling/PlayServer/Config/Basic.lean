import PlayServer.Net.Address
import PlayServer.Number.Duration
import PlayServer.Text.Blank
import PlayServer.Text.Numeral

/-!
# Configuration

The settings of a server, read from named variables. A number is taken without the white space
around it, and must fit the type of its field and lie in its range; a variable that is there but
unusable leaves the default and draws one warning. `validate` checks a configuration however it
was made.
-/

namespace PlayServer

/-- The settings of a server. -/
structure Config where
  bindAddress : IpAddress := .unspecified
  gatewayPort : UInt16 := 1119
  gamePort : UInt16 := 1120
  adminPort : UInt16 := 8080
  maxConnectionsPerIp : Nat := 10
  maxSessionPlayers : Nat := 4
  maxSessions : Nat := 1000
  tickRate : UInt32 := 60
  idleTimeout : Duration := .ofSeconds 300
  auditLogPath : Option String := none
  seedAccounts : List (String × String) := []
  deriving DecidableEq, Repr, Inhabited

/-- A numeric variable: its name, the bound of the type of its field, the range it must lie in,
and the rule that a warning states. -/
structure Setting where
  key : String
  bound : Nat
  low : Nat
  high : Nat
  rule : String
  deriving DecidableEq, Repr

namespace Setting

/-- A variable that holds a port. -/
def port (key : String) : Setting := ⟨key, UInt16.size, 1, UInt16.size - 1, "must be > 0"⟩

/-- A variable that holds a number in a range. -/
def range (key : String) (bound low high : Nat) : Setting :=
  ⟨key, bound, low, high, s!"must be {low}-{high}"⟩

/-- The port at which clients log in. -/
def gatewayPort : Setting := port "GATEWAY_PORT"

/-- The port at which clients play. -/
def gamePort : Setting := port "GAME_PORT"

/-- The port of the admin endpoint. -/
def adminPort : Setting := port "ADMIN_PORT"

/-- How many open connections one address may have at a front end. -/
def maxConnectionsPerIp : Setting := range "MAX_CONNECTIONS_PER_IP" UInt64.size 1 10000

/-- How many players a session takes. -/
def maxSessionPlayers : Setting := range "MAX_SESSION_PLAYERS" UInt64.size 1 64

/-- How many sessions there may be at once. -/
def maxSessions : Setting := range "MAX_SESSIONS" UInt64.size 1 100000

/-- How often the scheduler runs in a second. -/
def tickRate : Setting := range "TICK_RATE" UInt32.size 1 240

/-- After how many seconds without traffic a connection is closed. -/
def idleTimeout : Setting :=
  ⟨"IDLE_TIMEOUT_SECS", UInt64.size, 1, UInt64.size - 1, "must be > 0"⟩

/-- The value of a variable or else a default, and the warnings this draws. -/
def read (s : Setting) (value : Option String) (default : Nat) : Nat × List String :=
  match value with
  | none => (default, [])
  | some raw =>
    match Text.unsigned? s.bound (Text.trim raw) with
    | none => (default, [s!"Invalid {s.key} '{raw}', using default"])
    | some n =>
      if s.low ≤ n && n ≤ s.high then (n, []) else (default, [s!"{s.key} {s.rule}, using default"])

end Setting

namespace Config

/-- The accounts to begin with, each as a login and a password with a colon between them, and a
warning for each entry that is not of this form. Blank entries do not count. -/
def readSeedAccounts (raw : String) : List (String × String) × List String :=
  let entries := ((Text.splitAtChar ',' raw).map Text.trim).filter (! ·.isEmpty)
  let account? (entry : String) : Option (String × String) :=
    (Text.splitOnce? ':' entry).filter fun (login, password) =>
      !login.isEmpty && !password.isEmpty
  (entries.filterMap account?,
    (entries.filter (account? · |>.isNone)).map fun _ => "Ignoring malformed SEED_ACCOUNTS entry")

/-- The configuration given by variables, and the warnings that reading them draws, in order. -/
def load (lookup : String → Option String) : Config × List String :=
  let defaults : Config := {}
  let (bindAddress, w0) :=
    match lookup "BIND_ADDRESS" with
    | none => (defaults.bindAddress, [])
    | some raw =>
      match IpAddress.parse? raw with
      | some address => (address, [])
      | none => (defaults.bindAddress, [s!"Invalid BIND_ADDRESS '{raw}', using default"])
  let read (s : Setting) := s.read (lookup s.key)
  let (gatewayPort, w1) := read .gatewayPort defaults.gatewayPort.toNat
  let (gamePort, w2) := read .gamePort defaults.gamePort.toNat
  let (adminPort, w3) := read .adminPort defaults.adminPort.toNat
  let (maxConnectionsPerIp, w4) := read .maxConnectionsPerIp defaults.maxConnectionsPerIp
  let (maxSessionPlayers, w5) := read .maxSessionPlayers defaults.maxSessionPlayers
  let (maxSessions, w6) := read .maxSessions defaults.maxSessions
  let (tickRate, w7) := read .tickRate defaults.tickRate.toNat
  let (idleSeconds, w8) := read .idleTimeout defaults.idleTimeout.seconds
  let auditLogPath := (lookup "AUDIT_LOG_PATH").filter fun path => !(Text.trim path).isEmpty
  let (seedAccounts, w9) :=
    match lookup "SEED_ACCOUNTS" with
    | none => ([], [])
    | some raw => readSeedAccounts raw
  ({ bindAddress
     gatewayPort := UInt16.ofNat gatewayPort
     gamePort := UInt16.ofNat gamePort
     adminPort := UInt16.ofNat adminPort
     maxConnectionsPerIp, maxSessionPlayers, maxSessions
     tickRate := UInt32.ofNat tickRate
     idleTimeout := .ofSeconds idleSeconds
     auditLogPath, seedAccounts },
    w0 ++ w1 ++ w2 ++ w3 ++ w4 ++ w5 ++ w6 ++ w7 ++ w8 ++ w9)

/-- What makes a configuration unusable. -/
inductive Fault where
  | portZero
  | portsEqual
  | noConnections
  | noPlayers
  | noSessions
  | tickRate
  | idleTimeout
  deriving DecidableEq, Repr

/-- The wording of a fault. -/
def Fault.message : Fault → String
  | portZero => "Ports cannot be 0"
  | portsEqual => "Gateway, game and admin ports must differ"
  | noConnections => "max_connections_per_ip must be at least 1"
  | noPlayers => "max_session_players must be at least 1"
  | noSessions => "max_sessions must be at least 1"
  | tickRate => "tick_rate must be 1-240"
  | idleTimeout => "idle_timeout must be positive"

/-- The first fault of a configuration, if it has any. -/
def fault? (c : Config) : Option Fault :=
  if c.gatewayPort = 0 || c.gamePort = 0 || c.adminPort = 0 then some .portZero
  else if c.gatewayPort = c.gamePort || c.gatewayPort = c.adminPort || c.gamePort = c.adminPort then
    some .portsEqual
  else if c.maxConnectionsPerIp = 0 then some .noConnections
  else if c.maxSessionPlayers = 0 then some .noPlayers
  else if c.maxSessions = 0 then some .noSessions
  else if c.tickRate < 1 || 240 < c.tickRate then some .tickRate
  else if c.idleTimeout = .zero then some .idleTimeout
  else none

/-- Where clients log in. -/
def gatewayAddress (c : Config) : SocketAddress := { ip := c.bindAddress, port := c.gatewayPort }

/-- Where clients play. -/
def gameAddress (c : Config) : SocketAddress := { ip := c.bindAddress, port := c.gamePort }

/-- Where operators look in. -/
def adminAddress (c : Config) : SocketAddress := { ip := c.bindAddress, port := c.adminPort }

/-- The time between two runs of the scheduler. -/
def tickInterval (c : Config) : Duration := .tickInterval c.tickRate

end Config

end PlayServer
