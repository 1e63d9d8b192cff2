import PlayServer.Admin.Endpoint
import PlayServer.Config.Basic
import PlayServer.Server.FrontEnd
import PlayServer.Server.Serve

/-!
# The server as a whole

A server is built from a valid configuration and an account store. It starts once: every service
binds its address before any runs, in the order gateway, game, admin. It shuts down once, in the
reverse order; then every session is emptied and the audit log is stopped.
-/

namespace PlayServer

namespace ServerState

/-- Closes all connections of a front end and ends their service. -/
def closeFront (s : ServerState) (front : Front) : ServerState :=
  let handles := (s.registry front).entries.map (·.2)
  let (_, connections) := (s.registry front).closeAll s.lobby.connections
  let s := { s with lobby.connections := connections }.settle
  handles.foldl (fun s h => (s.retire front front h).2) s

/-- One run of the scheduler of a front end, which took some time: time passes in the sessions,
connections that are idle for too long are closed, and what is no longer used is reclaimed. The
gateway has no sessions to look after. -/
def schedule (s : ServerState) (front : Front) (delta idleTimeout : Duration)
    (idle : Handle → Duration) (took : Duration) : ServerState :=
  let s := match front with
    | .gateway => s
    | .game => (s.tick delta).2
  let (_, connections) := (s.registry front).closeIdle s.lobby.connections idleTimeout idle
  let s := { s with lobby.connections := connections }
  let (_, r) := (s.registry front).sweep s.lobby.connections
  let s := s.setRegistry front r
  let s := match front with
    | .gateway => s
    | .game => s.sweep
  { s with metrics := s.metrics.tick took }

end ServerState

/-- A server: its configuration, its state and its services. -/
structure Server where
  config : Config
  state : ServerState
  gateway : FrontEnd := { name := Front.gateway.name }
  game : FrontEnd := { name := Front.game.name }
  admin : AdminEndpoint := {}
  isStarted : Bool := false
  isStopped : Bool := false

namespace Server

/-- The name of the server itself. -/
def name : String := "server"

/-- Checks a configuration. -/
def checkConfig (config : Config) : Except ServerError Unit :=
  match config.fault? with
  | some fault => .error (.config fault.message)
  | none => .ok ()

/-- Builds a server over a store. -/
def withStore (config : Config) (store : AccountStore) : Except ServerError Server := do
  checkConfig config
  let audit :=
    if config.auditLogPath.isSome then AuditLog.withFile AuditLog.defaultCapacity
    else AuditLog.inMemory AuditLog.defaultCapacity
  return {
    config
    state :=
      { lobby := { maxPlayers := config.maxSessionPlayers, maxSessions := config.maxSessions }
        store
        audit
        gateway := { maxPerAddress := config.maxConnectionsPerIp }
        game := { maxPerAddress := config.maxConnectionsPerIp } } }

/-- Builds a server over a store with the accounts that the configuration begins with. -/
def build (config : Config) : Except ServerError Server := do
  checkConfig config
  let store ← (AccountStore.seeded config.seedAccounts).mapError ServerError.store
  withStore config store

/-- Makes an audit record about the server itself. -/
def recordSelf (s : Server) (description : String) : Server :=
  { s with
    state := s.state.record
      { actor := AuditRecord.systemActor
        source := s.config.bindAddress.print
        category := .admin
        description
        outcome := .success } }

/-- The addresses that the services of a server hold. -/
def held (s : Server) : List SocketAddress :=
  s.gateway.held ++ s.game.held ++ s.admin.held

/-- Binds the addresses of all services, given the addresses that others hold. A failure leaves the
services after it alone. -/
def bindAll (s : Server) (others : List SocketAddress) : Except ServerError Unit × Server :=
  match s.gateway.init (others ++ s.held) s.config.gatewayAddress with
  | (.error e, gateway) => (.error e, { s with gateway })
  | (.ok _, gateway) =>
    let s := { s with gateway }
    match s.game.init (others ++ s.held) s.config.gameAddress with
    | (.error e, game) => (.error e, { s with game })
    | (.ok _, game) =>
      let s := { s with game }
      match s.admin.init (others ++ s.held) s.config.adminAddress with
      | (.error e, admin) => (.error e, { s with admin })
      | (.ok _, admin) => (.ok (), { s with admin })

/-- Runs all services. A failure leaves the services after it alone. -/
def runAll (s : Server) : Except ServerError Unit × Server :=
  match s.gateway.run with
  | (.error e, gateway) => (.error e, { s with gateway })
  | (.ok (), gateway) =>
    let s := { s with gateway }
    match s.game.run with
    | (.error e, game) => (.error e, { s with game })
    | (.ok (), game) =>
      let s := { s with game }
      match s.admin.run with
      | (.error e, admin) => (.error e, { s with admin })
      | (.ok (), admin) => (.ok (), { s with admin })

/-- The first run of both schedulers, which comes with the start. -/
def scheduleFirst (s : Server) : Server :=
  let once (state : ServerState) (front : Front) :=
    state.schedule front .zero s.config.idleTimeout (fun _ => .zero) .zero
  { s with state := once (once s.state .gateway) .game }

/-- Starts the server, given the addresses that others hold. -/
def start (s : Server) (others : List SocketAddress) : Except ServerError Unit × Server :=
  if s.isStarted then (.error (.alreadyRunning name), s)
  else match s.bindAll others with
    | (.error e, s) => (.error e, s)
    | (.ok (), s) =>
      match s.runAll with
      | (.error e, s) => (.error e, s)
      | (.ok (), s) =>
        let s := { s with isStarted := true }.recordSelf "Server started"
        (.ok (), s.scheduleFirst)

/-- Shuts down a front end, and with it the service of its connections if it was run. -/
def shutdownFront (s : Server) (front : Front) : Server :=
  match front with
  | .gateway =>
    { s with
      gateway := s.gateway.shutdown
      state := if s.gateway.isRunning then s.state.closeFront .gateway else s.state }
  | .game =>
    { s with
      game := s.game.shutdown
      state := if s.game.isRunning then s.state.closeFront .game else s.state }

/-- Shuts the server down. -/
def shutdown (s : Server) : Server :=
  if s.isStopped then s
  else
    let s := { s with isStopped := true, admin := s.admin.shutdown }
    let s := (s.shutdownFront .game).shutdownFront .gateway
    let state := { s.state with
      lobby := s.state.lobby.shutdownAll.2
      metrics := s.state.metrics.setSessions 0 0 }
    let s := { s with state }.recordSelf "Server stopped"
    { s with state := { s.state with audit := s.state.audit.shutdown } }

end Server

end PlayServer
