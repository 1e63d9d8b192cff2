import PlayServer.Account.Store
import PlayServer.Audit.Log
import PlayServer.Connection.Registry
import PlayServer.Metrics.Counters
import PlayServer.Session.Lobby

/-!
# The state of a server

The lobby with all connections, the account store, the audit log, the metrics, the registries of
the two front ends, and the lines that an operator's log has received.

Sending only queues. `settle` lets the writer of every connection run as far as it gets, and is
where a failing line is noticed: the fault is logged unless it only says that the peer has gone.
-/

namespace PlayServer

/-- How grave a log line is. -/
inductive Severity where
  | warning
  | error
  deriving DecidableEq, Repr, Inhabited

/-- A line of the operator's log. -/
structure LogLine where
  severity : Severity
  text : String
  deriving DecidableEq, Repr, Inhabited

/-- The text of a log line. -/
def LogLine.print (l : LogLine) : String :=
  match l.severity with
  | .warning => "WARN " ++ l.text
  | .error => "ERROR " ++ l.text

/-- The two front ends: clients log in at one and play at the other. -/
inductive Front where
  | gateway
  | game
  deriving DecidableEq, Repr, Inhabited

/-- The name of a front end. -/
def Front.name : Front → String
  | gateway => "gateway"
  | game => "game"

/-- The calls of the store that a request waits for. -/
inductive StoreCall where
  | hasAccount
  | isBanned
  | verify
  | touch
  | characters
  deriving DecidableEq, Repr, Inhabited

/-- What comes in between while a request waits for the store. -/
inductive Disturbance where
  /-- A connection closes. -/
  | closes (h : Handle)
  /-- An account is banned. -/
  | bans (login : String)
  /-- The store becomes unavailable. -/
  | outage
  /-- The store gives this answer to a question of yes or no. -/
  | answers (value : Bool)
  /-- The store fails for this reason. -/
  | fails (reason : String)
  deriving DecidableEq, Repr, Inhabited

/-- The state of a server. -/
structure ServerState where
  lobby : Lobby
  store : AccountStore := .empty
  audit : AuditLog := .inMemory AuditLog.defaultCapacity
  metrics : Metrics := {}
  gateway : Registry
  game : Registry
  /-- The id of the next connection. -/
  nextConnection : Nat := 1
  /-- The time that the scheduler has seen pass, in nanoseconds. -/
  now : Nat := 0
  log : List LogLine := []
  /-- What is going to come in between, each at the next call of its kind. -/
  disturbances : List (StoreCall × Disturbance) := []
  deriving Inhabited

namespace ServerState

/-- The connection under a handle. -/
def connection (s : ServerState) (h : Handle) : Connection := s.lobby.connection h

/-- Changes the connection under a handle. -/
def updateConnection (s : ServerState) (h : Handle) (change : Connection → Connection) :
    ServerState :=
  { s with lobby := s.lobby.updateConnection h change }

/-- Changing one connection leaves the others alone. -/
theorem connection_updateConnection_eq (s : ServerState) (h k : Handle)
    (change : Connection → Connection) :
    (s.updateConnection h change).connection k =
      if k = h then change (s.connection h) else s.connection k :=
  s.lobby.connections.get_update h k change

/-- A connection that has been changed. -/
theorem connection_updateConnection (s : ServerState) (h : Handle)
    (change : Connection → Connection) :
    (s.updateConnection h change).connection h = change (s.connection h) :=
  (s.connection_updateConnection_eq h h change).trans (if_pos rfl)

/-- Another connection when one has been changed. -/
theorem connection_updateConnection_of_ne {h k : Handle} (hk : k ≠ h) (s : ServerState)
    (change : Connection → Connection) :
    (s.updateConnection h change).connection k = s.connection k :=
  (s.connection_updateConnection_eq h k change).trans (if_neg hk)

/-- Queues a packet to a connection; it is lost if the connection does not take it. -/
def send (s : ServerState) (h : Handle) (p : Packet) : ServerState :=
  s.updateConnection h fun c => (c.send p).2

/-- Closes a connection. -/
def close (s : ServerState) (h : Handle) : ServerState := s.updateConnection h Connection.close

/-- Queues a packet to the members of a session but one; it is lost if there is no such session. -/
def notify (s : ServerState) (session : SessionId) (p : Packet) (excluding : Option ConnectionId) :
    ServerState :=
  { s with lobby := (s.lobby.broadcast session p excluding).2 }

/-- Writes a warning to the operator's log. -/
def warn (s : ServerState) (text : String) : ServerState :=
  { s with log := s.log ++ [⟨.warning, text⟩] }

/-- Writes an error to the operator's log. -/
def logError (s : ServerState) (text : String) : ServerState :=
  { s with log := s.log ++ [⟨.error, text⟩] }

/-- Makes an audit record. -/
def record (s : ServerState) (r : AuditRecord) : ServerState :=
  { s with audit := s.audit.record r }

/-- The address of a connection as audit records give it. -/
def sourceOf (s : ServerState) (h : Handle) : String := (s.connection h).address.print

/-- The registry of a front end. -/
def registry (s : ServerState) : Front → Registry
  | .gateway => s.gateway
  | .game => s.game

/-- Puts a registry in the place of that of a front end. -/
def setRegistry (s : ServerState) (front : Front) (r : Registry) : ServerState :=
  match front with
  | .gateway => { s with gateway := r }
  | .game => { s with game := r }

/-- Takes the first disturbance that awaits a call of the store. -/
def takeDisturbance (call : StoreCall) : List (StoreCall × Disturbance) →
    Option Disturbance × List (StoreCall × Disturbance)
  | [] => (none, [])
  | (c, d) :: rest =>
    if c = call then (some d, rest)
    else
      let (found, rest) := takeDisturbance call rest
      (found, (c, d) :: rest)

/-- Calls the store, once what comes in between has happened. `override` tells what a given
answer of yes or no stands for, if the call can be answered so. -/
def callStore (s : ServerState) (call : StoreCall) (override : Bool → Option α)
    (run : AccountStore → Except StoreError α × AccountStore) :
    Except StoreError α × ServerState :=
  let (disturbance, disturbances) := takeDisturbance call s.disturbances
  let s := { s with disturbances }
  let real (s : ServerState) :=
    let (answer, store) := run s.store
    (answer, { s with store })
  match disturbance with
  | none => real s
  | some (.closes h) => real (s.close h)
  | some (.bans login) => real { s with store := (s.store.setBanned login true).2 }
  | some .outage => real { s with store := s.store.setAvailable false }
  | some (.answers value) =>
    match override value with
    | some answer => (.ok answer, s)
    | none => real s
  | some (.fails reason) => (.error (.unavailable reason), s)

/-- Asks whether there is an account under a login. -/
def hasAccount (s : ServerState) (login : String) : Except StoreError Bool × ServerState :=
  s.callStore .hasAccount some fun store => (store.hasAccount login, store)

/-- Asks whether an account is banned. -/
def isBanned (s : ServerState) (login : String) : Except StoreError Bool × ServerState :=
  s.callStore .isBanned some fun store => (store.isBanned login, store)

/-- Asks whether a password is that of an account. -/
def verify (s : ServerState) (login password : String) : Except StoreError Bool × ServerState :=
  s.callStore .verify some fun store => (store.verify login password, store)

/-- Has a completed log-in stamped. -/
def touchLastLogin (s : ServerState) (login : String) : Except StoreError Bool × ServerState :=
  s.callStore .touch some fun store => store.touchLastLogin login s.now

/-- Asks for the characters of an account. -/
def charactersOf (s : ServerState) (login : String) :
    Except StoreError (List Character) × ServerState :=
  s.callStore .characters (fun _ => none) fun store => (store.charactersOf login, store)

/-- Takes in what a run of a writer came to: payloads written in full are counted, and a fault is
logged unless it only says that the peer has gone. -/
def absorb (s : ServerState) (h : Handle) (run : Connection.WriterRun) : ServerState :=
  let s := s.updateConnection h fun _ => run.connection
  let s := { s with metrics := run.written.foldl Metrics.packetSent s.metrics }
  match run.fault with
  | none => s
  | some kind => if kind.isDisconnect then s else s.logError ("Write failed: " ++ kind.message)

/-- Runs the writer of a connection. -/
def runWriter (s : ServerState) (h : Handle) : ServerState :=
  s.absorb h (s.connection h).runWriter

/-- Runs the writers of all connections: first those that have been started, in the order of this,
and then the others, which have no more to do than to give up a closed connection. -/
def settle (s : ServerState) : ServerState :=
  let connections := s.lobby.connections
  (connections.started ++ connections.handles).foldl runWriter
    { s with lobby.connections := { connections with started := [] } }

/-- Lets the line of a connection take bytes again. -/
def unstall (s : ServerState) (h : Handle) : ServerState :=
  s.absorb h (s.connection h).unstall

end ServerState

end PlayServer
