import PlayServer.Session.Basic

/-!
# The lobby

All sessions, together with the connections that may join them. A session is found under its id;
ids are drawn from a 32-bit counter. An operation that is refused changes nothing, except that a
session which could not even take its creator has drawn its id.

`sweepEmpty` reclaims the sessions without members. Whoever still refers to a reclaimed session
finds it closed: such sessions are kept in `retired`.
-/

namespace PlayServer

/-- A member that has left its session, and how many are still there. -/
structure Departure where
  session : SessionId
  login : String
  remaining : Nat
  deriving DecidableEq, Repr, Inhabited

/-- Connections and sessions. The order of `sessions` carries no meaning. -/
structure Lobby where
  maxPlayers : Nat
  maxSessions : Nat
  connections : Connections := {}
  sessions : List Session := []
  retired : List Session := []
  /-- The id of the next session. -/
  nextId : UInt32 := 1
  /-- The next instant of joining. -/
  clock : Nat := 0
  deriving Repr, Inhabited

namespace Lobby

/-- The session under an id. -/
def session? (l : Lobby) (id : SessionId) : Option Session := l.sessions.find? (·.id == id)

/-- The session that somebody refers to, whether or not it was reclaimed since. -/
def referred? (l : Lobby) (id : SessionId) : Option Session :=
  l.session? id <|> l.retired.find? (·.id == id)

/-- Puts a session in the place of the one with its id. -/
def replace (s : Session) (sessions : List Session) : List Session :=
  sessions.map fun t => if t.id == s.id then s else t

/-- Stores a session that has changed. -/
def store (l : Lobby) (s : Session) : Lobby :=
  if (l.session? s.id).isSome then { l with sessions := replace s l.sessions }
  else { l with retired := replace s l.retired }

/-- Adds a session under its id, in the place of one that has this id already. -/
def insert (l : Lobby) (s : Session) : Lobby :=
  { l with sessions := l.sessions.filter (·.id != s.id) ++ [s] }

/-- The number of sessions. -/
def count (l : Lobby) : Nat := l.sessions.length

/-- The number of members of all sessions. -/
def playerCount (l : Lobby) : Nat := (l.sessions.flatMap (·.members)).length

/-- All sessions in the order of their ids. -/
def inIdOrder (l : Lobby) : List Session :=
  l.sessions.mergeSort fun a b => a.id.value ≤ b.id.value

/-- The connection under a handle. -/
def connection (l : Lobby) (h : Handle) : Connection := l.connections.get h

/-- Changes the connection under a handle. -/
def updateConnection (l : Lobby) (h : Handle) (change : Connection → Connection) : Lobby :=
  { l with connections := l.connections.update h change }

/-- Joins a connection to a session that was found before. -/
def joinSession (l : Lobby) (s : Session) (h : Handle) :
    Except SessionError SessionSummary × Lobby :=
  match s.join l.connections h l.clock with
  | .error e => (.error e, l)
  | .ok (s, connections) => (.ok s.summary, { l with connections, clock := l.clock + 1 }.store s)

/-- Joins a connection to a session that somebody refers to. -/
def joinReferred (l : Lobby) (id : SessionId) (h : Handle) :
    Except SessionError SessionSummary × Lobby :=
  match l.referred? id with
  | none => (.error (.notFound id), l)
  | some s => l.joinSession s h

/-- Takes a member out of a session that somebody refers to. -/
def leaveReferred (l : Lobby) (id : SessionId) (member : ConnectionId) :
    Option Departure × Lobby :=
  match l.referred? id with
  | none => (none, l)
  | some s =>
    match s.leave l.connections member with
    | none => (none, l)
    | some (login, s, connections) =>
      (some ⟨id, login, s.members.length⟩, { l with connections }.store s)

/-- Lets time pass in a session that somebody refers to. -/
def tickReferred (l : Lobby) (id : SessionId) (delta : Duration) :
    Except DurationError (List String) × Lobby :=
  match l.referred? id with
  | none => (.ok [], l)
  | some s =>
    match s.tick l.connections delta with
    | .error e => (.error e, l)
    | .ok (logins, s, connections) => (.ok logins, { l with connections }.store s)

/-- Empties a session that somebody refers to. -/
def clearReferred (l : Lobby) (id : SessionId) : Nat × Lobby :=
  match l.referred? id with
  | none => (0, l)
  | some s =>
    let (count, s, connections) := s.clear l.connections
    (count, { l with connections }.store s)

/-- Changes the options of a session that somebody refers to. -/
def setOptionsReferred (l : Lobby) (id : SessionId) (member : ConnectionId)
    (options : SessionOptions) : Except SessionError SessionSummary × Lobby :=
  match l.referred? id with
  | none => (.error (.notFound id), l)
  | some s =>
    match s.setOptions member options with
    | .error e => (.error e, l)
    | .ok s => (.ok s.summary, l.store s)

/-- Queues a packet to the members of a session that somebody refers to. -/
def broadcastReferred (l : Lobby) (id : SessionId) (p : Packet)
    (excluding : Option ConnectionId) : BroadcastReport × Lobby :=
  match l.referred? id with
  | none => ({}, l)
  | some s =>
    let (report, connections) := s.broadcast l.connections p excluding
    (report, { l with connections })

/-- A new session without members under the next id, which is drawn; it is not added yet. -/
def draw (l : Lobby) (options : SessionOptions) : Except SessionError (Session × Lobby) :=
  if l.maxSessions ≤ l.count then .error (.tooManySessions l.maxSessions)
  else
    .ok ({ id := ⟨l.nextId⟩, options, maxPlayers := l.maxPlayers },
      { l with nextId := l.nextId + 1 })

/-- Adds a new session without members. -/
def create (l : Lobby) (options : SessionOptions) : Except SessionError SessionId × Lobby :=
  match l.draw options with
  | .error e => (.error e, l)
  | .ok (s, l) => (.ok s.id, l.insert s)

/-- Joins a connection to the session under an id. -/
def join (l : Lobby) (id : SessionId) (h : Handle) : Except SessionError SessionSummary × Lobby :=
  match l.session? id with
  | none => (.error (.notFound id), l)
  | some s => l.joinSession s h

/-- Adds a new session with a connection as its only member and host. -/
def createAndJoin (l : Lobby) (h : Handle) (options : SessionOptions) :
    Except SessionError SessionSummary × Lobby :=
  match (l.connection h).session with
  | some current => (.error (.inAnotherSession current), l)
  | none =>
    match l.draw options with
    | .error e => (.error e, l)
    | .ok (s, l) =>
      match s.join l.connections h l.clock with
      | .error e => (.error e, l)
      | .ok (s, connections) =>
        (.ok s.summary, { l with connections, clock := l.clock + 1 }.insert s)

/-- Whether a refusal by one session leaves hope for the next. -/
def mayTryNext : SessionError → Bool
  | .full _ | .notFound _ => true
  | _ => false

/-- Tries some sessions in turn: the first that takes the connection, or the first refusal that
ends the search. Gives none when all were full or gone. -/
def joinFirst (l : Lobby) (h : Handle) : List SessionId →
    Option (Except SessionError SessionSummary) × Lobby
  | [] => (none, l)
  | id :: rest =>
    match l.joinReferred id h with
    | (.ok summary, l) => (some (.ok summary), l)
    | (.error e, l) => if mayTryNext e then joinFirst l h rest else (some (.error e), l)

/-- Joins a connection to the open session with the smallest id, and to a new one when none has
room. -/
def findOrCreateAndJoin (l : Lobby) (h : Handle) : Except SessionError SessionSummary × Lobby :=
  match (l.connection h).session with
  | some current => (.error (.inAnotherSession current), l)
  | none =>
    match l.joinFirst h (l.inIdOrder.map (·.id)) with
    | (some result, l) => (result, l)
    | (none, l) => l.createAndJoin h {}

/-- Takes a connection out of the session it belongs to. A connection that names a session which
is not there is released. -/
def leave (l : Lobby) (h : Handle) : Except SessionError Departure × Lobby :=
  let c := l.connection h
  match c.session with
  | none => (.error .notMember, l)
  | some id =>
    match l.session? id with
    | none => (.error (.notFound id), l.updateConnection h (·.releaseSession id))
    | some _ =>
      match l.leaveReferred id c.id with
      | (none, l) => (.error .notMember, l)
      | (some departure, l) => (.ok departure, l)

/-- Changes the options of the session a connection belongs to. -/
def setOptions (l : Lobby) (h : Handle) (options : SessionOptions) :
    Except SessionError SessionSummary × Lobby :=
  let c := l.connection h
  match c.session with
  | none => (.error .notMember, l)
  | some id =>
    match l.session? id with
    | none => (.error (.notFound id), l)
    | some _ => l.setOptionsReferred id c.id options

/-- Queues a packet to the members of the session under an id, but one. -/
def broadcast (l : Lobby) (id : SessionId) (p : Packet) (excluding : Option ConnectionId) :
    Except SessionError BroadcastReport × Lobby :=
  match l.session? id with
  | none => (.error (.notFound id), l)
  | some _ =>
    let (report, l) := l.broadcastReferred id p excluding
    (.ok report, l)

/-- Lets time pass in the sessions under some ids that have members; gives who has left them. A
session whose time overflows ends the pass. -/
def tickEach (l : Lobby) (delta : Duration) : List SessionId →
    Except DurationError (List Departure) × Lobby
  | [] => (.ok [], l)
  | id :: rest =>
    if ((l.referred? id).map (·.isEmpty)).getD true then tickEach l delta rest
    else match l.tickReferred id delta with
      | (.error e, l) => (.error e, l)
      | (.ok logins, l) =>
        let remaining := ((l.referred? id).map (·.members.length)).getD 0
        match tickEach l delta rest with
        | (.error e, l) => (.error e, l)
        | (.ok later, l) => (.ok (logins.map (⟨id, ·, remaining⟩) ++ later), l)

/-- Lets time pass in all sessions that have members; gives who has left them. -/
def tickAll (l : Lobby) (delta : Duration) : Except DurationError (List Departure) × Lobby :=
  l.tickEach delta (l.sessions.map (·.id))

/-- Reclaims the sessions without members; gives their ids. -/
def sweepEmpty (l : Lobby) : List SessionId × Lobby :=
  let empty := l.sessions.filter (·.isEmpty)
  (empty.map (·.id),
    { l with
      sessions := l.sessions.filter (! ·.isEmpty)
      retired := l.retired ++ empty.map fun s => { s with isClosed := true } })

/-- Empties some sessions and closes them. -/
def closeEach (cs : Connections) : List Session → List Session × Connections
  | [] => ([], cs)
  | s :: rest =>
    let (_, s, cs) := s.clear cs
    let (closed, cs) := closeEach cs rest
    ({ s with isClosed := true } :: closed, cs)

/-- Empties and reclaims all sessions; gives how many there were. -/
def shutdownAll (l : Lobby) : Nat × Lobby :=
  let (closed, connections) := closeEach l.connections l.sessions
  (closed.length, { l with connections, sessions := [], retired := l.retired ++ closed })

end Lobby

end PlayServer
