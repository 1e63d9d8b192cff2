import PlayServer.Connection.Basic
import PlayServer.Number.Duration

/-!
# Play sessions

A session has members, one of whom is its host: the first to join, and after a host has left the
member who joined first of those still there. A connection belongs to at most one session, and
says so itself: joining claims the connection and leaving releases it, so the operations here act
on a session and on the connections together.

The order of the member table carries no meaning. Who joined when is told by the instants of
joining.
-/

namespace PlayServer

/-- A member: the connection, its id, the login it joined with, and when it joined. -/
structure Member where
  id : ConnectionId
  handle : Handle
  login : String
  joinedAt : Nat
  deriving DecidableEq, Repr, Inhabited

/-- A play session. -/
structure Session where
  id : SessionId
  options : SessionOptions := {}
  maxPlayers : Nat
  members : List Member := []
  host : Option ConnectionId := none
  elapsed : Duration := .zero
  tickCount : UInt64 := 0
  /-- Set once the session has been reclaimed; nobody joins it any more. -/
  isClosed : Bool := false
  deriving DecidableEq, Repr, Inhabited

/-- What a session looks like from outside. -/
structure SessionSummary where
  id : SessionId
  options : SessionOptions
  /-- The logins of the members in the order of joining. -/
  members : List String
  maxPlayers : Nat
  host : Option String
  tickCount : UInt64
  elapsed : Duration
  deriving DecidableEq, Repr, Inhabited

/-- To how many members a packet was queued, and to how many it could not be. -/
structure BroadcastReport where
  delivered : Nat := 0
  failed : Nat := 0
  deriving DecidableEq, Repr, Inhabited

namespace Session

/-- The member with a connection id. -/
def member? (s : Session) (id : ConnectionId) : Option Member := s.members.find? (·.id == id)

/-- Whether a connection id is that of a member. -/
def hasMember (s : Session) (id : ConnectionId) : Bool := (s.member? id).isSome

/-- Whether nobody more may join for lack of room. -/
def isFull (s : Session) : Bool := s.maxPlayers ≤ s.members.length

/-- Whether the session has no members. -/
def isEmpty (s : Session) : Bool := s.members.isEmpty

/-- The members in the order of joining. -/
def inJoinOrder (s : Session) : List Member :=
  s.members.mergeSort fun a b => a.joinedAt ≤ b.joinedAt

/-- The first of some members to have joined. -/
def earliest? : List Member → Option Member
  | [] => none
  | m :: rest =>
    match earliest? rest with
    | none => some m
    | some best => if best.joinedAt < m.joinedAt then some best else some m

/-- The view from outside. -/
def summary (s : Session) : SessionSummary where
  id := s.id
  options := s.options
  members := s.inJoinOrder.map (·.login)
  maxPlayers := s.maxPlayers
  host := (s.host.bind s.member?).map (·.login)
  tickCount := s.tickCount
  elapsed := s.elapsed

/-- The login a connection joins with: its own, or its id when it has none. -/
def loginOf (c : Connection) : String := c.login.getD c.id.print

/-- Makes a connection a member. -/
def join (s : Session) (cs : Connections) (h : Handle) (now : Nat) :
    Except SessionError (Session × Connections) :=
  let c := cs.get h
  if s.isClosed then .error (.notFound s.id)
  else if s.hasMember c.id then .error .alreadyMember
  else if s.isFull then .error (.full s.maxPlayers)
  else match c.session with
    | some other => .error (.inAnotherSession other)
    | none =>
      let member : Member := ⟨c.id, h, loginOf c, now⟩
      .ok ({ s with members := s.members ++ [member], host := s.host <|> some c.id },
        cs.set h { c with session := some s.id })

/-- Takes a member out; gives its login. -/
def leave (s : Session) (cs : Connections) (id : ConnectionId) :
    Option (String × Session × Connections) :=
  (s.member? id).map fun m =>
    let members := s.members.filter (·.id != id)
    let host := if s.host = some id then (earliest? members).map (·.id) else s.host
    (m.login, { s with members, host }, cs.update m.handle (·.releaseSession s.id))

/-- Takes several members out, one after the other; gives their logins. -/
def leaveEach (s : Session) (cs : Connections) : List ConnectionId →
    List String × Session × Connections
  | [] => ([], s, cs)
  | id :: rest =>
    match s.leave cs id with
    | none => leaveEach s cs rest
    | some (login, s, cs) =>
      let (logins, s, cs) := leaveEach s cs rest
      (login :: logins, s, cs)

/-- Changes the options. Only the host may. -/
def setOptions (s : Session) (id : ConnectionId) (options : SessionOptions) :
    Except SessionError Session :=
  if !s.hasMember id then .error .notMember
  else if s.host ≠ some id then .error .notHost
  else .ok { s with options }

/-- Queues bytes to some members; one that cannot be reached does not keep the others from it. -/
def sendEach (cs : Connections) (payload : Bytes) : List Member → BroadcastReport × Connections
  | [] => ({}, cs)
  | m :: rest =>
    let (result, c) := (cs.get m.handle).sendBytes payload
    let (report, cs) := sendEach (cs.set m.handle c) payload rest
    match result with
    | .ok () => ({ report with delivered := report.delivered + 1 }, cs)
    | .error _ => ({ report with failed := report.failed + 1 }, cs)

/-- Queues a packet to all members but one. -/
def broadcast (s : Session) (cs : Connections) (p : Packet) (excluding : Option ConnectionId) :
    BroadcastReport × Connections :=
  sendEach cs p.encode (s.members.filter fun m => some m.id != excluding)

/-- Lets time pass, and takes out the members whose connection is closed; gives their logins. -/
def tick (s : Session) (cs : Connections) (delta : Duration) :
    Except DurationError (List String × Session × Connections) :=
  match s.elapsed.add? delta with
  | none => .error .overflow
  | some elapsed =>
    let gone := (s.members.filter fun m => !(cs.get m.handle).isOpen).map (·.id)
    .ok (leaveEach { s with elapsed, tickCount := s.tickCount + 1 } cs gone)

/-- Takes all members out; gives how many there were. -/
def clear (s : Session) (cs : Connections) : Nat × Session × Connections :=
  let (logins, s, cs) := s.leaveEach cs (s.members.map (·.id))
  (logins.length, s, cs)

end Session

end PlayServer
