import PlayServer.Account.CharacterList
import PlayServer.Game.Request
import PlayServer.Server.Route

/-!
# The game service

What the game front end does with the requests of clients that have logged in, when a connection
ends, and when the scheduler runs. Each request about a session is answered to whoever asked; the
other members hear of a join, a departure or new options through notices, which carry the
correlation id 0. A malformed request is logged and not answered.
-/

namespace PlayServer.ServerState

/-- Answers a request about a session. -/
def respond (s : ServerState) (h : Handle) (request : Packet) (reply : SessionReply) :
    ServerState :=
  s.send h (request.reply Method.sessionResponse reply.encode)

/-- Tells the members of a session that a player has left it. -/
def announceDeparture (s : ServerState) (d : Departure) : ServerState :=
  s.notify d.session (gameNotice Method.playerLeft (playerBody d.login)) none

/-- Makes an audit record about the session of a connection. -/
def recordPlay (s : ServerState) (h : Handle) (description : String) (outcome : AuditOutcome)
    (details : String) : ServerState :=
  s.record
    { actor := (s.connection h).login.getD AuditRecord.unknownActor
      source := s.sourceOf h
      category := .gameSession
      description
      outcome
      details }

/-- Logs a request that cannot be read. -/
def malformed (s : ServerState) (e : BodyError) : ServerState :=
  s.warn ("Malformed game request: " ++ e.message)

/-- Lists the characters of the account that a connection has logged in to. When the store fails
the list is empty. -/
def listCharacters (s : ServerState) (h : Handle) (request : Packet) : ServerState :=
  match (s.connection h).login with
  | none => s
  | some login =>
    let (characters, s) :=
      match s.charactersOf login with
      | (.ok characters, s) => (characters, s)
      | (.error e, s) => ([], s.logError ("Character lookup failed: " ++ e.message))
    if (s.connection h).isOpen then
      s.send h (request.reply Method.characterListResponse (characterListBody characters))
    else s

/-- Answers a request to join a session, and tells the other members of a player who has. -/
def concludeJoin (s : ServerState) (h : Handle) (request : Packet) :
    Except SessionError SessionSummary → ServerState
  | .ok summary =>
    let c := s.connection h
    let s := s.respond h request (.ofSummary summary)
    let s := s.notify summary.id
      (gameNotice Method.playerJoined (playerBody (c.login.getD ""))) (some c.id)
    s.recordPlay h "Joined game session" .success summary.id.print
  | .error e => s.respond h request (.refusal e (s.connection h).session)

/-- Creates a session with options and joins it. -/
def createSession (s : ServerState) (h : Handle) (request : Packet)
    (options : Except SessionError SessionOptions) : ServerState :=
  match options with
  | .error e => s.concludeJoin h request (.error e)
  | .ok options =>
    let (result, lobby) := s.lobby.createAndJoin h options
    { s with lobby }.concludeJoin h request result

/-- Joins a session. -/
def joinSession (s : ServerState) (h : Handle) (request : Packet) (id : SessionId) : ServerState :=
  let (result, lobby) := s.lobby.join id h
  { s with lobby }.concludeJoin h request result

/-- Joins any session with room, or a new one. -/
def joinAnySession (s : ServerState) (h : Handle) (request : Packet) : ServerState :=
  let (result, lobby) := s.lobby.findOrCreateAndJoin h
  { s with lobby }.concludeJoin h request result

/-- Leaves a session. -/
def leaveSession (s : ServerState) (h : Handle) (request : Packet) : ServerState :=
  match s.lobby.leave h with
  | (.ok departure, lobby) =>
    let s := { s with lobby }.respond h request (.left departure.session)
    let s := s.announceDeparture departure
    s.recordPlay h "Left game session" .success departure.session.print
  | (.error e, lobby) => { s with lobby }.respond h request (.refusal e none)

/-- Relays chat text to the other members of the session. -/
def relayChat (s : ServerState) (h : Handle) (request : Packet) (text : Bytes) : ServerState :=
  let c := s.connection h
  match c.session with
  | none => s.respond h request (.refusal .notMember none)
  | some session =>
    match ofUtf8? text with
    | none => s.malformed (.invalidText "chat text")
    | some text =>
      let message := gameNotice Method.chatMessage (chatBody (c.login.getD "") text)
      match s.lobby.broadcast session message (some c.id) with
      | (.ok _, lobby) => { s with lobby }
      | (.error e, lobby) => { s with lobby }.respond h request (.refusal e none)

/-- Answers a request to change options, and tells the other members of options that are new. -/
def concludeOptions (s : ServerState) (h : Handle) (request : Packet) :
    Except SessionError SessionSummary → ServerState
  | .ok summary =>
    let reply := SessionReply.ofSummary summary
    let s := s.respond h request reply
    let s := s.notify summary.id (gameNotice Method.sessionResponse reply.encode)
      (some (s.connection h).id)
    s.recordPlay h "Changed session options" .success
      (summary.id.print ++ " " ++ summary.options.difficulty.name ++ " " ++
        summary.options.mode.name)
  | .error e => s.respond h request (.refusal e (s.connection h).session)

/-- Changes the options of the session that a connection hosts. -/
def changeOptions (s : ServerState) (h : Handle) (request : Packet)
    (options : Except SessionError SessionOptions) : ServerState :=
  match options with
  | .error e => s.concludeOptions h request (.error e)
  | .ok options =>
    let (result, lobby) := s.lobby.setOptions h options
    { s with lobby }.concludeOptions h request result

/-- Serves a request to the game service. -/
def serveRequest (s : ServerState) (h : Handle) (p : Packet) : GameRequest → ServerState
  | .characterList => s.listCharacters h p
  | .create options => s.createSession h p options
  | .join id => s.joinSession h p id
  | .joinAny => s.joinAnySession h p
  | .leave => s.leaveSession h p
  | .chat text => s.relayChat h p text
  | .setOptions options => s.changeOptions h p options

/-- Handles a packet of the game service from a client that has logged in. -/
def handlePlay (s : ServerState) (h : Handle) (p : Packet) : ServerState :=
  match GameRequest.read p.method p.body with
  | .error e => s.malformed e
  | .ok none => s
  | .ok (some request) => s.serveRequest h p request

/-- Handles a packet that comes in at the game front end. -/
def handleAtGame (s : ServerState) (h : Handle) (p : Packet) : ServerState :=
  match s.routeOf h p with
  | .forwarded => if p.service == Service.game then s.handlePlay h p else s
  | shared => s.serveShared h p shared

/-- Takes a connection that has ended out of its session, and tells the members who are left. -/
def leaveOnDisconnect (s : ServerState) (h : Handle) : ServerState :=
  if (s.connection h).session.isNone then s
  else
    match s.lobby.leave h with
    | (.ok departure, lobby) =>
      let s := { s with lobby }.announceDeparture departure
      s.recordPlay h "Left game session" .warning (departure.session.print ++ " (disconnected)")
    | (.error _, lobby) => { s with lobby }

/-- Lets time pass in all sessions, and tells the members who are left of those that were taken
out because their connection had closed. Fails when the time of a session overflows. -/
def tick (s : ServerState) (delta : Duration) : Except DurationError Unit × ServerState :=
  match s.lobby.tickAll delta with
  | (.error e, lobby) => (.error e, { s with lobby })
  | (.ok departures, lobby) =>
    (.ok (), departures.foldl announceDeparture { s with lobby, now := s.now + delta.nanos })

/-- Reclaims the sessions without members, and sets the gauges of sessions and players. -/
def sweep (s : ServerState) : ServerState :=
  let lobby := s.lobby.sweepEmpty.2
  { s with
    lobby
    metrics := s.metrics.setSessions (UInt64.ofNat lobby.count) (UInt64.ofNat lobby.playerCount) }

end PlayServer.ServerState
