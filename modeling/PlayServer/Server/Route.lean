import PlayServer.Login.Check

/-!
# Routes that both front ends share

`Route.of` decides where a packet goes from its service, its method, its body and whether the
sender has logged in: to the log-in or the housekeeping of the connection, which both front ends
serve, or on to the front end itself. A packet for any other service from a sender that has not
logged in is refused, and closes the connection.
-/

namespace PlayServer

/-- Where a packet goes. -/
inductive Route where
  /-- It opens a log-in, and is answered with an empty challenge. -/
  | challenge
  /-- It asks to log in. -/
  | login
  /-- It asks for a sign of life. -/
  | ping
  /-- It is none of the requests that its service knows. -/
  | unknown
  /-- Its service is not open to the sender. -/
  | refused
  /-- The front end itself serves it. -/
  | forwarded
  deriving DecidableEq, Repr, Inhabited

/-- Whether a body may stand in a ping: it is empty or begins with the type of a ping. -/
def isPingBody : Bytes → Bool
  | [] => true
  | kind :: _ => kind == MessageType.ping

/-- Where a packet goes, given whether its sender has logged in. -/
def Route.of (hasLoggedIn : Bool) (p : Packet) : Route :=
  if p.service == Service.authentication then
    if p.method == Method.challengeRequest then challenge
    else if p.method == Method.loginRequest then login
    else unknown
  else if p.service == Service.connection then
    if p.method == Method.ping && isPingBody p.body then ping else unknown
  else if hasLoggedIn then forwarded
  else refused

namespace ServerState

/-- The details that audit records give of a packet. -/
def packetDetails (p : Packet) : String :=
  "service 0x" ++ hexNumeral 4 p.service.toNat ++ " method 0x" ++ hexNumeral 4 p.method.toNat

/-- Refuses a packet from a sender that has not logged in, and closes the connection. -/
def refuse (s : ServerState) (h : Handle) (p : Packet) : ServerState :=
  let s := s.warn "Unauthenticated request, disconnecting"
  let s := s.record
    { actor := AuditRecord.unknownActor
      source := s.sourceOf h
      category := .security
      description := "Request before authentication"
      outcome := .unauthorized
      details := packetDetails p }
  s.close h

/-- Where a packet of a connection goes. -/
def routeOf (s : ServerState) (h : Handle) (p : Packet) : Route :=
  Route.of (s.connection h).isAuthenticated p

/-- Serves a packet on a route that both front ends share. -/
def serveShared (s : ServerState) (h : Handle) (p : Packet) : Route → ServerState
  | .challenge => s.send h (p.reply Method.challengeResponse [])
  | .login => (s.authenticate h p).2
  | .ping => s.send h (p.reply Method.pong pongBody)
  | .refused => s.refuse h p
  | .unknown | .forwarded => s

/-- Handles a packet that comes in at the gateway, which serves the shared routes only. -/
def handleAtGateway (s : ServerState) (h : Handle) (p : Packet) : ServerState :=
  s.serveShared h p (s.routeOf h p)

end ServerState

end PlayServer
