import PlayServer.Text.Quoted
import PlayServer.Wire.Body
import PlayServer.Wire.Packet

/-!
# Log-in requests and replies

A log-in request is a body that begins with its message type and holds a login and a password as
short texts; whatever follows them is not looked at. The reply tells success or failure and
nothing else.
-/

namespace PlayServer

/-- The credentials a client logs in with. -/
structure LoginRequest where
  login : String
  password : String
  deriving DecidableEq, Repr

namespace LoginRequest

/-- The body of a request. -/
def encode (r : LoginRequest) : Bytes :=
  Field.encodeAll [.u8 MessageType.loginRequest, .shortText r.login, .shortText r.password]

/-- Reads a request. The first thing wrong from left to right decides the error. -/
def parse (body : Bytes) : Except BodyError LoginRequest :=
  match (Cursor.mk body 0).u8 with
  | (none, _) => .error (.truncated 1 0)
  | (some kind, c) =>
    if kind ≠ MessageType.loginRequest then .error (.unexpectedType kind)
    else match c.shortText "login" with
      | (.error e, _) => .error e
      | (.ok login, c) =>
        match c.shortText "password" with
        | (.error e, _) => .error e
        | (.ok password, _) => .ok { login, password }

/-- What may be shown of a request, whose password never is. Only a login of printable ASCII
characters is shown. -/
def redacted? (r : LoginRequest) : Option String :=
  if r.login.toList.all fun c => ' ' ≤ c && c ≤ '~' then
    some ("AuthRequest \x7b login: " ++ Text.quote r.login ++ ", password: \"<redacted>\" \x7d")
  else none

end LoginRequest

/-- The body of the answer to a log-in request. -/
def loginReplyBody (success : Bool) : Bytes :=
  [MessageType.loginResponse, if success then 1 else 0]

/-- The body of the answer to a ping. -/
def pongBody : Bytes := [MessageType.pong]

end PlayServer
