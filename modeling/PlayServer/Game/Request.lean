import PlayServer.Session.Reply
import PlayServer.Wire.Packet

/-!
# Game requests

What a client that has logged in may ask of the game service, read from the method and the body
of a packet. A body that is too short is malformed. One whose options do not exist reads well: the
request is then refused like any other that cannot be met. Chat text is judged later, since only a
member of a session may chat at all.
-/

namespace PlayServer

/-- A request to the game service. -/
inductive GameRequest where
  | characterList
  | create (options : Except SessionError SessionOptions)
  | join (id : SessionId)
  | joinAny
  | leave
  | chat (text : Bytes)
  | setOptions (options : Except SessionError SessionOptions)

namespace GameRequest

/-- The request in a packet, if its method is known. -/
def read (method : UInt16) (body : Bytes) : Except BodyError (Option GameRequest) :=
  if method == Method.characterListRequest then .ok (some characterList)
  else if method == Method.createSession then
    if body.isEmpty then .ok (some (create (.ok {})))
    else (readOptionBytes body).map fun (d, m) => some (create (SessionOptions.ofBytes d m))
  else if method == Method.joinSession then
    match ((Cursor.mk body 0).u32).1 with
    | none => .error (.truncated 4 body.length)
    | some id => .ok (some (if id = 0 then joinAny else join ⟨id⟩))
  else if method == Method.leaveSession then .ok (some leave)
  else if method == Method.sessionChat then .ok (some (chat body))
  else if method == Method.setSessionOptions then
    (readOptionBytes body).map fun (d, m) => some (setOptions (SessionOptions.ofBytes d m))
  else .ok none

end GameRequest

/-- The longest chat text that is relayed, in bytes. -/
def maxChatText : Nat := 512

/-- The body of a relayed chat message: who speaks, and then the text, clipped. -/
def chatBody (login text : String) : Bytes :=
  Field.encodeAll [.shortText login, .raw (Text.clip maxChatText text)]

/-- The body of a notice about a player. -/
def playerBody (login : String) : Bytes := Field.encodeAll [.shortText login]

/-- A packet of the game service that answers no request. -/
def gameNotice (method : UInt16) (body : Bytes) : Packet :=
  ⟨Service.game, method, 0, body⟩

end PlayServer
