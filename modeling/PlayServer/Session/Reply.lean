import PlayServer.Session.Basic
import PlayServer.Wire.Body

/-!
# Replies to session requests

Every request about a session is answered by a body of seven bytes: a status, 0 for success, the
id of a session, a difficulty and a mode. Options travel in two bytes, the difficulty first.
-/

namespace PlayServer

/-- The answer to a request about a session. -/
structure SessionReply where
  status : UInt8
  session : UInt32
  difficulty : UInt8
  mode : UInt8
  deriving DecidableEq, Repr

namespace SessionReply

/-- The size of an encoded reply. -/
def size : Nat := 7

/-- The status of success. -/
def statusOk : UInt8 := 0

/-- The answer that tells of a session and its options. -/
def ofSummary (s : SessionSummary) : SessionReply :=
  ⟨statusOk, s.id.value, s.options.difficulty.byte, s.options.mode.byte⟩

/-- The answer to whoever has left a session. -/
def left (id : SessionId) : SessionReply := ⟨statusOk, id.value, 0, 0⟩

/-- The answer that tells of a refusal, and of the session that the requester is in. -/
def refusal (e : SessionError) (current : Option SessionId) : SessionReply :=
  ⟨e.status, (current.map (·.value)).getD 0, 0, 0⟩

/-- The body of a reply. -/
def encode (r : SessionReply) : Bytes :=
  Field.encodeAll [.u8 r.status, .u32 r.session, .u8 r.difficulty, .u8 r.mode]

/-- Reads a reply off the front of a body. -/
def decode (body : Bytes) : Except BodyError SessionReply :=
  let (status, c) := (Cursor.mk body 0).u8
  let (session, c) := c.u32
  let (difficulty, c) := c.u8
  let (mode, _) := c.u8
  match status, session, difficulty, mode with
  | some status, some session, some difficulty, some mode =>
    .ok { status, session, difficulty, mode }
  | _, _, _, _ => .error (.truncated size body.length)

/-- An encoded reply has the size of a reply. -/
@[simp] theorem length_encode (r : SessionReply) : r.encode.length = size := by
  simp [encode, Field.encodeAll, Field.encode, size]

end SessionReply

/-- The bytes of a difficulty and a mode at the front of a body. -/
def readOptionBytes (body : Bytes) : Except BodyError (UInt8 × UInt8) :=
  match body with
  | difficulty :: mode :: _ => .ok (difficulty, mode)
  | _ => .error (.truncated 2 body.length)

/-- The options that two bytes stand for. -/
def SessionOptions.ofBytes (difficulty mode : UInt8) : Except SessionError SessionOptions := do
  let difficulty ← Difficulty.ofByte difficulty
  let mode ← GameMode.ofByte mode
  return { difficulty, mode }

end PlayServer
