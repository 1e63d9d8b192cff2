import PlayServer.Admin.Answer

/-!
# The admin endpoint over HTTP

One request a connection, of which only the first line of at most 4096 bytes counts: a method and
a target, with white space between them. An answer closes the connection. A peer that sends
nothing is answered nothing.
-/

namespace PlayServer

/-- How much of a request is looked at. -/
def httpRequestLimit : Nat := 4096

/-- The method and the target of a request, if its first line has both. -/
def httpRequest? (request : Bytes) : Option (String × String) :=
  let text := ofUtf8Lossy (request.take httpRequestLimit)
  match (Text.splitAtChar '\n' text).head?.map Text.words with
  | some (method :: target :: _) => some (method, target)
  | _ => none

/-- The text of an answer on the wire. -/
def AdminAnswer.http (a : AdminAnswer) : String :=
  s!"HTTP/1.1 {a.status} " ++ reason a.status ++ "\r\nContent-Type: " ++ a.contentType ++
    s!"\r\nContent-Length: {a.body.utf8ByteSize}\r\nConnection: close\r\n\r\n" ++ a.body

/-- Answers the bytes of a request. -/
def ServerState.answerHttp (s : ServerState) (times : Times) (request : Bytes) : Option String :=
  if request.isEmpty then none
  else
    let answer :=
      match httpRequest? request with
      | some (method, target) => s.answer times method target
      | none => .refusal 400
    some answer.http

end PlayServer
