import PlayServer.Proofs.Server.Notice

/-!
# Replies and acceptances

A client learns what session it is in, and on which terms, from replies to requests about sessions:
those to its own requests, and those that tell the members of options which are new.
`sessionReply?` reads the reply in a payload. A reply of status 0 is an acceptance; the last
acceptance among some payloads is what a client knows once it has read them: `lastAcceptance`.
-/

namespace PlayServer

/-- An encoded reply reads back. -/
theorem SessionReply.decode_encode (r : SessionReply) : decode r.encode = .ok r := by
  have hwritten (b : UInt8) : BigEndian.encode 1 b.toNat = [b] := by simp [BigEndian.encode]
  have hread (b : UInt8) : UInt8.ofNat (BigEndian.decode [b]) = b := by simp [BigEndian.decode]
  have hsession : BigEndian.decode (BigEndian.encode 4 r.session.toNat) = r.session.toNat :=
    BigEndian.decode_encode r.session.toNat_lt
  have hend : (BigEndian.encode 4 r.session.toNat).drop 5 = [] :=
    List.drop_of_length_le (by simp)
  simp [decode, encode, Field.encodeAll, Field.encode, Cursor.u8, Cursor.u32, Cursor.number,
    Cursor.read, Cursor.remaining, hwritten, hread, hsession, hend, List.drop_append]

/-- The reply about a session that a payload carries. -/
def sessionReply? (payload : Bytes) : Option SessionReply :=
  let header := Header.decode payload
  if header.service == Service.game && header.method == Method.sessionResponse then
    (SessionReply.decode (payload.drop headerSize)).toOption
  else none

/-- A packet of another service or method carries no reply about a session. -/
theorem sessionReply?_encode_of_other {p : Packet}
    (other : (p.service == Service.game && p.method == Method.sessionResponse) = false) :
    sessionReply? p.encode = none := by
  rw [sessionReply?, Packet.encode, Header.decode_encode]
  exact if_neg (by simp [Packet.header, other])

/-- A packet of the service and method for it carries the reply that is its body. -/
theorem sessionReply?_encode (correlation : UInt32) (r : SessionReply) :
    sessionReply? (Packet.encode ⟨Service.game, Method.sessionResponse, correlation, r.encode⟩) =
      some r := by
  rw [sessionReply?, Packet.encode, Header.decode_encode,
    List.drop_left' (Header.length_encode _), SessionReply.decode_encode]
  rfl

/-- A notice of a player who has joined carries no reply. -/
theorem sessionReply?_joinedNotice (login : String) : sessionReply? (joinedNotice login) = none :=
  sessionReply?_encode_of_other rfl

/-- A notice of a player who has left carries no reply. -/
theorem sessionReply?_leftNotice (login : String) : sessionReply? (leftNotice login) = none :=
  sessionReply?_encode_of_other rfl

/-- The reply of status 0 that a payload carries. -/
def acceptance? (payload : Bytes) : Option SessionReply :=
  (sessionReply? payload).filter (·.status == SessionReply.statusOk)

/-- The last reply of status 0 among some payloads. -/
def lastAcceptance (payloads : List Bytes) : Option SessionReply :=
  (payloads.filterMap acceptance?).getLast?

/-- A payload without a reply carries no acceptance. -/
theorem acceptance?_eq_none {payload : Bytes} (h : sessionReply? payload = none) :
    acceptance? payload = none := by
  rw [acceptance?, h]
  rfl

/-- What is accepted later counts. -/
theorem lastAcceptance_append (payloads payloads' : List Bytes) :
    lastAcceptance (payloads ++ payloads') =
      (lastAcceptance payloads').or (lastAcceptance payloads) := by
  rw [lastAcceptance, List.filterMap_append, List.getLast?_append]
  rfl

/-- Of payloads that carry no acceptance none is the last. -/
theorem lastAcceptance_eq_none {payloads : List Bytes}
    (h : ∀ payload ∈ payloads, acceptance? payload = none) : lastAcceptance payloads = none := by
  rw [lastAcceptance, List.filterMap_eq_nil_iff.mpr h]
  rfl

/-- Of one payload the last acceptance is the one it carries, if any. -/
theorem lastAcceptance_singleton (payload : Bytes) :
    lastAcceptance [payload] = acceptance? payload := by
  rw [lastAcceptance, List.filterMap_cons]
  cases acceptance? payload <;> rfl

/-- What answers a request about a session. -/
def sessionAnswer (request : Packet) (r : SessionReply) : Bytes :=
  (request.reply Method.sessionResponse r.encode).encode

/-- What tells the members of a session of its options when they are new. -/
def optionsNotice (r : SessionReply) : Bytes :=
  (gameNotice Method.sessionResponse r.encode).encode

/-- An answer to a request about a session is within the limit. -/
theorem inLimit_sessionAnswer (request : Packet) (r : SessionReply) :
    (request.reply Method.sessionResponse r.encode).InLimit := by
  rw [Packet.InLimit, Packet.reply, SessionReply.length_encode]
  decide

/-- An answer to a request of the game service carries its reply. -/
theorem sessionReply?_sessionAnswer {request : Packet} (service : request.service = Service.game)
    (r : SessionReply) : sessionReply? (sessionAnswer request r) = some r := by
  rw [sessionAnswer, Packet.reply, service]
  exact sessionReply?_encode request.correlation r

/-- A notice of new options carries a reply. -/
theorem sessionReply?_optionsNotice (r : SessionReply) :
    sessionReply? (optionsNotice r) = some r :=
  sessionReply?_encode 0 r

end PlayServer
