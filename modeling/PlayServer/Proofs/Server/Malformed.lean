import PlayServer.Proofs.Audit.Trail
import PlayServer.Proofs.Game.Reading
import PlayServer.Proofs.Login.Attempt
import PlayServer.Proofs.Login.Rejection
import PlayServer.Proofs.Server.Announcement

/-!
# Malformed packets

A packet whose body cannot be read leaves no trace but a line in the operator's log and, if it asks
to log in, an audit record: `handle_of_unreadable`. `Unreadable` says which packets these are, and
why each of them cannot be read.

A request to the game service is judged by its length alone, and chat by its text, once its sender
is known to name a session.
-/

namespace PlayServer.ServerState

/-- A packet that the game front end takes as a request to the game service. -/
structure IsPlay (s : ServerState) (h : Handle) (p : Packet) : Prop where
  authenticated : (s.connection h).isAuthenticated = true
  service : p.service = Service.game

/-- A packet whose body the route that it takes cannot read, and what is wrong with it. -/
inductive Unreadable (s : ServerState) (h : Handle) (p : Packet) : Front → BodyError → Prop where
  /-- Credentials that cannot be read. -/
  | login {front : Front} {e : BodyError} (asks : AsksToLogIn p)
      (refused : LoginRequest.parse p.body = .error e) : Unreadable s h p front e
  /-- Options of one byte. -/
  | create (play : s.IsPlay h p) (method : p.method = Method.createSession)
      (short : p.body.length = 1) : Unreadable s h p .game (.truncated 2 1)
  /-- The id of a session in less than four bytes. -/
  | join (play : s.IsPlay h p) (method : p.method = Method.joinSession)
      (short : p.body.length < 4) : Unreadable s h p .game (.truncated 4 p.body.length)
  /-- Options of less than two bytes. -/
  | options (play : s.IsPlay h p) (method : p.method = Method.setSessionOptions)
      (short : p.body.length < 2) : Unreadable s h p .game (.truncated 2 p.body.length)
  /-- Text of somebody in a session that is not UTF-8. -/
  | chat (play : s.IsPlay h p) (method : p.method = Method.sessionChat)
      (member : (s.connection h).session ≠ none) (garbled : ∀ text, p.body ≠ utf8 text) :
      Unreadable s h p .game (.invalidText "chat text")

variable {s : ServerState} {front : Front} {h : Handle} {p : Packet} {e : BodyError}

/-- A request to the game service is handled as what it reads as. -/
theorem handle_of_isPlay (play : s.IsPlay h p) : s.handle .game h p = s.handlePlay h p := by
  have hroute : s.routeOf h p = .forwarded := by
    rw [routeOf, play.authenticated, Route.of, play.service]
    rfl
  rw [handle, handleAtGame, hroute]
  exact if_pos (by simp [play.service])

/-- A request to the game service that is too short is logged. -/
theorem handlePlay_of_error (short : GameRequest.read p.method p.body = .error e) :
    s.handlePlay h p = s.malformed e := by
  rw [handlePlay, short]

/-- Chat is relayed as it comes in. -/
theorem handlePlay_of_chat (method : p.method = Method.sessionChat) :
    s.handlePlay h p = s.relayChat h p p.body := by
  rw [handlePlay, method]
  rfl

/-- Text that is not UTF-8 is logged, if whoever speaks names a session. -/
theorem relayChat_of_garbled {text : Bytes} (member : (s.connection h).session ≠ none)
    (garbled : ∀ t, text ≠ utf8 t) :
    s.relayChat h p text = s.malformed (.invalidText "chat text") := by
  obtain ⟨session, hsession⟩ := Option.ne_none_iff_exists'.mp member
  have hnone : ofUtf8? text = none := ofUtf8?_eq_none_iff.mpr fun t ht => garbled t ht.symm
  unfold relayChat
  simp only [hsession, hnone]

/-- What the operator reads of a packet that cannot be read. -/
def malformedLine (p : Packet) (e : BodyError) : LogLine where
  severity := .warning
  text := (if p.service = Service.authentication then "Malformed auth request: "
    else "Malformed game request: ") ++ e.message

/-- What is audited of a request to log in that cannot be read. -/
def malformedRecord (s : ServerState) (h : Handle) (e : BodyError) : AuditRecord where
  actor := AuditRecord.unknownActor
  source := (s.connection h).address.print
  category := .authentication
  description := "Malformed authentication request"
  outcome := .warning
  details := e.message

/-- A packet to the game service that cannot be read is logged. -/
theorem malformed_eq (service : p.service = Service.game) :
    s.malformed e = { s with log := s.log ++ [malformedLine p e] } := by
  rw [malformedLine, service]
  rfl

/-- A packet that cannot be read leaves a line in the log, and an audit record if it asks to log
in. -/
theorem handle_eq_of_unreadable (unreadable : s.Unreadable h p front e) :
    s.handle front h p = { s with
      log := s.log ++ [malformedLine p e]
      audit := if p.service = Service.authentication then s.audit.record (s.malformedRecord h e)
        else s.audit } := by
  have playing (play : s.IsPlay h p) (logged : s.handlePlay h p = s.malformed e) :
      s.handle .game h p = { s with
        log := s.log ++ [malformedLine p e]
        audit := if p.service = Service.authentication then s.audit.record (s.malformedRecord h e)
          else s.audit } := by
    have hother : p.service ≠ Service.authentication := by
      rw [play.service]
      decide
    rw [handle_of_isPlay play, logged, malformed_eq play.service, if_neg hother]
  cases unreadable with
  | login asks refused =>
    change s.step (.packet front h p) = _
    rw [asks.step_eq, authenticate_of_error refused, malformedLine, asks.service]
    rfl
  | create play method short =>
    exact playing play (handlePlay_of_error (GameRequest.read_eq_error_iff.mpr
      (.inl ⟨method, short, rfl⟩)))
  | join play method short =>
    exact playing play (handlePlay_of_error (GameRequest.read_eq_error_iff.mpr
      (.inr (.inl ⟨method, short, rfl⟩))))
  | options play method short =>
    exact playing play (handlePlay_of_error (GameRequest.read_eq_error_iff.mpr
      (.inr (.inr ⟨method, short, rfl⟩))))
  | chat play method member garbled =>
    exact playing play ((handlePlay_of_chat method).trans (relayChat_of_garbled member garbled))

/-- A packet that cannot be read, in whatever state it comes in: sessions and members, what every
connection names and where it stands with its log-in, every queue, the store, the metrics, the
registries and what is going to come in between are the same, and nothing is queued to anybody. Its
connection stays open. The operator's log gets one warning that says what is wrong, and the audit
log one record if the packet asks to log in, and none otherwise. -/
theorem handle_of_unreadable (opened : (s.connection h).isOpen = true)
    (unreadable : s.Unreadable h p front e) :
    let s' := s.handle front h p
    s' = { s with log := s'.log, audit := s'.audit } ∧
      (s'.connection h).isOpen = true ∧
      (∀ k, s.queuedBy (.packet front h p) k = []) ∧
      s'.log = s.log ++ [malformedLine p e] ∧
      (p.service = Service.authentication →
        s'.audit = s.audit.record (s.malformedRecord h e) ∧
          s'.audit.recorded = s.audit.recorded + 1 ∧
          s'.audit.since s.audit = [s.malformedRecord h e]) ∧
      (p.service ≠ Service.authentication → s'.audit = s.audit) := by
  intro s'
  have hhandled : s' = _ := handle_eq_of_unreadable unreadable
  refine ⟨by rw [hhandled], by rw [hhandled]; exact opened, fun k => ?_, by rw [hhandled],
    fun hlogin => ?_, fun hother => ?_⟩
  · change (s'.connection k).outbox.queue.drop _ = []
    rw [hhandled]
    exact List.drop_length
  · have haudit : s'.audit = s.audit.record (s.malformedRecord h e) := by
      rw [hhandled]
      exact if_pos hlogin
    exact ⟨haudit, by rw [haudit, AuditLog.recorded_record], by rw [haudit, AuditLog.since_record]⟩
  · rw [hhandled]
    exact if_neg hother

/-- A player opens a session and says something in it that is not UTF-8. All that comes of it is a
warning. -/
theorem handle_of_unreadable_garbledChat :
    let s := twoPlayers.run [.packet .game 0 ⟨Service.game, Method.createSession, 1, []⟩]
    let p : Packet := ⟨Service.game, Method.sessionChat, 2, [0xff]⟩
    let line : LogLine := ⟨.warning, "Malformed game request: invalid utf-8 in chat text"⟩
    (s.connection 0).isOpen = true ∧ s.Unreadable 0 p .game (.invalidText "chat text") ∧
      s.handle .game 0 p = { s with log := s.log ++ [line] } := by
  intro s p line
  have hopen : (s.connection 0).isOpen = true := by decide +kernel
  have hgarbled : ∀ text, p.body ≠ utf8 text := by
    intro text htext
    have hnone : ofUtf8? p.body = none := by decide
    simp [htext] at hnone
  have hunreadable : s.Unreadable 0 p .game (.invalidText "chat text") :=
    .chat ⟨by decide +kernel, rfl⟩ rfl (by decide +kernel) hgarbled
  obtain ⟨hsame, -, -, hlog, -, haudit⟩ := handle_of_unreadable hopen hunreadable
  refine ⟨hopen, hunreadable, ?_⟩
  rw [hsame, hlog, haudit (by decide)]
  rfl

end PlayServer.ServerState
