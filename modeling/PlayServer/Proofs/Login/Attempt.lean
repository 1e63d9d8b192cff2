import PlayServer.Proofs.Login.Check
import PlayServer.Proofs.Server.Post

/-!
# A log-in under way

A log-in request that can be read begins a log-in, if one may begin. Its credentials are then
judged, and it ends as they were judged if its connection is still open: `authenticate_of_may`.

While the credentials are judged only the connection itself may change, by closing: `Awaits`. So a
connection that is still open then is as it was when the log-in began.
-/

namespace PlayServer

namespace ServerState

variable {s s' s'' : ServerState} {h : Handle} {p : Packet} {request : LoginRequest}
  {login : String}

/-- A server on which a log-in has begun. -/
def attempted (s : ServerState) (h : Handle) (login : String) : ServerState :=
  let s := s.updateConnection h Connection.beginAuth
  s.record (s.loginRecord h login "Authentication attempt" .success "")

/-- A request that cannot be read is logged and recorded. -/
theorem authenticate_of_error {e : BodyError} (malformed : LoginRequest.parse p.body = .error e) :
    s.authenticate h p =
      (.malformed,
        { s with
          audit := s.audit.record (s.loginRecord h AuditRecord.unknownActor
            "Malformed authentication request" .warning e.message)
          log := s.log ++ [⟨.warning, "Malformed auth request: " ++ e.message⟩] }) := by
  rw [authenticate, malformed]
  rfl

/-- A request is ignored if no log-in may begin. -/
theorem authenticate_of_busy (parsed : LoginRequest.parse p.body = .ok request)
    (busy : (s.connection h).mayBeginAuth = false) : s.authenticate h p = (.ignored, s) := by
  rw [authenticate, parsed]
  exact if_pos (by rw [busy]; decide)

/-- A log-in that may begin begins, has its credentials judged, and ends as they were if its
connection is still open. -/
theorem authenticate_of_may (parsed : LoginRequest.parse p.body = .ok request)
    (may : (s.connection h).mayBeginAuth = true) :
    s.authenticate h p =
      let judged :=
        (s.attempted h request.login).judgeCredentials request.login request.password
      if (judged.2.connection h).isOpen then judged.2.concludeLogin h p request.login judged.1
      else judged.2.abandonLogin h request.login judged.1 := by
  rw [authenticate, parsed]
  exact if_neg (by rw [may]; decide)

/-- A request waits for the store: no audit record is made and nothing is counted, and the
connection is as it was or has closed. -/
structure Awaits (h : Handle) (s s' : ServerState) : Prop where
  audit : s'.audit = s.audit
  metrics : s'.metrics = s.metrics
  connection : s'.connection h = s.connection h ∨ s'.connection h = (s.connection h).close

/-- A connection is as it was, unless it has closed. -/
def Unchanged (h : Handle) (s s' : ServerState) : Prop :=
  (s'.connection h).isOpen = true → s'.connection h = s.connection h

namespace Awaits

/-- The store, the log and what is going to come in between may change. -/
theorem of_eq (audit : s'.audit = s.audit) (metrics : s'.metrics = s.metrics)
    (lobby : s'.lobby = s.lobby) : Awaits h s s' :=
  ⟨audit, metrics, .inl (by rw [ServerState.connection, lobby, ServerState.connection])⟩

/-- Waiting goes on. -/
theorem trans (first : Awaits h s s') (second : Awaits h s' s'') : Awaits h s s'' where
  audit := second.audit.trans first.audit
  metrics := second.metrics.trans first.metrics
  connection := by
    obtain hsame | hclosed := second.connection
    · rw [hsame]
      exact first.connection
    · rw [hclosed]
      obtain hsame | hclosed := first.connection
      · exact .inr (congrArg _ hsame)
      · rw [hclosed]
        exact .inr (if_neg (by simp [Connection.isOpen_close]))

/-- A connection closes. -/
theorem close (s : ServerState) (h k : Handle) : Awaits h s (s.close k) where
  audit := rfl
  metrics := rfl
  connection := by
    rw [ServerState.close, connection_updateConnection_eq]
    split
    next hk => exact .inr (by rw [hk])
    · exact .inl rfl

/-- Credentials are judged. -/
theorem judgeCredentials (s : ServerState) (h : Handle) (login password : String) :
    Awaits h s (s.judgeCredentials login password).2 :=
  judgeCredentials_keeps
    (fun _ call override run waits =>
      callStore_keeps (fun s₁ k h₁ => h₁.trans (close s₁ h k))
        (fun _ _ _ h₁ => h₁.trans (.of_eq rfl rfl rfl)) waits call override run)
    (fun _ _ waits => waits.trans (.of_eq rfl rfl rfl)) (.of_eq rfl rfl rfl) login password

/-- A connection is unchanged while it is open. -/
theorem unchanged (awaits : Awaits h s s') : Unchanged h s s' := by
  intro hopen
  obtain hsame | hclosed := awaits.connection
  · exact hsame
  · rw [hclosed, Connection.isOpen_close] at hopen
    cases hopen

end Awaits

/-- The connection whose log-in has begun is the same otherwise. -/
theorem connection_attempted (may : (s.connection h).mayBeginAuth = true) (login : String) :
    (s.attempted h login).connection h = { s.connection h with auth := .inProgress } := by
  have hbegin : (s.updateConnection h Connection.beginAuth).connection h =
      (s.connection h).beginAuth := connection_updateConnection s h _
  rw [Connection.beginAuth, if_pos may] at hbegin
  exact hbegin

/-- A connection that is still open when the credentials have been judged is as it was when the
log-in began. -/
theorem connection_of_awaits (may : (s.connection h).mayBeginAuth = true)
    (awaits : Awaits h (s.attempted h login) s') (isOpen : (s'.connection h).isOpen = true) :
    s'.connection h = { s.connection h with auth := .inProgress } ∧
      (s.connection h).isOpen = true := by
  have hsame : s'.connection h = { s.connection h with auth := .inProgress } :=
    (awaits.unchanged isOpen).trans (connection_attempted may login)
  refine ⟨hsame, ?_⟩
  rw [hsame] at isOpen
  exact isOpen

end ServerState

end PlayServer
