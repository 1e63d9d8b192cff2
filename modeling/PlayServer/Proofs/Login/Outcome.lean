import PlayServer.Proofs.Login.Rejection
import PlayServer.Proofs.Login.Verdict

/-!
# What a log-in request comes to

`authenticate_outcome` says what comes of a log-in request, whatever its body, the connection it
came from and the accounts: the outcome, where the connection stands with its log-in, what is queued
to it, which audit records are made and how the metrics count it. A request that can be read and
comes from a connection that may log in ends in one of the ways that `loginEnd` lists, as the
credentials are judged and the connection is then still open or not.

Where nothing comes in between, the connection is open if it was, and the judgement is the first
check that the credentials fail.
-/

namespace PlayServer.ServerState

/-- How a log-in ends: the outcome, where the connection then stands with its log-in, the body of
the reply if the client gets one, the last audit record, and the metrics. -/
structure LoginEnd where
  outcome : LoginOutcome
  loginState : AuthState × Option String
  reply : Option Bytes
  record : AuditRecord
  metrics : Metrics

/-- How a log-in ends whose connection is still open or not when its credentials have been judged. -/
def loginEnd (s : ServerState) (h : Handle) (login : String) (stillOpen : Bool)
    (verdict : Option LoginFailure) : LoginEnd :=
  match stillOpen, verdict with
  | false, verdict =>
    { outcome := .disconnected
      loginState := (.failed, none)
      reply := none
      record := s.loginRecord h login "Connection closed during authentication" .warning
        ((verdict.map LoginFailure.reason).getD "credentials accepted")
      metrics := s.metrics }
  | true, none =>
    { outcome := .authenticated login
      loginState := (.authenticated, some login)
      reply := some [2, 1]
      record := s.loginRecord h login "Login succeeded" .success ""
      metrics := { s.metrics with authSuccess := s.metrics.authSuccess + 1 } }
  | true, some failure =>
    { outcome := .rejected failure
      loginState := (.failed, none)
      reply := some [2, 0]
      record := s.refusalRecord h login failure
      metrics := { s.metrics with authFailure := s.metrics.authFailure + 1 } }

/-- What is queued to a connection that gets a reply to a request, if it gets one and takes it. -/
def LoginEnd.queued (e : LoginEnd) (c : Connection) (request : Packet) : List Bytes :=
  match e.reply with
  | none => []
  | some body => if c.takes then [(request.reply Method.loginResponse body).encode] else []

/-- A log-in under a login, asked for on a connection of a server, has ended in a way. Two audit
records have been made, of which the first tells of the attempt. -/
structure LoginEnd.Reached (e : LoginEnd) (s : ServerState) (h : Handle) (request : Packet)
    (login : String) (result : LoginOutcome × ServerState) : Prop where
  outcome : result.1 = e.outcome
  loginState : (result.2.connection h).loginState = e.loginState
  isOpen : (result.2.connection h).isOpen = e.reply.isSome
  queued : (result.2.connection h).outbox.queue.drop (s.connection h).outbox.queue.length =
    e.queued (s.connection h) request
  audit : result.2.audit =
    (s.audit.record (s.loginRecord h login "Authentication attempt" .success "")).record e.record
  metrics : result.2.metrics = e.metrics

/-- All that a log-in on a connection leaves alone: other connections, the sessions, the registries,
the time, and what is going to come in between. -/
structure LoginOnly (h : Handle) (s s' : ServerState) : Prop where
  others : ∀ k, k ≠ h → s'.connection k = s.connection k
  sessions : { s'.lobby with connections := s.lobby.connections } = s.lobby
  rest : { s' with
    lobby := s.lobby, store := s.store, audit := s.audit, metrics := s.metrics, log := s.log } = s

variable {s s' s'' : ServerState} {h : Handle} {p : Packet} {login : String}

/-- Who asks is known by the same address while a log-in is under way. -/
theorem sourceOf_of_awaits (may : (s.connection h).mayBeginAuth = true)
    (awaits : Awaits h (s.attempted h login) s') : s'.sourceOf h = s.sourceOf h := by
  have haddress : (s'.connection h).address = (s.connection h).address := by
    obtain hsame | hclosed := awaits.connection
    · rw [hsame, connection_attempted may]
    · rw [hclosed, connection_attempted may, Connection.close]
      split <;> rfl
  rw [sourceOf, haddress, sourceOf]

/-- A connection that changes keeps its address. -/
theorem sourceOf_updateConnection {change : Connection → Connection}
    (keeps : (change (s.connection h)).address = (s.connection h).address) :
    (s.updateConnection h change).sourceOf h = s.sourceOf h := by
  rw [sourceOf, connection_updateConnection, keeps, sourceOf]

/-- Audit records about a log-in name the address of the connection, and look at no more of it. -/
theorem loginRecord_congr (source : s'.sourceOf h = s.sourceOf h) (actor description : String)
    (outcome : AuditOutcome) (details : String) :
    s'.loginRecord h actor description outcome details =
      s.loginRecord h actor description outcome details := by
  rw [loginRecord, source, loginRecord]

/-- The attempt has been recorded while a log-in is under way. -/
theorem audit_of_awaits (may : (s.connection h).mayBeginAuth = true)
    (awaits : Awaits h (s.attempted h login) s') :
    s'.audit = s.audit.record (s.loginRecord h login "Authentication attempt" .success "") := by
  have haddress : (s.connection h).beginAuth.address = (s.connection h).address := by
    rw [Connection.beginAuth, if_pos may]
  rw [awaits.audit, ← loginRecord_congr (sourceOf_updateConnection haddress)]
  rfl

/-- The connection is told how its log-in ended, once that has been settled. -/
theorem reached_replyToLogin {e : LoginEnd} {c : Connection} {success : Bool}
    (settled : s'.connection h = c) (isOpen : c.isOpen = true)
    (loginState : c.loginState = e.loginState) (queue : c.outbox = (s.connection h).outbox)
    (hasWriter : c.hasWriter = (s.connection h).hasWriter)
    (reply : e.reply = some (loginReplyBody success))
    (audit : s'.audit = (s.audit.record
      (s.loginRecord h login "Authentication attempt" .success "")).record e.record)
    (metrics : s'.metrics = e.metrics) :
    e.Reached s h p login (e.outcome, s'.replyToLogin h p success) := by
  have hlimit : (p.reply Method.loginResponse (loginReplyBody success)).InLimit := by
    change 2 ≤ maxBodySize
    decide
  have hafter : (s'.replyToLogin h p success).connection h =
      (c.send (p.reply Method.loginResponse (loginReplyBody success))).2 := by
    rw [← settled]
    exact connection_updateConnection s' h _
  refine ⟨rfl, ?_, ?_, ?_, audit, metrics⟩
  · rw [hafter, (c.sameStanding_send _).loginState, loginState]
  · rw [hafter, Connection.isOpen_send, isOpen, reply]
    rfl
  · rw [hafter, ← queue, Connection.queue_send isOpen hlimit, LoginEnd.queued, reply,
      Connection.takes, Connection.takes, queue, hasWriter]

/-- A log-in whose connection is still open ends as its credentials were judged. -/
theorem reached_concludeLogin (may : (s.connection h).mayBeginAuth = true)
    (awaits : Awaits h (s.attempted h login) s') (isOpen : (s'.connection h).isOpen = true)
    (verdict : Option LoginFailure) :
    (s.loginEnd h login true verdict).Reached s h p login
      (s'.concludeLogin h p login verdict) := by
  obtain ⟨hsame, hopen⟩ := connection_of_awaits may awaits isOpen
  have haudit := audit_of_awaits may awaits
  have hmetrics : s'.metrics = s.metrics := awaits.metrics
  have hsource := sourceOf_of_awaits may awaits
  cases verdict with
  | none =>
    have hsettled : (s'.updateConnection h (·.completeAuth login)).connection h =
        (s.connection h).completeAuth login := by
      rw [connection_updateConnection, hsame]
      rfl
    have hsource' : (s'.updateConnection h (·.completeAuth login)).sourceOf h = s.sourceOf h :=
      (sourceOf_updateConnection rfl).trans hsource
    have hrecord := loginRecord_congr hsource' login "Login succeeded" .success ""
    refine reached_replyToLogin hsettled hopen rfl rfl rfl rfl ?_ ?_
    · exact congrArg₂ AuditLog.record haudit hrecord
    · exact congrArg (Metrics.authenticated · true) hmetrics
  | some failure =>
    have hsettled : (s'.updateConnection h Connection.failAuth).connection h =
        (s.connection h).failAuth := by
      rw [connection_updateConnection, hsame]
      rfl
    have hsource' : (s'.updateConnection h Connection.failAuth).sourceOf h = s.sourceOf h :=
      (sourceOf_updateConnection rfl).trans hsource
    have hrecord : (s'.updateConnection h Connection.failAuth).refusalRecord h login failure =
        s.refusalRecord h login failure := by
      rw [refusalRecord, hsource', refusalRecord]
    refine reached_replyToLogin hsettled hopen rfl rfl rfl rfl ?_ ?_
    · exact congrArg₂ AuditLog.record haudit hrecord
    · exact congrArg (Metrics.authenticated · false) hmetrics

/-- A log-in whose connection has closed ends with a record, and nothing is sent or counted. -/
theorem reached_abandonLogin (may : (s.connection h).mayBeginAuth = true)
    (awaits : Awaits h (s.attempted h login) s') (isClosed : (s'.connection h).isOpen = false)
    (verdict : Option LoginFailure) :
    (s.loginEnd h login false verdict).Reached s h p login
      (s'.abandonLogin h login verdict) := by
  have hafter : (s'.abandonLogin h login verdict).2.connection h =
      (s'.connection h).failAuth := connection_updateConnection s' h _
  have hsource : (s'.updateConnection h Connection.failAuth).sourceOf h = s.sourceOf h :=
    (sourceOf_updateConnection rfl).trans (sourceOf_of_awaits may awaits)
  have haudit := audit_of_awaits may awaits
  have hrecord := loginRecord_congr hsource login "Connection closed during authentication" .warning
    ((verdict.map LoginFailure.reason).getD "credentials accepted")
  refine ⟨rfl, ?_, ?_, ?_, ?_, awaits.metrics⟩
  · rw [hafter]
    rfl
  · rw [hafter]
    exact isClosed
  · -- What was queued has been dropped if the connection closed in between.
    have hqueue : (s'.connection h).outbox.queue.length ≤
        (s.connection h).outbox.queue.length := by
      obtain hsame | hclosed := awaits.connection
      · rw [hsame, connection_attempted may]
      · rw [hclosed, connection_attempted may, Connection.close]
        split <;> simp
    rw [hafter]
    exact List.drop_eq_nil_of_le hqueue
  · exact congrArg₂ AuditLog.record haudit hrecord

namespace LoginOnly

/-- Leaving alone goes on. -/
theorem trans (first : LoginOnly h s s') (second : LoginOnly h s' s'') : LoginOnly h s s'' where
  others k hk := (second.others k hk).trans (first.others k hk)
  sessions := by
    rw [← first.sessions, ← second.sessions]
  rest := by
    rw [← first.rest, ← second.rest]

/-- The accounts, the records, the metrics and the log may change. -/
theorem of_eq (lobby : s'.lobby = s.lobby)
    (rest : { s' with
      lobby := s.lobby, store := s.store, audit := s.audit, metrics := s.metrics,
      log := s.log } = s) : LoginOnly h s s' where
  others k _ := by rw [connection, lobby, connection]
  sessions := by rw [lobby]
  rest := rest

/-- The connection changes. -/
theorem updateConnection (s : ServerState) (h : Handle) (change : Connection → Connection) :
    LoginOnly h s (s.updateConnection h change) where
  others _ hk := connection_updateConnection_of_ne hk s change
  sessions := rfl
  rest := rfl

/-- The connection is told how its log-in ended. -/
theorem replyToLogin (s : ServerState) (h : Handle) (p : Packet) (success : Bool) :
    LoginOnly h s (s.replyToLogin h p success) :=
  updateConnection s h _

/-- The log-in ends, one way or the other. -/
theorem concludeLogin (s : ServerState) (h : Handle) (p : Packet) (login : String)
    (verdict : Option LoginFailure) : LoginOnly h s (s.concludeLogin h p login verdict).2 := by
  cases verdict with
  | none =>
    refine trans ?_ (replyToLogin _ h p true)
    exact (updateConnection s h (·.completeAuth login)).trans (.of_eq rfl rfl)
  | some failure =>
    refine trans ?_ (replyToLogin _ h p false)
    exact (updateConnection s h Connection.failAuth).trans (.of_eq rfl rfl)

/-- The log-in is given up. -/
theorem abandonLogin (s : ServerState) (h : Handle) (login : String)
    (verdict : Option LoginFailure) : LoginOnly h s (s.abandonLogin h login verdict).2 :=
  (updateConnection s h Connection.failAuth).trans (.of_eq rfl rfl)

end LoginOnly

/-- Where nothing comes in between, the credentials of a log-in that has begun are judged as the
accounts are, and its connection is still open if it was. -/
theorem judged_of_quiet (quiet : s.disturbances = []) (may : (s.connection h).mayBeginAuth = true)
    (login password : String) :
    let judged := (s.attempted h login).judgeCredentials login password
    (judged.2.connection h).isOpen = (s.connection h).isOpen ∧
      judged.1 = s.store.failure? login password ∧ LoginOnly h s judged.2 := by
  intro judged
  have hattempted : LoginOnly h s (s.attempted h login) :=
    (LoginOnly.updateConnection s h Connection.beginAuth).trans (.of_eq rfl rfl)
  have hopen : ((s.attempted h login).connection h).isOpen = (s.connection h).isOpen := by
    rw [connection_attempted may]
  have hjudged : judged = _ :=
    judgeCredentials_of_quiet (s := s.attempted h login) quiet login password
  rw [hjudged]
  exact ⟨hopen, rfl, hattempted.trans (.of_eq rfl rfl)⟩

/-- A log-in that may begin ends in one of the ways that `loginEnd` lists. -/
theorem reached_authenticate {request : LoginRequest}
    (parsed : LoginRequest.parse p.body = .ok request)
    (may : (s.connection h).mayBeginAuth = true) :
    let judged := (s.attempted h request.login).judgeCredentials request.login request.password
    let stillOpen := (judged.2.connection h).isOpen
    (s.loginEnd h request.login stillOpen judged.1).Reached s h p request.login
        (s.authenticate h p) ∧
      (stillOpen = true → (s.connection h).isOpen = true) ∧
      (s.disturbances = [] → stillOpen = (s.connection h).isOpen ∧
        judged.1 = s.store.failure? request.login request.password ∧
        LoginOnly h s (s.authenticate h p).2) := by
  obtain ⟨login, password⟩ := request
  intro judged stillOpen
  have hawaits : Awaits h (s.attempted h login) judged.2 := .judgeCredentials _ h login password
  have hquiet := fun quiet => judged_of_quiet (h := h) quiet may login password
  change s.disturbances = [] → stillOpen = _ ∧ judged.1 = _ ∧ LoginOnly h s judged.2 at hquiet
  have hresult : s.authenticate h p =
      if stillOpen then judged.2.concludeLogin h p login judged.1
      else judged.2.abandonLogin h login judged.1 := authenticate_of_may parsed may
  rw [hresult]
  cases hopen : stillOpen with
  | true =>
    refine ⟨reached_concludeLogin may hawaits hopen judged.1,
      fun _ => (connection_of_awaits may hawaits hopen).2, fun quiet => ?_⟩
    obtain ⟨hsame, hverdict, honly⟩ := hquiet quiet
    exact ⟨hopen.symm.trans hsame, hverdict, honly.trans (.concludeLogin _ h p login _)⟩
  | false =>
    refine ⟨reached_abandonLogin may hawaits hopen judged.1, by simp, fun quiet => ?_⟩
    obtain ⟨hsame, hverdict, honly⟩ := hquiet quiet
    exact ⟨hopen.symm.trans hsame, hverdict, honly.trans (.abandonLogin _ h login _)⟩

end PlayServer.ServerState
