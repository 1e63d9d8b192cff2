import PlayServer.Login.Request
import PlayServer.Server.State

/-!
# The log-in check

A log-in request is parsed, begins a log-in unless one is under way or done, and is then checked
against the store: the account exists, is not banned, and has this password; last the log-in is
stamped. The first check that fails decides, and a store that fails counts against the client.

Whatever the reason of a refusal, the client is told the same. A connection that has closed while
the store was asked is told nothing.
-/

namespace PlayServer

/-- Why a log-in is refused. -/
inductive LoginFailure where
  | unknownAccount
  | banned
  | badPassword
  | storeUnavailable
  deriving DecidableEq, Repr, Inhabited

namespace LoginFailure

/-- The name of a failure. -/
def name : LoginFailure → String
  | unknownAccount => "UnknownAccount"
  | banned => "Banned"
  | badPassword => "BadPassword"
  | storeUnavailable => "StoreUnavailable"

/-- The reason that audit records give. -/
def reason : LoginFailure → String
  | unknownAccount => "unknown account"
  | banned => "account banned"
  | badPassword => "invalid password"
  | storeUnavailable => "account store unavailable"

end LoginFailure

/-- What a log-in request came to. -/
inductive LoginOutcome where
  | authenticated (login : String)
  | rejected (failure : LoginFailure)
  /-- The body is no request. -/
  | malformed
  /-- A log-in is under way or done already. -/
  | ignored
  /-- The connection closed while the check was made. -/
  | disconnected
  deriving DecidableEq, Repr, Inhabited

/-- The text of an outcome. -/
def LoginOutcome.print : LoginOutcome → String
  | authenticated login => "Authenticated(" ++ Text.quote login ++ ")"
  | rejected failure => "Rejected(" ++ failure.name ++ ")"
  | malformed => "Malformed"
  | ignored => "Ignored"
  | disconnected => "Disconnected"

namespace ServerState

/-- Checks credentials against the store: none for good ones. A log-in that passes is stamped. -/
def checkCredentials (s : ServerState) (login password : String) :
    Except StoreError (Option LoginFailure) × ServerState :=
  match s.hasAccount login with
  | (.error e, s) => (.error e, s)
  | (.ok false, s) => (.ok (some .unknownAccount), s)
  | (.ok true, s) =>
    match s.isBanned login with
    | (.error e, s) => (.error e, s)
    | (.ok true, s) => (.ok (some .banned), s)
    | (.ok false, s) =>
      match s.verify login password with
      | (.error e, s) => (.error e, s)
      | (.ok false, s) => (.ok (some .badPassword), s)
      | (.ok true, s) =>
        match s.touchLastLogin login with
        | (.error e, s) => (.error e, s)
        | (.ok false, s) => (.ok (some .unknownAccount), s)
        | (.ok true, s) => (.ok none, s)

/-- Checks credentials; a store that fails is logged and counts as a failure of the check. -/
def judgeCredentials (s : ServerState) (login password : String) :
    Option LoginFailure × ServerState :=
  match s.checkCredentials login password with
  | (.ok verdict, s) => (verdict, s)
  | (.error e, s) =>
    (some .storeUnavailable, s.logError ("Account store error: " ++ e.message))

/-- An audit record about a log-in on a connection. -/
def loginRecord (s : ServerState) (h : Handle) (actor description : String)
    (outcome : AuditOutcome) (details : String) : AuditRecord where
  actor
  source := s.sourceOf h
  category := .authentication
  description
  outcome
  details

/-- The audit record of a refused log-in. A login that is not known does not count as who acted,
and a banned account is a matter of security. -/
def refusalRecord (s : ServerState) (h : Handle) (login : String) (failure : LoginFailure) :
    AuditRecord where
  actor := if failure = .unknownAccount then AuditRecord.unknownActor else login
  source := s.sourceOf h
  category := if failure = .banned then .security else .authentication
  description := "Login failed"
  outcome := if failure = .banned then .unauthorized else .failure
  details := failure.reason ++ s!" (login '{login}')"

/-- Answers a log-in request. -/
def replyToLogin (s : ServerState) (h : Handle) (request : Packet) (success : Bool) :
    ServerState :=
  s.send h (request.reply Method.loginResponse (loginReplyBody success))

/-- Ends a log-in whose credentials have been judged. -/
def concludeLogin (s : ServerState) (h : Handle) (request : Packet) (login : String) :
    Option LoginFailure → LoginOutcome × ServerState
  | none =>
    let s := s.updateConnection h (·.completeAuth login)
    let s := { s with metrics := s.metrics.authenticated true }
    let s := s.record (s.loginRecord h login "Login succeeded" .success "")
    (.authenticated login, s.replyToLogin h request true)
  | some failure =>
    let s := s.updateConnection h Connection.failAuth
    let s := { s with metrics := s.metrics.authenticated false }
    let s := s.record (s.refusalRecord h login failure)
    (.rejected failure, s.replyToLogin h request false)

/-- Gives up a log-in whose connection has closed. -/
def abandonLogin (s : ServerState) (h : Handle) (login : String) (verdict : Option LoginFailure) :
    LoginOutcome × ServerState :=
  let s := s.updateConnection h Connection.failAuth
  let details := (verdict.map LoginFailure.reason).getD "credentials accepted"
  (.disconnected,
    s.record (s.loginRecord h login "Connection closed during authentication" .warning details))

/-- Handles a log-in request. -/
def authenticate (s : ServerState) (h : Handle) (p : Packet) : LoginOutcome × ServerState :=
  match LoginRequest.parse p.body with
  | .error e =>
    let s := s.warn ("Malformed auth request: " ++ e.message)
    (.malformed,
      s.record (s.loginRecord h AuditRecord.unknownActor "Malformed authentication request" .warning
        e.message))
  | .ok request =>
    if !(s.connection h).mayBeginAuth then (.ignored, s)
    else
      let s := s.updateConnection h Connection.beginAuth
      let s := s.record (s.loginRecord h request.login "Authentication attempt" .success "")
      let (verdict, s) := s.judgeCredentials request.login request.password
      if (s.connection h).isOpen then s.concludeLogin h p request.login verdict
      else s.abandonLogin h request.login verdict

end ServerState

end PlayServer
