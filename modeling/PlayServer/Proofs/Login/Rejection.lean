import PlayServer.Proofs.Login.Attempt
import PlayServer.Proofs.Server.Run

/-!
# Refused log-ins

A log-in that is refused leaves its connection as `Connection.refused` says, which asks neither for
the accounts nor for the reason: `connection_of_rejected`. So two refusals cannot be told apart by
the clients that get them, whatever the accounts of the two servers are, and whatever comes in
between while they are asked: `rejections_alike`.
-/

namespace PlayServer

namespace Connection

/-- Whether an open connection queues what is sent: a writer has it in hand, or one can be run. -/
def takes (c : Connection) : Bool := c.outbox.writing || c.hasWriter

/-- A connection whose log-in has been refused, and which is told so. -/
def refused (c : Connection) (reply : Packet) : Connection := (c.failAuth.send reply).2

/-- What sending a packet queues to an open connection: the packet, if the connection takes it. -/
theorem queue_send {c : Connection} (isOpen : c.isOpen = true) {p : Packet} (limit : p.InLimit) :
    (c.send p).2.outbox.queue.drop c.outbox.queue.length =
      if c.takes then [p.encode] else [] := by
  rw [send, if_neg (Nat.not_lt_of_le limit)]
  unfold sendBytes takes
  cases hwriting : c.outbox.writing
  · cases hwriter : c.hasWriter
    · simp [isOpen]
    · simp [isOpen]
  · simp [isOpen]

end Connection

namespace ServerState

/-- The answer to a log-in that is refused. -/
def refusalReply (request : Packet) : Packet :=
  request.reply Method.loginResponse (loginReplyBody false)

/-- A log-in whose credentials are judged bad leaves its connection refused, whatever is bad. -/
theorem connection_concludeLogin {s : ServerState} {h : Handle} {p : Packet} {login : String}
    {verdict : Option LoginFailure} {failure : LoginFailure}
    (rejected : (s.concludeLogin h p login verdict).1 = .rejected failure) :
    (s.concludeLogin h p login verdict).2.connection h =
      (s.connection h).refused (refusalReply p) := by
  cases verdict with
  | none => cases rejected
  | some reason =>
    have hfailed : (s.updateConnection h Connection.failAuth).connection h =
        (s.connection h).failAuth := connection_updateConnection s h _
    rw [Connection.refused, ← hfailed]
    exact connection_updateConnection _ h _

/-- A log-in that is refused, for whatever reason, leaves its connection refused. The connection was
open, and is told nothing but that the log-in has failed. -/
theorem connection_of_rejected {s : ServerState} {h : Handle} {p : Packet} {failure : LoginFailure}
    (rejected : (s.authenticate h p).1 = .rejected failure) :
    (s.connection h).isOpen = true ∧
      (s.authenticate h p).2.connection h = (s.connection h).refused (refusalReply p) := by
  cases hparse : LoginRequest.parse p.body with
  | error e =>
    rw [authenticate_of_error hparse] at rejected
    cases rejected
  | ok request =>
    cases hmay : (s.connection h).mayBeginAuth with
    | false =>
      rw [authenticate_of_busy hparse hmay] at rejected
      cases rejected
    | true =>
      have hawaits := Awaits.judgeCredentials (s.attempted h request.login) h request.login
        request.password
      rw [authenticate_of_may hparse hmay] at rejected ⊢
      dsimp only at rejected ⊢
      split at rejected
      next hopen =>
        obtain ⟨hsame, hopen'⟩ := connection_of_awaits hmay hawaits hopen
        refine ⟨hopen', ?_⟩
        rw [if_pos hopen, connection_concludeLogin rejected, hsame]
        rfl
      · cases rejected

/-- A packet that asks to log in. -/
structure AsksToLogIn (p : Packet) : Prop where
  service : p.service = Service.authentication
  method : p.method = Method.loginRequest

/-- A request to log in is checked, at whichever front end it comes in. -/
theorem AsksToLogIn.step_eq {p : Packet} (asks : AsksToLogIn p) (s : ServerState) (front : Front)
    (h : Handle) : s.step (.packet front h p) = (s.authenticate h p).2 := by
  have hroute : s.routeOf h p = .login := by
    rw [routeOf, Route.of, asks.service, asks.method]
    rfl
  cases front with
  | gateway => rw [step, handle, handleAtGateway, hroute, serveShared]
  | game =>
    rw [step, handle, handleAtGame, hroute]
    rfl

/-- Two requests to log in under the same correlation id are refused with the same answer. -/
theorem AsksToLogIn.refusalReply_eq {p₁ p₂ : Packet} (asks₁ : AsksToLogIn p₁)
    (asks₂ : AsksToLogIn p₂) (correlation : p₁.correlation = p₂.correlation) :
    refusalReply p₁ = refusalReply p₂ := by
  rw [refusalReply, refusalReply, Packet.reply, Packet.reply, asks₁.service, asks₂.service,
    correlation]

/-- What a refused log-in queues, and how it leaves the connection. -/
theorem queuedBy_of_rejected {s : ServerState} {h : Handle} {p : Packet} {failure : LoginFailure}
    (asks : AsksToLogIn p) (rejected : (s.authenticate h p).1 = .rejected failure) (front : Front) :
    let c := s.connection h
    let c' := (s.step (.packet front h p)).connection h
    c' = c.refused (refusalReply p) ∧
      s.queuedBy (.packet front h p) h =
        (if c.takes then [(refusalReply p).encode] else []) ∧
      c'.loginState = (.failed, none) ∧ c'.isOpen = true ∧ c'.session = c.session := by
  intro c c'
  obtain ⟨hopen, hrefused⟩ := connection_of_rejected rejected
  have hafter : c' = c.refused (refusalReply p) := by
    change (s.step (.packet front h p)).connection h = _
    rw [asks.step_eq]
    exact hrefused
  have hstanding := c.failAuth.sameStanding_send (refusalReply p)
  refine ⟨hafter, ?_, ?_, ?_, ?_⟩
  · have hlimit : (refusalReply p).InLimit := by
      change 2 ≤ maxBodySize
      decide
    change c'.outbox.queue.drop c.outbox.queue.length = _
    rw [hafter]
    exact Connection.queue_send (c := c.failAuth) hopen hlimit
  · rw [hafter]
    exact hstanding.loginState
  · rw [hafter, Connection.refused, Connection.isOpen_send]
    exact hopen
  · rw [hafter]
    exact hstanding.session

/-- Log-ins that are refused cannot be told apart by the clients that are refused. Of two servers,
whatever accounts they have, whatever comes in between while these are asked, and for whatever
reasons they refuse: over connections that both take packets, or neither, and under one correlation
id, the same is queued to both clients. Both connections end without a log-in, open, and with the
sessions that they named; and if they were the same before, they are the same. -/
theorem rejections_alike {s₁ s₂ : ServerState} {h₁ h₂ : Handle} {p₁ p₂ : Packet}
    {failure₁ failure₂ : LoginFailure} (front₁ front₂ : Front)
    (asks₁ : AsksToLogIn p₁) (asks₂ : AsksToLogIn p₂) (correlation : p₁.correlation = p₂.correlation)
    (takes : (s₁.connection h₁).takes = (s₂.connection h₂).takes)
    (rejected₁ : (s₁.authenticate h₁ p₁).1 = .rejected failure₁)
    (rejected₂ : (s₂.authenticate h₂ p₂).1 = .rejected failure₂) :
    let c₁ := s₁.connection h₁
    let c₂ := s₂.connection h₂
    let c₁' := (s₁.step (.packet front₁ h₁ p₁)).connection h₁
    let c₂' := (s₂.step (.packet front₂ h₂ p₂)).connection h₂
    s₁.queuedBy (.packet front₁ h₁ p₁) h₁ = s₂.queuedBy (.packet front₂ h₂ p₂) h₂ ∧
      (c₁'.loginState = (.failed, none) ∧ c₁'.isOpen = true ∧ c₁'.session = c₁.session) ∧
      (c₂'.loginState = (.failed, none) ∧ c₂'.isOpen = true ∧ c₂'.session = c₂.session) ∧
      (c₁ = c₂ → c₁' = c₂') := by
  intro c₁ c₂ c₁' c₂'
  obtain ⟨hafter₁, hqueued₁, hends₁⟩ := queuedBy_of_rejected asks₁ rejected₁ front₁
  obtain ⟨hafter₂, hqueued₂, hends₂⟩ := queuedBy_of_rejected asks₂ rejected₂ front₂
  have hreply := asks₁.refusalReply_eq asks₂ correlation
  refine ⟨?_, hends₁, hends₂, fun hsame => ?_⟩
  · rw [hqueued₁, hqueued₂, takes, hreply]
  · calc c₁' = c₁.refused (refusalReply p₁) := hafter₁
      _ = c₂.refused (refusalReply p₂) := by rw [hsame, hreply]
      _ = c₂' := hafter₂.symm

/-- A server with a client that has not logged in. -/
def stranger (store : AccountStore) : ServerState where
  lobby := .new 4 16 { opened := [{ id := ⟨1⟩, address := default }] }
  store
  gateway := { maxPerAddress := 8 }
  game := { maxPerAddress := 8 }

/-- An account store in which one account is banned. -/
def bannedAccount : AccountStore :=
  { AccountStore.empty with
    accounts :=
      [{ id := 1
         login := "alice"
         email := ""
         credential := ⟨2, .replicate 16 0, .replicate 32 0, by decide⟩
         banned := true }] }

/-- A request to log in. -/
def knock (login password : String) : Packet :=
  ⟨Service.authentication, Method.loginRequest, 9, (LoginRequest.mk login password).encode⟩

/-- Whether there is no such account or it is banned, the client is told the same. -/
theorem rejections_alike_unknown_banned :
    ((stranger .empty).authenticate 0 (knock "bob" "pw")).1 = .rejected .unknownAccount ∧
      ((stranger bannedAccount).authenticate 0 (knock "alice" "sesame")).1 = .rejected .banned ∧
      (stranger .empty).queuedBy (.packet .gateway 0 (knock "bob" "pw")) 0 =
        (stranger bannedAccount).queuedBy (.packet .gateway 0 (knock "alice" "sesame")) 0 := by
  have hunknown : ((stranger .empty).authenticate 0 (knock "bob" "pw")).1 =
      .rejected .unknownAccount := by decide +kernel
  have hbanned : ((stranger bannedAccount).authenticate 0 (knock "alice" "sesame")).1 =
      .rejected .banned := by decide +kernel
  have htakes : ((stranger .empty).connection 0).takes =
      ((stranger bannedAccount).connection 0).takes := rfl
  have hasks (login password : String) : AsksToLogIn (knock login password) := ⟨rfl, rfl⟩
  obtain ⟨hqueued, -⟩ := rejections_alike .gateway .gateway (hasks "bob" "pw")
    (hasks "alice" "sesame") rfl htakes hunknown hbanned
  exact ⟨hunknown, hbanned, hqueued⟩

end ServerState

end PlayServer
