import PlayServer.Proofs.Account.Stamp
import PlayServer.Proofs.Lobby.Agreement
import PlayServer.Proofs.Server.Post
import PlayServer.Proofs.Server.Run

/-!
# Servers that agree but for one connection

Two servers agree but for a connection if their lobbies do, their stores are the same but for stamps
of log-ins, and the same is going to come in between. Audit records, metrics, the log, the
registries and the clock of the scheduler are not compared.

Nothing that another connection asks for tells the two servers apart, and neither does anything that
happens by itself: an event that is no packet of the connection keeps them in agreement
(`SameBut.step`).
-/

namespace PlayServer.ServerState

/-- What is compared of a server. -/
def compared (s : ServerState) : Lobby × AccountStore × List (StoreCall × Disturbance) :=
  (s.lobby, s.store, s.disturbances)

/-- Running a writer changes what is compared in the connection alone. -/
theorem compared_runWriter (s : ServerState) (h : Handle) :
    (s.runWriter h).compared =
      (s.updateConnection h fun _ => (s.connection h).runWriter.connection).compared := by
  obtain ⟨hlobby, hstore, hdisturbances⟩ := s.frame_runWriter h
  exact Prod.ext hlobby (Prod.ext hstore hdisturbances)

/-- Two servers agree but for a connection that is a member of no session in either. -/
structure SameBut (u : Handle) (s t : ServerState) : Prop where
  lobby : s.lobby.Agree u t.lobby
  outside : s.lobby.Outside u
  outside' : t.lobby.Outside u
  store : t.store.unstamped = s.store.unstamped
  disturbances : t.disturbances = s.disturbances

/-- Two operations had the same result, and the servers agree but for a connection. -/
structure Alike {α : Type} (u : Handle) (x y : α × ServerState) : Prop where
  result : y.1 = x.1
  state : x.2.SameBut u y.2

/-- Two operations that went alike gave the same result and servers that agree. -/
theorem Alike.exists_eq {α : Type} {u : Handle} {x y : α × ServerState} (h : Alike u x y) :
    ∃ result s t, x = (result, s) ∧ y = (result, t) ∧ s.SameBut u t :=
  ⟨x.1, x.2, y.2, rfl, Prod.ext h.result rfl, h.state⟩

namespace SameBut

variable {u k : Handle} {s t : ServerState}

/-- Agreement is mutual. -/
theorem symm (h : s.SameBut u t) : t.SameBut u s :=
  ⟨h.lobby.symm, h.outside', h.outside, h.store.symm, h.disturbances.symm⟩

/-- Agreement goes on. -/
theorem trans {r : ServerState} (h : s.SameBut u t) (h' : t.SameBut u r) : s.SameBut u r :=
  ⟨h.lobby.trans h'.lobby, h.outside, h'.outside', h'.store.trans h.store,
    h'.disturbances.trans h.disturbances⟩

/-- The other connections are the same. -/
theorem connection (h : s.SameBut u t) (other : k ≠ u) : t.connection k = s.connection k :=
  h.lobby.connection other

/-- What is not compared may change. -/
theorem of_eq {s' t' : ServerState} (h : s.SameBut u t) (hs : s'.compared = s.compared)
    (ht : t'.compared = t.compared) : s'.SameBut u t' := by
  simp only [compared, Prod.mk.injEq] at hs ht
  obtain ⟨hlobby, hstore, hdisturbances⟩ := hs
  obtain ⟨hlobby', hstore', hdisturbances'⟩ := ht
  exact
    { lobby := by rw [hlobby, hlobby']; exact h.lobby
      outside := hlobby ▸ h.outside
      outside' := hlobby' ▸ h.outside'
      store := by rw [hstore, hstore', h.store]
      disturbances := by rw [hdisturbances, hdisturbances', h.disturbances] }

/-- The stores may be replaced by others that are the same but for stamps. -/
theorem with_store (h : s.SameBut u t) {a b : AccountStore} (hstore : b.unstamped = a.unstamped) :
    ({ s with store := a } : ServerState).SameBut u { t with store := b } :=
  ⟨h.lobby, h.outside, h.outside', hstore, h.disturbances⟩

/-- The stores may be changed in the same way, if this does not depend on stamps. -/
theorem change_store (h : s.SameBut u t) (change : AccountStore → AccountStore)
    (commutes : ∀ a : AccountStore, change a.unstamped = (change a).unstamped) :
    ({ s with store := change s.store } : ServerState).SameBut u
      { t with store := change t.store } :=
  h.with_store (AccountStore.unstamped_congr h.store commutes)

/-- The lobbies may make moves that do not admit the connection, if they agree then. -/
theorem with_lobby {who : Handle → Prop} {n n' : Nat} (h : s.SameBut u t) {l m : Lobby}
    (agree : l.Agree u m) (moves : Lobby.Moves who s.lobby n l)
    (moves' : Lobby.Moves who t.lobby n' m) (other : ¬ who u) :
    ({ s with lobby := l } : ServerState).SameBut u { t with lobby := m } :=
  ⟨agree, h.outside.moves moves other, h.outside'.moves moves' other, h.store, h.disturbances⟩

/-- The lobbies may do so by operations that go alike. -/
theorem operate {α : Type} {who : Handle → Prop} {n n' : Nat} (h : s.SameBut u t)
    {x y : α × Lobby} (alike : Lobby.Alike u x y) (moves : Lobby.Moves who s.lobby n x.2)
    (moves' : Lobby.Moves who t.lobby n' y.2) (other : ¬ who u) :
    ∃ result l m, x = (result, l) ∧ y = (result, m) ∧
      ({ s with lobby := l } : ServerState).SameBut u { t with lobby := m } :=
  ⟨x.1, x.2, y.2, rfl, Prod.ext alike.result rfl, h.with_lobby alike.lobby moves moves' other⟩

/-- Another connection may be changed in the same way. -/
theorem updateConnection (h : s.SameBut u t) (other : k ≠ u) (change : Connection → Connection) :
    (s.updateConnection k change).SameBut u (t.updateConnection k change) where
  lobby := h.lobby.updateConnection other change
  outside := h.outside.updateConnection fun he => absurd he other
  outside' := h.outside'.updateConnection fun he => absurd he other
  store := h.store
  disturbances := h.disturbances

/-- The connection itself may be changed on one side, if it goes on naming no session. -/
theorem updateConnection_left (h : s.SameBut u t) {change : Connection → Connection}
    (session : (change (s.connection u)).session = (s.connection u).session) :
    (s.updateConnection u change).SameBut u t where
  lobby := h.lobby.updateConnection_left change
  outside := h.outside.updateConnection fun _ => session.trans h.outside.free
  outside' := h.outside'
  store := h.store
  disturbances := h.disturbances

/-- Any connection may close. -/
theorem close (h : s.SameBut u t) (k : Handle) : (s.close k).SameBut u (t.close k) := by
  by_cases hk : k = u
  · subst hk
    have hleft : (s.close k).SameBut k t :=
      h.updateConnection_left (s.connection k).sameStanding_close.session
    exact (hleft.symm.updateConnection_left (t.connection k).sameStanding_close.session).symm
  · exact h.updateConnection hk _

/-- Another connection is sent the same packet. -/
theorem send (h : s.SameBut u t) (other : k ≠ u) (p : Packet) :
    (s.send k p).SameBut u (t.send k p) :=
  h.updateConnection other _

/-- The members of a session are sent the same packet. -/
theorem notify (h : s.SameBut u t) (session : SessionId) (p : Packet)
    (excluding : Option ConnectionId) :
    (s.notify session p excluding).SameBut u (t.notify session p excluding) := by
  obtain ⟨_, l, m, hl, hm, h'⟩ := h.operate (h.lobby.broadcast h.outside session p excluding)
    (s.lobby.quietMoves_broadcast session p excluding)
    (t.lobby.quietMoves_broadcast session p excluding) not_false
  unfold ServerState.notify
  rwa [hl, hm]

section Store

variable {α : Type}

/-- The store is asked alike, if it answers alike whatever the stamps. -/
theorem callStore (h : s.SameBut u t) (call : StoreCall) (override : Bool → Option α)
    {run run' : AccountStore → Except StoreError α × AccountStore}
    (answers : ∀ a b : AccountStore, b.unstamped = a.unstamped →
      (run' b).1 = (run a).1 ∧ (run' b).2.unstamped = (run a).2.unstamped) :
    Alike u (s.callStore call override run) (t.callStore call override run') := by
  have hreal {s t : ServerState} (h : s.SameBut u t) :
      Alike u ((run s.store).1, { s with store := (run s.store).2 })
        ((run' t.store).1, { t with store := (run' t.store).2 }) :=
    ⟨(answers s.store t.store h.store).1, h.with_store (answers s.store t.store h.store).2⟩
  have hbegun : ({ s with disturbances := (takeDisturbance call s.disturbances).2 }).SameBut u
      { t with disturbances := (takeDisturbance call s.disturbances).2 } :=
    ⟨h.lobby, h.outside, h.outside', h.store, rfl⟩
  unfold ServerState.callStore
  rw [h.disturbances]
  dsimp only
  split
  · exact hreal hbegun
  · next k _ => exact hreal (hbegun.close k)
  · next login _ =>
    exact hreal (hbegun.change_store (fun a => (a.setBanned login true).2) fun a =>
      congrArg Prod.snd (a.setBanned_unstamped login true))
  · exact hreal (hbegun.change_store (·.setAvailable false) fun _ => rfl)
  · split
    · exact ⟨rfl, hbegun⟩
    · exact hreal hbegun
  · exact ⟨rfl, hbegun⟩

/-- A question whose answer does not depend on stamps is answered alike. -/
theorem ask (h : s.SameBut u t) (call : StoreCall) (override : Bool → Option α)
    (question : AccountStore → Except StoreError α)
    (unstamped : ∀ a : AccountStore, question a.unstamped = question a) :
    Alike u (s.callStore call override fun store => (question store, store))
      (t.callStore call override fun store => (question store, store)) := by
  apply h.callStore
  intro a b hab
  exact ⟨by rw [← unstamped b, hab, unstamped a], hab⟩

end Store

/-- Credentials are checked alike. -/
theorem checkCredentials (h : s.SameBut u t) (login password : String) :
    Alike u (s.checkCredentials login password) (t.checkCredentials login password) := by
  unfold ServerState.checkCredentials
  obtain ⟨known, s₁, t₁, hs, ht, h₁⟩ :=
    (h.ask .hasAccount some (·.hasAccount login) fun a => a.hasAccount_unstamped login).exists_eq
  rw [ServerState.hasAccount, hs, ServerState.hasAccount, ht]
  rcases known with e | _ | _
  · exact ⟨rfl, h₁⟩
  · exact ⟨rfl, h₁⟩
  dsimp only
  obtain ⟨banned, s₂, t₂, hs, ht, h₂⟩ :=
    (h₁.ask .isBanned some (·.isBanned login) fun a => a.isBanned_unstamped login).exists_eq
  rw [ServerState.isBanned, hs, ServerState.isBanned, ht]
  rcases banned with e | _ | _
  · exact ⟨rfl, h₂⟩
  · dsimp only
    obtain ⟨right, s₃, t₃, hs, ht, h₃⟩ :=
      (h₂.ask .verify some (·.verify login password) fun a =>
        a.verify_unstamped login password).exists_eq
    rw [ServerState.verify, hs, ServerState.verify, ht]
    rcases right with e | _ | _
    · exact ⟨rfl, h₃⟩
    · exact ⟨rfl, h₃⟩
    dsimp only
    have hstamped : Alike u (s₃.touchLastLogin login) (t₃.touchLastLogin login) := by
      apply h₃.callStore
      intro a b hab
      constructor
      · rw [← b.touchLastLogin_unstamped login s₃.now t₃.now, hab,
          a.touchLastLogin_unstamped login s₃.now s₃.now]
      · rw [AccountStore.unstamped_touchLastLogin, hab, AccountStore.unstamped_touchLastLogin]
    obtain ⟨stamped, s₄, t₄, hs, ht, h₄⟩ := hstamped.exists_eq
    rw [hs, ht]
    rcases stamped with e | _ | _
    · exact ⟨rfl, h₄⟩
    · exact ⟨rfl, h₄⟩
    · exact ⟨rfl, h₄⟩
  · exact ⟨rfl, h₂⟩

/-- Credentials are judged alike. -/
theorem judgeCredentials (h : s.SameBut u t) (login password : String) :
    Alike u (s.judgeCredentials login password) (t.judgeCredentials login password) := by
  unfold ServerState.judgeCredentials
  obtain ⟨verdict, s₁, t₁, hs, ht, h₁⟩ := (h.checkCredentials login password).exists_eq
  rw [hs, ht]
  cases verdict with
  | error e => exact ⟨rfl, h₁.of_eq rfl rfl⟩
  | ok verdict => exact ⟨rfl, h₁⟩

/-- The log-in of another connection is concluded alike. -/
theorem concludeLogin (h : s.SameBut u t) (other : k ≠ u) (p : Packet) (login : String)
    (verdict : Option LoginFailure) :
    (s.concludeLogin k p login verdict).2.SameBut u (t.concludeLogin k p login verdict).2 := by
  cases verdict with
  | none =>
    apply SameBut.send _ other
    exact (h.updateConnection other (·.completeAuth login)).of_eq rfl rfl
  | some failure =>
    apply SameBut.send _ other
    exact (h.updateConnection other Connection.failAuth).of_eq rfl rfl

/-- A log-in request of another connection is handled alike. -/
theorem authenticate (h : s.SameBut u t) (other : k ≠ u) (p : Packet) :
    (s.authenticate k p).2.SameBut u (t.authenticate k p).2 := by
  unfold ServerState.authenticate
  split
  · exact h.of_eq rfl rfl
  next request _ =>
  rw [h.connection other]
  split
  · exact h
  have hbegun := h.updateConnection other Connection.beginAuth
  dsimp only
  generalize hs₁ : (s.updateConnection k Connection.beginAuth).record _ = s₁
  generalize ht₁ : (t.updateConnection k Connection.beginAuth).record _ = t₁
  have h₁ : s₁.SameBut u t₁ := by
    rw [← hs₁, ← ht₁]
    exact hbegun.of_eq rfl rfl
  obtain ⟨verdict, s₂, t₂, hs, ht, h₂⟩ :=
    (h₁.judgeCredentials request.login request.password).exists_eq
  rw [hs, ht]
  dsimp only
  rw [h₂.connection other]
  split
  · exact h₂.concludeLogin other p request.login verdict
  · exact (h₂.updateConnection other Connection.failAuth).of_eq rfl rfl

/-- A packet of another connection is served alike on the shared routes. -/
theorem serveShared (h : s.SameBut u t) (other : k ≠ u) (p : Packet) (route : Route) :
    (s.serveShared k p route).SameBut u (t.serveShared k p route) := by
  cases route with
  | challenge => exact h.send other _
  | login => exact h.authenticate other p
  | ping => exact h.send other _
  | refused =>
    apply SameBut.close
    exact h.of_eq rfl rfl
  | unknown => exact h
  | forwarded => exact h

/-- The characters of another connection are listed alike. -/
theorem listCharacters (h : s.SameBut u t) (other : k ≠ u) (p : Packet) :
    (s.listCharacters k p).SameBut u (t.listCharacters k p) := by
  unfold ServerState.listCharacters
  rw [h.connection other]
  split
  · exact h
  next login _ =>
  obtain ⟨characters, s₁, t₁, hs, ht, h₁⟩ :=
    (h.ask .characters (fun _ => none) (·.charactersOf login) fun a =>
      a.charactersOf_unstamped login).exists_eq
  rw [ServerState.charactersOf, hs, ServerState.charactersOf, ht]
  cases characters with
  | error e =>
    have hlogged : (s₁.logError ("Character lookup failed: " ++ e.message)).SameBut u
        (t₁.logError ("Character lookup failed: " ++ e.message)) :=
      h₁.of_eq rfl rfl
    dsimp only
    rw [hlogged.connection other]
    split
    · exact hlogged.send other _
    · exact hlogged
  | ok characters =>
    dsimp only
    rw [h₁.connection other]
    split
    · exact h₁.send other _
    · exact h₁

/-- A join of another connection is concluded alike. -/
theorem concludeJoin (h : s.SameBut u t) (other : k ≠ u) (p : Packet)
    (result : Except SessionError SessionSummary) :
    (s.concludeJoin k p result).SameBut u (t.concludeJoin k p result) := by
  unfold ServerState.concludeJoin
  rw [h.connection other]
  cases result with
  | ok summary => exact ((h.send other _).notify _ _ _).of_eq rfl rfl
  | error e => exact h.send other _

/-- A change of options by another connection is concluded alike. -/
theorem concludeOptions (h : s.SameBut u t) (other : k ≠ u) (p : Packet)
    (result : Except SessionError SessionSummary) :
    (s.concludeOptions k p result).SameBut u (t.concludeOptions k p result) := by
  unfold ServerState.concludeOptions
  cases result with
  | ok summary =>
    have hresponded := h.send other (p.reply Method.sessionResponse
      (SessionReply.ofSummary summary).encode)
    dsimp only [respond]
    rw [hresponded.connection other]
    exact (hresponded.notify _ _ _).of_eq rfl rfl
  | error e =>
    dsimp only
    rw [h.connection other]
    exact h.send other _

/-- Another connection creates a session alike. -/
theorem createSession (h : s.SameBut u t) (other : k ≠ u) (p : Packet)
    (options : Except SessionError SessionOptions) :
    (s.createSession k p options).SameBut u (t.createSession k p options) := by
  cases options with
  | error e => exact h.concludeJoin other p (.error e)
  | ok options =>
    obtain ⟨_, -, hmoves⟩ := s.lobby.moves_createAndJoin k options
    obtain ⟨_, -, hmoves'⟩ := t.lobby.moves_createAndJoin k options
    obtain ⟨result, l, m, hl, hm, h'⟩ :=
      h.operate (h.lobby.createAndJoin other options) hmoves hmoves' other.symm
    unfold ServerState.createSession
    dsimp only
    rw [hl, hm]
    exact h'.concludeJoin other p result

/-- Another connection joins a session alike. -/
theorem joinSession (h : s.SameBut u t) (other : k ≠ u) (p : Packet) (id : SessionId) :
    (s.joinSession k p id).SameBut u (t.joinSession k p id) := by
  obtain ⟨result, l, m, hl, hm, h'⟩ := h.operate (h.lobby.join other id)
    (s.lobby.moves_join id k) (t.lobby.moves_join id k) other.symm
  unfold ServerState.joinSession
  rw [hl, hm]
  exact h'.concludeJoin other p result

/-- Another connection joins any session alike. -/
theorem joinAnySession (h : s.SameBut u t) (other : k ≠ u) (p : Packet) :
    (s.joinAnySession k p).SameBut u (t.joinAnySession k p) := by
  obtain ⟨_, -, hmoves⟩ := s.lobby.moves_findOrCreateAndJoin k
  obtain ⟨_, -, hmoves'⟩ := t.lobby.moves_findOrCreateAndJoin k
  obtain ⟨result, l, m, hl, hm, h'⟩ :=
    h.operate (h.lobby.findOrCreateAndJoin other) hmoves hmoves' other.symm
  unfold ServerState.joinAnySession
  rw [hl, hm]
  exact h'.concludeJoin other p result

/-- Another connection leaves its session alike. -/
theorem leave (h : s.SameBut u t) (other : k ≠ u) :
    ∃ result l m, s.lobby.leave k = (result, l) ∧ t.lobby.leave k = (result, m) ∧
      ({ s with lobby := l } : ServerState).SameBut u { t with lobby := m } :=
  h.operate (h.lobby.leave h.outside other) (s.lobby.quietMoves_leave k)
    (t.lobby.quietMoves_leave k) not_false

/-- A request of another connection to leave its session is served alike. -/
theorem leaveSession (h : s.SameBut u t) (other : k ≠ u) (p : Packet) :
    (s.leaveSession k p).SameBut u (t.leaveSession k p) := by
  obtain ⟨result, l, m, hl, hm, h'⟩ := h.leave other
  unfold ServerState.leaveSession
  rw [hl, hm]
  cases result with
  | ok departure => exact ((h'.send other _).notify _ _ _).of_eq rfl rfl
  | error e => exact h'.send other _

/-- Chat of another connection is relayed alike. -/
theorem relayChat (h : s.SameBut u t) (other : k ≠ u) (p : Packet) (text : Bytes) :
    (s.relayChat k p text).SameBut u (t.relayChat k p text) := by
  unfold ServerState.relayChat
  rw [h.connection other]
  dsimp only
  split
  · exact h.send other _
  split
  · exact h.of_eq rfl rfl
  next session _ _ text _ =>
  obtain ⟨result, l, m, hl, hm, h'⟩ := h.operate
    (h.lobby.broadcast h.outside session
      (gameNotice Method.chatMessage (chatBody ((s.connection k).login.getD "") text))
      (some (s.connection k).id))
    (s.lobby.quietMoves_broadcast session _ _) (t.lobby.quietMoves_broadcast session _ _) not_false
  rw [hl, hm]
  cases result with
  | ok report => exact h'
  | error e => exact h'.send other _

/-- Another connection changes the options of its session alike. -/
theorem changeOptions (h : s.SameBut u t) (other : k ≠ u) (p : Packet)
    (options : Except SessionError SessionOptions) :
    (s.changeOptions k p options).SameBut u (t.changeOptions k p options) := by
  cases options with
  | error e => exact h.concludeOptions other p (.error e)
  | ok options =>
    obtain ⟨result, l, m, hl, hm, h'⟩ := h.operate (h.lobby.setOptions other options)
      (s.lobby.quietMoves_setOptions k options) (t.lobby.quietMoves_setOptions k options) not_false
    unfold ServerState.changeOptions
    dsimp only
    rw [hl, hm]
    exact h'.concludeOptions other p result

/-- A request of another connection to the game service is served alike. -/
theorem serveRequest (h : s.SameBut u t) (other : k ≠ u) (p : Packet) (request : GameRequest) :
    (s.serveRequest k p request).SameBut u (t.serveRequest k p request) := by
  cases request with
  | characterList => exact h.listCharacters other p
  | create options => exact h.createSession other p options
  | join id => exact h.joinSession other p id
  | joinAny => exact h.joinAnySession other p
  | leave => exact h.leaveSession other p
  | chat text => exact h.relayChat other p text
  | setOptions options => exact h.changeOptions other p options

/-- A packet of another connection is handled alike. -/
theorem handle (h : s.SameBut u t) (other : k ≠ u) (front : Front) (p : Packet) :
    (s.handle front k p).SameBut u (t.handle front k p) := by
  have hroute : t.routeOf k p = s.routeOf k p := by
    rw [routeOf, h.connection other, routeOf]
  cases front with
  | gateway =>
    unfold ServerState.handle handleAtGateway
    dsimp only
    rw [hroute]
    exact h.serveShared other p _
  | game =>
    unfold ServerState.handle handleAtGame
    dsimp only
    rw [hroute]
    split
    · split
      · unfold handlePlay
        split
        · exact h.of_eq rfl rfl
        · exact h
        · exact h.serveRequest other p _
      · exact h
    · exact h.serveShared other p _

/-- The end of a connection leads to the same; that of the connection itself leads to nothing. -/
theorem leaveOnDisconnect (h : s.SameBut u t) (k : Handle) :
    (s.leaveOnDisconnect k).SameBut u (t.leaveOnDisconnect k) := by
  unfold ServerState.leaveOnDisconnect
  by_cases hk : k = u
  · subst hk
    have hs : (s.connection k).session = none := h.outside.free
    have ht : (t.connection k).session = none := h.outside'.free
    rw [hs, ht]
    exact h
  rw [h.connection hk]
  split
  · exact h
  obtain ⟨result, l, m, hl, hm, h'⟩ := h.leave hk
  rw [hl, hm]
  cases result with
  | ok departure => exact (h'.notify _ _ _).of_eq rfl rfl
  | error e => exact h'

/-- Departures are announced alike. -/
theorem announceDepartures (h : s.SameBut u t) (departures : List Departure) :
    (departures.foldl announceDeparture s).SameBut u (departures.foldl announceDeparture t) := by
  induction departures generalizing s t with
  | nil => exact h
  | cons departure rest ih => exact ih (h.notify _ _ _)

/-- Time passes alike. -/
theorem tick (h : s.SameBut u t) (delta : Duration) :
    (s.tick delta).2.SameBut u (t.tick delta).2 := by
  obtain ⟨result, l, m, hl, hm, h'⟩ := h.operate (h.lobby.tickAll h.outside delta)
    (s.lobby.quietMoves_tickAll delta) (t.lobby.quietMoves_tickAll delta) not_false
  unfold ServerState.tick
  rw [hl, hm]
  cases result with
  | error e => exact h'
  | ok departures =>
    apply announceDepartures
    exact h'.of_eq rfl rfl

/-- The writer of another connection runs alike. -/
theorem runWriter (h : s.SameBut u t) (other : k ≠ u) :
    (s.runWriter k).SameBut u (t.runWriter k) := by
  have hright := t.compared_runWriter k
  rw [h.connection other] at hright
  exact (h.updateConnection other fun _ => (s.connection k).runWriter.connection).of_eq
    (s.compared_runWriter k) hright

/-- The writer of the connection itself may run on one side. -/
theorem runWriter_left (h : s.SameBut u t) : (s.runWriter u).SameBut u t := by
  have hrun : (s.updateConnection u fun _ => (s.connection u).runWriter.connection).SameBut u t :=
    h.updateConnection_left (s.connection u).sameStanding_runWriter.session
  exact hrun.of_eq (s.compared_runWriter u) rfl

/-- The writers of other connections run alike, whether or not that of the connection runs too. -/
theorem runWriters_filter (h : s.SameBut u t) (ks : List Handle) :
    (ks.foldl ServerState.runWriter s).SameBut u
      ((ks.filter (· != u)).foldl ServerState.runWriter t) := by
  induction ks generalizing s t with
  | nil => exact h
  | cons k rest ih =>
    by_cases hk : k = u
    · subst hk
      rw [List.filter_cons_of_neg (by simp)]
      exact ih h.runWriter_left
    · rw [List.filter_cons_of_pos (by simpa using hk)]
      exact ih (h.runWriter hk)

/-- The writers run alike. -/
theorem settle (h : s.SameBut u t) : s.settle.SameBut u t.settle := by
  have hagree : Lobby.Agree u
      { s.lobby with connections := { s.lobby.connections with started := [] } }
      { t.lobby with connections := { t.lobby.connections with started := [] } } :=
    ⟨congrArg (fun l : Lobby => { l with
      connections := { t.lobby.connections with started := [] } }) h.lobby.rest,
      h.lobby.connections.with_started []⟩
  have hmoves (l : Lobby) : l.QuietMoves { l with
      connections := { l.connections with started := [] } } := by
    have hsame : l.connections.SameStanding { l.connections with started := [] } := fun _ => .refl _
    exact .quiet (.touched hsame) rfl
  have hbegun := h.with_lobby hagree (hmoves s.lobby) (hmoves t.lobby) not_false
  have horder : (t.lobby.connections.started ++ t.lobby.connections.handles).filter (· != u) =
      (s.lobby.connections.started ++ s.lobby.connections.handles).filter (· != u) := by
    have hhandles : t.lobby.connections.handles = s.lobby.connections.handles :=
      congrArg List.range h.lobby.connections.size
    rw [List.filter_append, List.filter_append, h.lobby.connections.started, hhandles]
  have hleft := hbegun.runWriters_filter
    (s.lobby.connections.started ++ s.lobby.connections.handles)
  have hright := (hbegun.symm.trans hbegun).runWriters_filter
    (t.lobby.connections.started ++ t.lobby.connections.handles)
  rw [horder] at hright
  exact hleft.trans hright.symm

/-- An event that is no packet of the connection keeps servers in agreement. -/
theorem step (h : s.SameBut u t) {e : Event} (other : ∀ front p, e ≠ .packet front u p) :
    (s.step e).SameBut u (t.step e) := by
  cases e with
  | packet front k p =>
    have hk : k ≠ u := fun he => other front p (he ▸ rfl)
    exact h.handle hk front p
  | close k => exact h.close k
  | disconnect front k =>
    cases front with
    | gateway => exact h
    | game => exact h.leaveOnDisconnect k
  | tick delta => exact h.tick delta
  | sweep =>
    have hmoves (l : Lobby) : l.QuietMoves l.sweepEmpty.2 := .quiet .reclaimed rfl
    have hswept := h.with_lobby h.lobby.sweepEmpty (hmoves s.lobby) (hmoves t.lobby) not_false
    exact hswept.of_eq rfl rfl
  | settle => exact h.settle
  | createAccount login email password salt =>
    exact h.change_store (fun a => (a.createAccount login email password salt).2) fun a =>
      congrArg Prod.snd (a.createAccount_unstamped login email password salt)
  | setBanned login banned =>
    exact h.change_store (fun a => (a.setBanned login banned).2) fun a =>
      congrArg Prod.snd (a.setBanned_unstamped login banned)
  | addCharacter login name classId level =>
    exact h.change_store (fun a => (a.addCharacter login name classId level).2) fun a =>
      congrArg Prod.snd (a.addCharacter_unstamped login name classId level)
  | setAvailable available => exact h.change_store (·.setAvailable available) fun _ => rfl
  | announce call d _ =>
    exact ⟨h.lobby, h.outside, h.outside', h.store,
      congrArg (· ++ [(call, d)]) h.disturbances⟩
  | reorder sessions =>
    exact h.with_lobby (h.lobby.reorder sessions) (s.lobby.quietMoves_reorder sessions)
      (t.lobby.quietMoves_reorder sessions) not_false
  | reorderMembers id members =>
    exact h.with_lobby (h.lobby.reorderMembers id members)
      (s.lobby.quietMoves_reorderMembers id members)
      (t.lobby.quietMoves_reorderMembers id members) not_false

end SameBut

end PlayServer.ServerState
