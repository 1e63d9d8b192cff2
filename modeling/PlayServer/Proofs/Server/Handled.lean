import PlayServer.Proofs.Connection.Account
import PlayServer.Proofs.Server.Consistency

/-!
# What handling leaves to the writers

Whatever a server handles, it only queues payloads and closes connections. The lines take nothing
meanwhile, and no traffic is counted: `Handles`. This holds for every packet, for every event but a
run of the writers, and whatever comes in between while the store is asked.
-/

namespace PlayServer

/-- The counts of what has gone over all connections: of packets and bytes sent, and of packets and
bytes received. -/
def Metrics.traffic (m : Metrics) : UInt64 × UInt64 × UInt64 × UInt64 :=
  (m.packetsSent, m.bytesSent, m.packetsReceived, m.bytesReceived)

/-- A connection that changes its place is handled. -/
theorem Connection.Reseated.handled {c c' : Connection} (h : c.Reseated c') : c.Handled c' := by
  rw [h]
  exact .of_standing c.auth c.login c'.session

/-- Sending to members is handling. -/
theorem Session.handled_sendEach (cs : Connections) (payload : Bytes) (ms : List Member)
    (k : Handle) : (cs.get k).Handled ((sendEach cs payload ms).2.get k) :=
  sendEach_keeps .refl .trans .sendBytes cs payload ms k

namespace ServerState

/-- All connections are as after something was handled, and no traffic has been counted. -/
structure Handles (s s' : ServerState) : Prop where
  connections : ∀ k, (s.connection k).Handled (s'.connection k)
  traffic : s'.metrics.traffic = s.metrics.traffic

namespace Handles

variable {s s' s'' : ServerState}

/-- Nothing has been handled. -/
theorem refl (s : ServerState) : s.Handles s := ⟨fun k => .refl (s.connection k), rfl⟩

/-- One thing is handled after the other. -/
theorem trans (h : s.Handles s') (h' : s'.Handles s'') : s.Handles s'' :=
  ⟨fun k => (h.connections k).trans (h'.connections k), h'.traffic.trans h.traffic⟩

/-- Records, the log, registries, accounts and other counts may change. -/
theorem of_eq (lobby : s'.lobby = s.lobby) (traffic : s'.metrics.traffic = s.metrics.traffic) :
    s.Handles s' := by
  refine ⟨fun k => ?_, traffic⟩
  rw [connection, connection, lobby]
  exact .refl _

/-- Connections change places. -/
theorem of_reseated {lobby : Lobby} (h : s.lobby.connections.Reseated lobby.connections) :
    s.Handles { s with lobby } :=
  ⟨fun k => (h k).handled, rfl⟩

/-- The connections stay as they are. -/
theorem of_connections {lobby : Lobby} (h : lobby.connections = s.lobby.connections) :
    s.Handles { s with lobby } :=
  of_reseated (h ▸ .refl _)

/-- One connection is handled. -/
theorem updateConnection {h : Handle} {change : Connection → Connection}
    (handled : (s.connection h).Handled (change (s.connection h))) :
    s.Handles (s.updateConnection h change) := by
  refine ⟨fun k => ?_, rfl⟩
  rw [connection_updateConnection_eq]
  split
  next hk => exact hk ▸ handled
  · exact .refl _

/-- A packet is sent. -/
theorem send (s : ServerState) (h : Handle) (p : Packet) : s.Handles (s.send h p) :=
  updateConnection (.send _ p)

/-- A connection closes. -/
theorem close (s : ServerState) (h : Handle) : s.Handles (s.close h) :=
  updateConnection (.close _)

/-- The members of a session but one are notified. -/
theorem notify (s : ServerState) (session : SessionId) (p : Packet)
    (excluding : Option ConnectionId) : s.Handles (s.notify session p excluding) := by
  unfold ServerState.notify Lobby.broadcast
  split
  · exact .refl s
  next found =>
  rw [Lobby.broadcastReferred, Lobby.referred?_of_session? found]
  exact ⟨fun k => Session.handled_sendEach _ _ _ k, rfl⟩

/-- A departure is announced. -/
theorem announceDeparture (s : ServerState) (d : Departure) : s.Handles (s.announceDeparture d) :=
  notify s _ _ _

/-- The store is called. -/
theorem callStore {α : Type} (h : s.Handles s') (call : StoreCall) (override : Bool → Option α)
    (run : AccountStore → Except StoreError α × AccountStore) :
    s.Handles (s'.callStore call override run).2 :=
  callStore_keeps (fun s₁ k h₁ => h₁.trans (close s₁ k))
    (fun _ _ _ h₁ => h₁.trans (.of_eq rfl rfl)) h call override run

end Handles

section Login

variable (s : ServerState) (h : Handle) (p : Packet)

/-- A connection begins a log-in, or ends one. -/
theorem handles_login {change : Connection → Connection}
    (login : ∃ auth name, change (s.connection h) = { s.connection h with auth, login := name }) :
    s.Handles (s.updateConnection h change) := by
  obtain ⟨auth, name, hchange⟩ := login
  apply Handles.updateConnection
  rw [hchange]
  exact .of_standing auth name (s.connection h).session

/-- A log-in that is concluded is answered. -/
theorem handles_concludeLogin (login : String) (verdict : Option LoginFailure) :
    s.Handles (s.concludeLogin h p login verdict).2 := by
  cases verdict with
  | none =>
    have hended : s.Handles (s.updateConnection h (·.completeAuth login)) :=
      s.handles_login h ⟨.authenticated, some login, rfl⟩
    refine Handles.trans ?_ (.send _ h _)
    exact hended.trans (.of_eq rfl rfl)
  | some failure =>
    have hended : s.Handles (s.updateConnection h Connection.failAuth) :=
      s.handles_login h ⟨.failed, none, rfl⟩
    refine Handles.trans ?_ (.send _ h _)
    exact hended.trans (.of_eq rfl rfl)

/-- A log-in that is given up is not answered. -/
theorem handles_abandonLogin (login : String) (verdict : Option LoginFailure) :
    s.Handles (s.abandonLogin h login verdict).2 := by
  have hended : s.Handles (s.updateConnection h Connection.failAuth) :=
    s.handles_login h ⟨.failed, none, rfl⟩
  exact hended.trans (.of_eq rfl rfl)

/-- A log-in request is handled. -/
theorem handles_authenticate : s.Handles (s.authenticate h p).2 := by
  unfold authenticate
  split
  · exact .of_eq rfl rfl
  split
  · exact .refl s
  next request _ hmay =>
  have hmay : (s.connection h).mayBeginAuth = true := by simpa using hmay
  dsimp only
  have hbegun : s.Handles (s.updateConnection h Connection.beginAuth) :=
    s.handles_login h ⟨.inProgress, (s.connection h).login, by
      rw [Connection.beginAuth, if_pos hmay]⟩
  generalize hs₁ : (s.updateConnection h Connection.beginAuth).record _ = s₁
  have hattempted : s.Handles s₁ := hs₁ ▸ hbegun.trans (.of_eq rfl rfl)
  have hjudged : s.Handles (s₁.judgeCredentials request.login request.password).2 :=
    judgeCredentials_keeps (motive := s.Handles)
      (fun _ call override run h₁ => h₁.callStore call override run)
      (fun _ _ h₁ => h₁.trans (.of_eq rfl rfl)) hattempted _ _
  generalize s₁.judgeCredentials request.login request.password = judged at hjudged ⊢
  obtain ⟨verdict, s₂⟩ := judged
  dsimp only
  split
  · exact hjudged.trans (s₂.handles_concludeLogin h p _ verdict)
  · exact hjudged.trans (s₂.handles_abandonLogin h _ verdict)

/-- A packet on a route that both front ends share is handled. -/
theorem handles_serveShared (route : Route) : s.Handles (s.serveShared h p route) := by
  cases route with
  | challenge => exact .send s h _
  | login => exact s.handles_authenticate h p
  | ping => exact .send s h _
  | refused =>
    have hrecorded : s.Handles (((s.warn "Unauthenticated request, disconnecting")).record
        { actor := AuditRecord.unknownActor
          source := s.sourceOf h
          category := .security
          description := "Request before authentication"
          outcome := .unauthorized
          details := packetDetails p }) := .of_eq rfl rfl
    exact hrecorded.trans (.close _ h)
  | unknown => exact .refl s
  | forwarded => exact .refl s

end Login

section Requests

variable (s : ServerState) (h : Handle) (p : Packet)

/-- Characters are listed. -/
theorem handles_listCharacters : s.Handles (s.listCharacters h p) := by
  unfold listCharacters
  split
  · exact .refl s
  next login _ =>
  have hasked : s.Handles (s.charactersOf login).2 := (Handles.refl s).callStore _ _ _
  generalize s.charactersOf login = asked at hasked ⊢
  obtain ⟨e | characters, s'⟩ := asked
  · have hlogged : s.Handles (s'.logError ("Character lookup failed: " ++ e.message)) :=
      hasked.trans (.of_eq rfl rfl)
    dsimp only
    split
    · exact hlogged.trans (.send _ h _)
    · exact hlogged
  · dsimp only
    split
    · exact hasked.trans (.send _ h _)
    · exact hasked

/-- Requests about sessions are handled. -/
theorem handles_requests : KeptByRequests s.Handles where
  send _ h p handled := handled.trans (.send _ h p)
  notify _ session p excluding handled := handled.trans (.notify _ session p excluding)
  move _ _ reseated handled := handled.trans (.of_reseated reseated)
  note _ _ _ handled := handled.trans (.of_eq rfl rfl)

/-- A request to the game service is served. -/
theorem handles_serveRequest (request : GameRequest) : s.Handles (s.serveRequest h p request) := by
  by_cases hlist : request = .characterList
  · subst hlist
    exact s.handles_listCharacters h p
  · exact s.handles_requests.serveRequest h p (.refl s) hlist

/-- A packet that comes in at a front end is handled. -/
theorem handles_handle (front : Front) : s.Handles (s.handle front h p) := by
  cases front with
  | gateway => exact s.handles_serveShared h p _
  | game =>
    unfold handle handleAtGame
    dsimp only
    split
    · split
      · unfold handlePlay
        split
        · exact .of_eq rfl rfl
        · exact .refl s
        next request _ => exact s.handles_serveRequest h p request
      · exact .refl s
    · exact s.handles_serveShared h p _

end Requests

section Events

variable (s : ServerState)

/-- What a front end does once the reading of a connection has ended is handling. -/
theorem handles_onDisconnect (front : Front) (h : Handle) : s.Handles (s.onDisconnect front h) := by
  cases front with
  | gateway => exact .refl s
  | game =>
    have hleft := Handles.of_reseated (s.lobby.reseated_leave h)
    unfold onDisconnect leaveOnDisconnect
    dsimp only
    split
    · exact .refl s
    split
    next departure lobby heq =>
      rw [heq] at hleft
      exact (hleft.trans (.announceDeparture _ departure)).trans (.of_eq rfl rfl)
    next e lobby heq =>
      rw [heq] at hleft
      exact hleft

/-- The end of a service is handling: registries and counts are not looked at. -/
theorem handles_retire (front home : Front) (h : Handle) : s.Handles (s.retire front home h).2 := by
  refine (s.handles_onDisconnect front h).trans (.of_eq ?_ ?_) <;> cases home <;> rfl

/-- Departures are announced. -/
theorem handles_announceDepartures (departures : List Departure) :
    s.Handles (departures.foldl announceDeparture s) := by
  induction departures generalizing s with
  | nil => exact .refl s
  | cons d rest ih => exact (Handles.announceDeparture s d).trans (ih _)

/-- Time passes in the sessions. -/
theorem handles_tick (delta : Duration) : s.Handles (s.tick delta).2 := by
  have hticked := Handles.of_reseated (s.lobby.reseated_tickAll delta)
  unfold tick
  split
  next e lobby heq =>
    rw [heq] at hticked
    exact hticked
  next departures lobby heq =>
    rw [heq] at hticked
    refine Handles.trans ?_ (handles_announceDepartures _ departures)
    exact hticked.trans (.of_eq rfl rfl)

/-- Every event but a run of the writers is handled. -/
theorem handles_step {e : Event} (working : e ≠ .settle) : s.Handles (s.step e) := by
  cases e with
  | packet front h p => exact s.handles_handle h p front
  | close h => exact .close s h
  | disconnect front h => exact s.handles_onDisconnect front h
  | tick delta => exact s.handles_tick delta
  | sweep =>
    have hswept : s.Handles { s with lobby := s.lobby.sweepEmpty.2 } := .of_connections rfl
    exact hswept.trans (.of_eq rfl rfl)
  | settle => exact absurd rfl working
  | createAccount login email password salt => exact .of_eq rfl rfl
  | setBanned login banned => exact .of_eq rfl rfl
  | addCharacter login name classId level => exact .of_eq rfl rfl
  | setAvailable available => exact .of_eq rfl rfl
  | announce call d _ => exact .of_eq rfl rfl
  | reorder sessions => exact .of_connections (connections_reorder s.lobby sessions)
  | reorderMembers id members =>
    exact .of_connections (connections_reorderMembers s.lobby id members)

end Events

end ServerState

end PlayServer
