import PlayServer.Proofs.Account.Decline
import PlayServer.Proofs.Lobby.Run
import PlayServer.Server.Serve

/-!
# Effects of serving

Whatever a server does but log somebody in has an effect of one kind: the lobby makes moves, which
admit at most the connection that is served, and the store declines. Nobody logs in or out by it.

What comes in between while a request waits for the store is limited to what can come in between:
`Disturbance.isGenuine` leaves out answers that the store itself did not give.
-/

namespace PlayServer

/-- Whether a disturbance can happen to connections and a store; an answer that the store did not
give cannot. -/
def Disturbance.isGenuine : Disturbance → Bool
  | answers _ => false
  | _ => true

namespace Connection

/-- Counting what was written keeps the standing of a connection. -/
theorem sameStanding_countSent (c : Connection) (sizes : List Nat) :
    c.SameStanding (sizes.foldl countSent c) := by
  induction sizes generalizing c with
  | nil => exact .refl c
  | cons size rest ih =>
    have hfirst : c.SameStanding (c.countSent size) := ⟨rfl, rfl, rfl, rfl⟩
    exact hfirst.trans (ih _)

/-- A writer that goes on keeps the standing of its connection. -/
theorem sameStanding_resumeWriter (c : Connection) : c.SameStanding c.resumeWriter.connection := by
  have hline : c.SameStanding { c with line := (c.line.pump c.pending).line } :=
    ⟨rfl, rfl, rfl, rfl⟩
  have hcounted := hline.trans (sameStanding_countSent _ (c.line.pump c.pending).written)
  have houtbox (c' : Connection) (outbox : Outbox) : c'.SameStanding { c' with outbox } :=
    ⟨rfl, rfl, rfl, rfl⟩
  unfold resumeWriter
  dsimp only
  split
  · exact hcounted.trans (houtbox _ _)
  · exact hcounted.trans (houtbox _ _)
  · exact (hcounted.trans (houtbox _ _)).trans (sameStanding_close _)

/-- A run of the writer keeps the standing of its connection. -/
theorem sameStanding_runWriter (c : Connection) : c.SameStanding c.runWriter.connection := by
  have hgivenUp (c' : Connection) :
      c'.SameStanding { c' with outbox := {}, line.isShut := true } := ⟨rfl, rfl, rfl, rfl⟩
  obtain ⟨run, hrun⟩ : ∃ run : WriterRun, run =
      if c.isOpen && c.outbox.writing && c.outbox.current.isNone then c.resumeWriter
      else { connection := c } := ⟨_, rfl⟩
  have hkept : c.SameStanding run.connection := by
    rw [hrun]
    split
    · exact sameStanding_resumeWriter c
    · exact .refl c
  unfold runWriter
  dsimp only
  rw [← hrun]
  split
  · exact hkept
  · exact hkept.trans (hgivenUp _)

/-- Sending keeps the standing of a connection, whether or not the packet is taken. -/
theorem sameStanding_send (c : Connection) (p : Packet) : c.SameStanding (c.send p).2 := by
  unfold send
  split
  · exact .refl c
  · exact sameStanding_sendBytes c p.encode

end Connection

namespace ServerState

/-- Nothing is going to come in between but what can. -/
def Genuine (s : ServerState) : Prop := ∀ d ∈ s.disturbances, d.2.isGenuine = true

/-- The lobby has made moves that admit only connections in `who`, and the store has declined. -/
structure Effect (who : Handle → Prop) (s s' : ServerState) : Prop where
  moves : ∃ n, Lobby.Moves who s.lobby n s'.lobby
  store : s.store.Declines s'.store
  disturbances : s'.disturbances ⊆ s.disturbances

/-- An effect that admits nobody. -/
abbrev QuietEffect (s s' : ServerState) : Prop := Effect (fun _ => False) s s'

namespace Effect

variable {who : Handle → Prop} {s s' s'' : ServerState}

/-- No effect. -/
theorem refl (s : ServerState) : Effect who s s :=
  ⟨⟨0, .refl⟩, .refl s.store, List.Subset.refl _⟩

/-- One effect after the other. -/
theorem trans (h : Effect who s s') (h' : Effect who s' s'') : Effect who s s'' := by
  obtain ⟨n, hn⟩ := h.moves
  obtain ⟨n', hn'⟩ := h'.moves
  exact ⟨⟨n + n', hn.trans hn'⟩, h.store.trans h'.store,
    List.Subset.trans h'.disturbances h.disturbances⟩

/-- What is going to come in between can still come in between. -/
theorem genuine (h : Effect who s s') (genuine : s.Genuine) : s'.Genuine :=
  fun d hd => genuine d (h.disturbances hd)

/-- An effect on the lobby alone. -/
theorem of_moves {n : Nat} (hm : Lobby.Moves who s.lobby n s'.lobby) (hstore : s'.store = s.store)
    (hdisturbances : s'.disturbances = s.disturbances) : Effect who s s' :=
  ⟨⟨n, hm⟩, hstore ▸ .refl s.store, hdisturbances ▸ List.Subset.refl _⟩

/-- No effect on what matters here: records, metrics, registries and the log have changed. -/
theorem of_eq (hlobby : s'.lobby = s.lobby) (hstore : s'.store = s.store)
    (hdisturbances : s'.disturbances = s.disturbances) : Effect who s s' :=
  of_moves (n := 0) (hlobby ▸ .refl) hstore hdisturbances

/-- An effect by quiet moves. -/
theorem of_quiet (hm : Lobby.QuietMoves s.lobby s'.lobby) (hstore : s'.store = s.store)
    (hdisturbances : s'.disturbances = s.disturbances) : Effect who s s' :=
  of_moves hm.of_quiet hstore hdisturbances

/-- An effect on the store alone. -/
theorem of_declines {store : AccountStore} (hstore : s.store.Declines store) :
    Effect who s { s with store } :=
  ⟨⟨0, .refl⟩, hstore, List.Subset.refl _⟩

/-- An effect by moves of the lobby alone. -/
theorem of_lobby {n : Nat} {lobby : Lobby} (hm : Lobby.Moves who s.lobby n lobby) :
    Effect who s { s with lobby } :=
  of_moves hm rfl rfl

/-- Who is admitted may be said less precisely. -/
theorem mono {who' : Handle → Prop} (hw : ∀ h, who h → who' h) (h : Effect who s s') :
    Effect who' s s' := by
  obtain ⟨n, hn⟩ := h.moves
  exact ⟨⟨n, hn.mono hw⟩, h.store, h.disturbances⟩

/-- Changing a connection without its standing. -/
theorem updateConnection {h : Handle} {change : Connection → Connection}
    (hc : (s.connection h).SameStanding (change (s.connection h))) :
    Effect who s (s.updateConnection h change) :=
  of_quiet (.quiet (.touched (s.lobby.connections.sameStanding_set h _ hc)) rfl) rfl rfl

/-- Sending a packet. -/
theorem send (h : Handle) (p : Packet) : Effect who s (s.send h p) :=
  updateConnection ((s.connection h).sameStanding_send p)

/-- Closing a connection. -/
theorem close (h : Handle) : Effect who s (s.close h) :=
  updateConnection (s.connection h).sameStanding_close

/-- Notifying the members of a session. -/
theorem notify (session : SessionId) (p : Packet) (excluding : Option ConnectionId) :
    Effect who s (s.notify session p excluding) :=
  of_quiet (Lobby.quietMoves_broadcast s.lobby session p excluding) rfl rfl

/-- Refusing a packet. -/
theorem refuse (h : Handle) (p : Packet) : Effect who s (s.refuse h p) :=
  have hrecorded : Effect who s ((s.warn "Unauthenticated request, disconnecting").record
      { actor := AuditRecord.unknownActor
        source := s.sourceOf h
        category := .security
        description := "Request before authentication"
        outcome := .unauthorized
        details := packetDetails p }) := of_eq rfl rfl rfl
  hrecorded.trans (close h)

/-- Answering a request about a session. -/
theorem respond (h : Handle) (request : Packet) (reply : SessionReply) :
    Effect who s (s.respond h request reply) := send _ _

/-- Announcing a departure. -/
theorem announceDeparture (d : Departure) : Effect who s (s.announceDeparture d) := notify _ _ _

/-- Auditing what happened to a player. -/
theorem recordPlay (h : Handle) (description : String) (outcome : AuditOutcome)
    (details : String) : Effect who s (s.recordPlay h description outcome details) :=
  of_eq rfl rfl rfl

end Effect

/-- What comes in between is among what was going to come in between. -/
theorem takeDisturbance_spec (call : StoreCall) (ds : List (StoreCall × Disturbance)) :
    (takeDisturbance call ds).2 ⊆ ds ∧
      ∀ d, (takeDisturbance call ds).1 = some d → (call, d) ∈ ds := by
  induction ds with
  | nil => exact ⟨List.Subset.refl _, by simp [takeDisturbance]⟩
  | cons first rest ih =>
    obtain ⟨c, d⟩ := first
    unfold takeDisturbance
    split
    · next hc => exact ⟨List.subset_cons_self _ _, by simp [hc]⟩
    · refine ⟨?_, fun d' hd' => List.mem_cons_of_mem _ (ih.2 d' hd')⟩
      intro x hx
      rcases List.mem_cons.mp hx with rfl | hx
      · exact List.mem_cons_self
      · exact List.mem_cons_of_mem _ (ih.1 hx)

/-- A call of the store is answered by a store that declines, or not at all, if nothing comes in
between but what can. -/
theorem callStore_spec {α : Type} {who : Handle → Prop} {s : ServerState} (genuine : s.Genuine)
    (call : StoreCall) (override : Bool → Option α)
    (run : AccountStore → Except StoreError α × AccountStore)
    (declines : ∀ store : AccountStore, store.Declines (run store).2) :
    Effect who s (s.callStore call override run).2 ∧
      ∀ answer, (s.callStore call override run).1 = .ok answer →
        ∃ store, s.store.Declines store ∧ (run store).1 = .ok answer := by
  obtain ⟨hsub, hfound⟩ := takeDisturbance_spec call s.disturbances
  have hreal {s₁ : ServerState} (h₁ : Effect who s s₁) :
      Effect who s { s₁ with store := (run s₁.store).2 } ∧
        ∀ answer, (run s₁.store).1 = .ok answer →
          ∃ store, s.store.Declines store ∧ (run store).1 = .ok answer :=
    ⟨h₁.trans (.of_declines (declines s₁.store)),
      fun answer hanswer => ⟨s₁.store, h₁.store, hanswer⟩⟩
  have hbegun : Effect who s { s with disturbances := (takeDisturbance call s.disturbances).2 } :=
    ⟨⟨0, .refl⟩, .refl s.store, hsub⟩
  unfold callStore
  dsimp only
  split
  · exact hreal hbegun
  · next h _ => exact hreal (hbegun.trans (.close h))
  · next login _ =>
    exact hreal (hbegun.trans (.of_declines (AccountStore.declines_ban s.store login)))
  · exact hreal (hbegun.trans (.of_declines (AccountStore.declines_outage s.store)))
  · next value heq =>
    have hgenuine := genuine _ (hfound _ heq)
    simp [Disturbance.isGenuine] at hgenuine
  · exact ⟨hbegun, fun answer hanswer => by simp at hanswer⟩

section Requests

variable {who : Handle → Prop} (s : ServerState) (h : Handle) (p : Packet)

/-- Listing characters only asks the store. -/
theorem effect_listCharacters (genuine : s.Genuine) :
    Effect who s (s.listCharacters h p) := by
  unfold listCharacters
  split
  · exact .refl s
  · next login _ =>
    have hasked : Effect who s (s.charactersOf login).2 :=
      (callStore_spec genuine .characters _ _ fun store => .refl store).1
    generalize s.charactersOf login = asked at hasked ⊢
    obtain ⟨e | characters, s'⟩ := asked
    · have hlogged : Effect who s (s'.logError ("Character lookup failed: " ++ e.message)) :=
        hasked.trans (.of_eq rfl rfl rfl)
      dsimp only
      split
      · exact hlogged.trans (.send h _)
      · exact hlogged
    · dsimp only
      split
      · exact hasked.trans (.send h _)
      · exact hasked

/-- Concluding a join only sends and records. -/
theorem effect_concludeJoin (result : Except SessionError SessionSummary) :
    Effect who s (s.concludeJoin h p result) := by
  cases result with
  | ok summary =>
    have hresponded : Effect who s (s.respond h p (.ofSummary summary)) := .respond h p _
    exact (hresponded.trans (.notify _ _ _)).trans (.recordPlay h _ _ _)
  | error e => exact .respond h p _

/-- Creating a session admits the connection to it, or changes nothing. -/
theorem effect_createSession (options : Except SessionError SessionOptions) :
    Effect (· = h) s (s.createSession h p options) := by
  cases options with
  | error e => exact effect_concludeJoin s h p (.error e)
  | ok options =>
    obtain ⟨n, -, hmoves⟩ := s.lobby.moves_createAndJoin h options
    exact (Effect.of_lobby hmoves).trans (effect_concludeJoin _ h p _)

/-- Joining admits the connection to a session, or changes nothing. -/
theorem effect_joinSession (id : SessionId) : Effect (· = h) s (s.joinSession h p id) :=
  (Effect.of_lobby (s.lobby.moves_join id h)).trans (effect_concludeJoin _ h p _)

/-- Joining any session admits the connection to one, or changes nothing. -/
theorem effect_joinAnySession : Effect (· = h) s (s.joinAnySession h p) := by
  obtain ⟨n, -, hmoves⟩ := s.lobby.moves_findOrCreateAndJoin h
  exact (Effect.of_lobby hmoves).trans (effect_concludeJoin _ h p _)

/-- Leaving admits nobody. -/
theorem effect_leaveSession : Effect who s (s.leaveSession h p) := by
  have hmoves := s.lobby.quietMoves_leave h
  unfold leaveSession
  split
  · next departure lobby heq =>
    rw [heq] at hmoves
    have hleft : Effect who s { s with lobby } := .of_lobby hmoves.of_quiet
    have hresponded := hleft.trans (.respond h p (.left departure.session))
    exact (hresponded.trans (.announceDeparture departure)).trans (.recordPlay h _ _ _)
  · next e lobby heq =>
    rw [heq] at hmoves
    exact (Effect.of_lobby hmoves.of_quiet).trans (.respond h p _)

/-- Relaying chat only sends. -/
theorem effect_relayChat (text : Bytes) : Effect who s (s.relayChat h p text) := by
  unfold relayChat
  dsimp only
  split
  · exact .respond h p _
  split
  · exact .of_eq rfl rfl rfl
  · next session _ _ text _ =>
    have hmoves := s.lobby.quietMoves_broadcast session
      (gameNotice Method.chatMessage (chatBody ((s.connection h).login.getD "") text))
      (some (s.connection h).id)
    split
    · next report lobby heq =>
      rw [heq] at hmoves
      exact .of_lobby hmoves.of_quiet
    · next e lobby heq =>
      rw [heq] at hmoves
      exact (Effect.of_lobby hmoves.of_quiet).trans (.respond h p _)

/-- Concluding a change of options only sends and records. -/
theorem effect_concludeOptions (result : Except SessionError SessionSummary) :
    Effect who s (s.concludeOptions h p result) := by
  cases result with
  | ok summary =>
    have hresponded : Effect who s (s.respond h p (.ofSummary summary)) := .respond h p _
    exact (hresponded.trans (.notify _ _ _)).trans (.recordPlay h _ _ _)
  | error e => exact .respond h p _

/-- Changing options admits nobody. -/
theorem effect_changeOptions (options : Except SessionError SessionOptions) :
    Effect who s (s.changeOptions h p options) := by
  cases options with
  | error e => exact effect_concludeOptions s h p (.error e)
  | ok options =>
    have hmoves := s.lobby.quietMoves_setOptions h options
    exact (Effect.of_lobby hmoves.of_quiet).trans (effect_concludeOptions _ h p _)

/-- A request about a session admits at most the connection that makes it, whatever comes in
between. -/
theorem effect_serveRequest_of_ne {request : GameRequest} (other : request ≠ .characterList) :
    Effect (· = h) s (s.serveRequest h p request) := by
  cases request with
  | characterList => exact absurd rfl other
  | create options => exact effect_createSession s h p options
  | join id => exact effect_joinSession s h p id
  | joinAny => exact effect_joinAnySession s h p
  | leave => exact effect_leaveSession s h p
  | chat text => exact effect_relayChat s h p text
  | setOptions options => exact effect_changeOptions s h p options

/-- A request to the game service admits at most the connection that makes it. -/
theorem effect_serveRequest (genuine : s.Genuine)
    (request : GameRequest) : Effect (· = h) s (s.serveRequest h p request) := by
  by_cases hlist : request = .characterList
  · subst hlist
    exact effect_listCharacters s h p genuine
  · exact effect_serveRequest_of_ne s h p hlist

/-- A packet of the game service admits at most the connection that it comes from. -/
theorem effect_handlePlay (genuine : s.Genuine) :
    Effect (· = h) s (s.handlePlay h p) := by
  unfold handlePlay
  split
  · exact .of_eq rfl rfl rfl
  · exact .refl s
  · next request _ => exact effect_serveRequest s h p genuine request

/-- The shared routes but the log-in admit nobody. -/
theorem effect_serveShared {route : Route} (other : route ≠ .login) :
    Effect who s (s.serveShared h p route) := by
  cases route with
  | challenge => exact .send h _
  | login => exact absurd rfl other
  | ping => exact .send h _
  | refused => exact .refuse h p
  | unknown => exact .refl s
  | forwarded => exact .refl s

/-- A packet that goes to the front end itself comes from a connection that has logged in. -/
theorem isAuthenticated_of_forwarded {s : ServerState} {h : Handle} {p : Packet}
    (forwarded : s.routeOf h p = .forwarded) : (s.connection h).isAuthenticated = true := by
  unfold routeOf Route.of at forwarded
  split at forwarded
  · split at forwarded
    · cases forwarded
    · split at forwarded <;> cases forwarded
  split at forwarded
  · split at forwarded <;> cases forwarded
  split at forwarded
  · assumption
  · cases forwarded

/-- A packet that is no log-in request admits at most the connection that it comes from, and this
only if that has logged in. -/
theorem effect_handle (front : Front) (genuine : s.Genuine)
    (other : s.routeOf h p ≠ .login) :
    Effect (fun h' => h' = h ∧ (s.connection h).isAuthenticated = true) s (s.handle front h p) := by
  cases front with
  | gateway => exact effect_serveShared s h p other
  | game =>
    unfold handle handleAtGame
    dsimp only
    split
    · next forwarded =>
      split
      · have hauthenticated := isAuthenticated_of_forwarded forwarded
        exact (effect_handlePlay s h p genuine).mono fun h' hh' => ⟨hh', hauthenticated⟩
      · exact .refl s
    · exact effect_serveShared s h p other

end Requests

section Housekeeping

variable {who : Handle → Prop} (s : ServerState)

/-- The end of a connection admits nobody. -/
theorem effect_leaveOnDisconnect (h : Handle) : Effect who s (s.leaveOnDisconnect h) := by
  have hmoves := s.lobby.quietMoves_leave h
  unfold leaveOnDisconnect
  split
  · exact .refl s
  split
  · next departure lobby heq =>
    rw [heq] at hmoves
    have hleft : Effect who s { s with lobby } := .of_lobby hmoves.of_quiet
    exact (hleft.trans (.announceDeparture departure)).trans (.recordPlay h _ _ _)
  · next e lobby heq =>
    rw [heq] at hmoves
    exact .of_lobby hmoves.of_quiet

/-- Announcing departures only sends. -/
theorem effect_announceDepartures (departures : List Departure) :
    Effect who s (departures.foldl announceDeparture s) := by
  induction departures generalizing s with
  | nil => exact .refl s
  | cons departure rest ih => exact (Effect.announceDeparture departure).trans (ih _)

/-- When time passes nobody is admitted. -/
theorem effect_tick (delta : Duration) : Effect who s (s.tick delta).2 := by
  have hmoves := s.lobby.quietMoves_tickAll delta
  unfold tick
  split
  · next e lobby heq =>
    rw [heq] at hmoves
    exact .of_lobby hmoves.of_quiet
  · next departures lobby heq =>
    rw [heq] at hmoves
    have hticked : Effect who s { s with lobby, now := s.now + delta.nanos } :=
      .of_quiet hmoves rfl rfl
    exact hticked.trans (effect_announceDepartures _ departures)

/-- Reclaiming what is no longer used admits nobody. -/
theorem effect_sweep : Effect who s s.sweep :=
  .of_quiet (.quiet .reclaimed rfl) rfl rfl

/-- Running a writer admits nobody. -/
theorem effect_runWriter (h : Handle) : Effect who s (s.runWriter h) := by
  have hwritten : Effect who s
      (s.updateConnection h fun _ => (s.connection h).runWriter.connection) :=
    .updateConnection (s.connection h).sameStanding_runWriter
  unfold runWriter absorb
  dsimp only
  split
  · exact hwritten.trans (.of_eq rfl rfl rfl)
  split
  · exact hwritten.trans (.of_eq rfl rfl rfl)
  · exact hwritten.trans (.of_eq rfl rfl rfl)

/-- Running all writers admits nobody. -/
theorem effect_settle : Effect who s s.settle := by
  have hall (s : ServerState) (hs : List Handle) : Effect who s (hs.foldl runWriter s) := by
    induction hs generalizing s with
    | nil => exact .refl s
    | cons h rest ih => exact (effect_runWriter s h).trans (ih _)
  have hstarted : Effect who s { s with
      lobby.connections := { s.lobby.connections with started := [] } } :=
    .of_lobby (.quiet (.touched fun _ => .refl _) rfl)
  exact hstarted.trans (hall _ _)

end Housekeeping

end ServerState

end PlayServer
