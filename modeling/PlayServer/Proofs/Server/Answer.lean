import PlayServer.Proofs.Lobby.Refusal
import PlayServer.Proofs.Login.Check
import PlayServer.Proofs.Login.Grammar
import PlayServer.Proofs.Server.Reply

/-!
# Answers

Most requests do not come as far as the sessions: they are answered, if at all, to whoever made
them, with packets that have nothing to do with sessions. `Asides` is what those do, and
`handle_cases` tells them from the requests about sessions.

A request about a session is refused, which is answered and otherwise changes nothing, or granted.
`ServerState.refusal?` tells which of the two, and what is posted in either case is said here for
each request.
-/

namespace PlayServer.ServerState

/-- Nobody but one connection stands otherwise with its log-in. -/
def KeepsLogins (h : Handle) (s s' : ServerState) : Prop :=
  ∀ k, k ≠ h → (s'.connection k).loginState = (s.connection k).loginState

/-- Payloads that are packets within the limit, and no notices. -/
def AreAnswers (payloads : List Bytes) : Prop :=
  ∀ payload ∈ payloads, IsPacket payload ∧ isNotice payload = false

/-- The sessions are the same, nobody else stands otherwise with its log-in, and at most some
packets that are no notices have been posted to one connection. -/
def Answers (h : Handle) (s s' : ServerState) : Prop :=
  ∃ payloads, (AreAnswers payloads ∧ KeepsLogins h s s') ∧ s.Posts (.onlyTo h payloads) s'

/-- An effect changes nobody's log-in. -/
theorem KeepsLogins.of_effect {who : Handle → Prop} {h : Handle} {s s' : ServerState}
    (he : Effect who s s') : KeepsLogins h s s' :=
  fun k _ => he.loginState k

/-- Changing a connection changes the log-in of no other. -/
theorem KeepsLogins.of_update (s : ServerState) (h : Handle) (change : Connection → Connection) :
    KeepsLogins h s (s.updateConnection h change) := by
  intro k hk
  rw [loginState_updateConnection, if_neg hk]

/-- Answers are no notices for anybody. -/
theorem AreAnswers.silent {payloads : List Bytes} (answers : AreAnswers payloads) (h k : Handle) :
    notices (Post.onlyTo h payloads k) = [] := by
  unfold Post.onlyTo
  split
  · rw [notices, List.filter_eq_nil_iff]
    intro payload hpayload
    simp [(answers payload hpayload).2]
  · rfl

/-- Answers are packets for one connection. -/
theorem AreAnswers.isFor {payloads : List Bytes} (answers : AreAnswers payloads)
    {who : Handle → Prop} {h : Handle} (concerned : who h) : (Post.onlyTo h payloads).IsFor who :=
  Post.isFor_onlyTo (fun payload hpayload => (answers payload hpayload).1) concerned

/-- A payload for members is no notice if it is none. -/
theorem notices_toEach {payload : Bytes} (other : isNotice payload = false) (ms : List Member)
    (k : Handle) : notices (Post.toEach ms payload k) = [] := by
  rw [Post.toEach_eq_replicate, notices, List.filter_replicate]
  simp [other]

/-- A packet within the limit that has nothing to do with sessions: it is no notice and carries no
reply. -/
def IsAside (payload : Bytes) : Prop :=
  IsPacket payload ∧ isNotice payload = false ∧ sessionReply? payload = none

/-- The sessions are the same, nobody else stands otherwise with its log-in, and at most some
packets that have nothing to do with sessions have been posted to one connection. -/
def Asides (h : Handle) (s s' : ServerState) : Prop :=
  ∃ payloads, ((∀ payload ∈ payloads, IsAside payload) ∧ KeepsLogins h s s') ∧
    s.Posts (.onlyTo h payloads) s'

namespace Asides

variable {s s' s'' : ServerState} {h : Handle}

/-- What has nothing to do with sessions is an answer at most. -/
theorem answers (hs : Asides h s s') : Answers h s s' := by
  obtain ⟨payloads, ⟨hasides, hlogins⟩, hposts⟩ := hs
  exact ⟨payloads, ⟨fun payload hpayload =>
    ⟨(hasides payload hpayload).1, (hasides payload hpayload).2.1⟩, hlogins⟩, hposts⟩

/-- Nothing has been answered. -/
theorem of_nobody (hs : s.Posts .nobody s') (logins : KeepsLogins h s s') : Asides h s s' :=
  ⟨[], ⟨fun _ hnone => absurd hnone List.not_mem_nil, logins⟩, by rwa [Post.onlyTo_nil]⟩

/-- Nothing has been answered while a request waits. -/
theorem of_waits (hs : s.Waits s') : Asides h s s' := .of_nobody hs.posts fun k _ => hs.logins k

/-- One answer after the other. -/
theorem trans (hs : Asides h s s') (hs' : Asides h s' s'') : Asides h s s'' := by
  obtain ⟨payloads, ⟨hasides, hlogins⟩, hposts⟩ := hs
  obtain ⟨payloads', ⟨hasides', hlogins'⟩, hposts'⟩ := hs'
  refine ⟨payloads ++ payloads', ⟨?_, fun k hk => (hlogins' k hk).trans (hlogins k hk)⟩, ?_⟩
  · intro payload hpayload
    exact (List.mem_append.mp hpayload).elim (hasides payload) (hasides' payload)
  have hboth : (Post.onlyTo h payloads).andThen (.onlyTo h payloads') =
      .onlyTo h (payloads ++ payloads') := by
    funext k
    by_cases hk : k = h <;> simp [Post.andThen, Post.onlyTo, hk]
  exact hboth ▸ hposts.trans hposts'

/-- A reply whose method is that of no notice and of no reply about a session is sent. -/
theorem reply (s : ServerState) (h : Handle) (request : Packet) {method : UInt16} (body : Bytes)
    (other : (method == Method.playerJoined || method == Method.playerLeft ||
      method == Method.sessionResponse) = false) :
    Asides h s (s.send h (request.reply method body)) := by
  obtain ⟨payloads, hwhich, hposts⟩ := Posts.send s h (request.reply method body)
  refine ⟨payloads, ⟨?_, .of_update s h _⟩, hposts⟩
  intro payload hpayload
  rcases hwhich with rfl | ⟨hlimit, rfl⟩
  · cases hpayload
  obtain rfl := List.mem_singleton.mp hpayload
  obtain ⟨hnotice, hreply⟩ := Bool.or_eq_false_iff.mp other
  refine ⟨⟨_, hlimit, rfl⟩, ?_, sessionReply?_encode_of_other ?_⟩
  · rw [isNotice_encode]
    simp only [Packet.reply, hnotice, Bool.and_false]
  · simp only [Packet.reply, hreply, Bool.and_false]

end Asides

/-- An answer about a session is posted. -/
theorem posts_respond (s : ServerState) (h : Handle) (request : Packet) (r : SessionReply) :
    s.Posts (.onlyTo h [sessionAnswer request r]) (s.respond h request r) :=
  .updateConnection ((s.connection h).posted_send_of_inLimit (inLimit_sessionAnswer request r))

/-- An answer about a session is a packet, and no notice. -/
theorem areAnswers_sessionAnswer (request : Packet) (r : SessionReply) :
    AreAnswers [sessionAnswer request r] := by
  intro payload hpayload
  obtain rfl := List.mem_singleton.mp hpayload
  refine ⟨⟨_, inLimit_sessionAnswer request r, rfl⟩, ?_⟩
  rw [sessionAnswer, isNotice_encode]
  exact Bool.and_false _

namespace Answers

variable {s s' : ServerState} {h : Handle}

/-- An answer about a session is no notice. -/
theorem respond (s : ServerState) (h : Handle) (request : Packet) (r : SessionReply) :
    Answers h s (s.respond h request r) :=
  ⟨_, ⟨areAnswers_sessionAnswer request r, .of_update s h _⟩, s.posts_respond h request r⟩

/-- Nothing is posted to the others. -/
theorem others (hs : Answers h s s') {k : Handle} (hk : k ≠ h) :
    (s.connection k).Posted [] (s'.connection k) := by
  obtain ⟨payloads, -, hposts⟩ := hs
  have hposted := hposts.connections k
  rwa [Post.onlyTo_of_ne hk] at hposted

end Answers

section Shared

variable (s : ServerState) (h : Handle) (p : Packet)

/-- Judging credentials is waiting for the store. -/
theorem waits_judgeCredentials (login password : String) :
    s.Waits (s.judgeCredentials login password).2 :=
  judgeCredentials_keeps (fun s' call override run waits =>
      waits.trans (waits_callStore s' call override run))
    (fun _ _ waits => waits.trans (.of_eq rfl rfl)) (.of_eq rfl rfl) login password

/-- A log-in that is under way is given up. -/
theorem asides_failAuth (before : (s.connection h).isAuthenticated = false) :
    Asides h s (s.updateConnection h Connection.failAuth) := by
  apply Asides.of_nobody _ (.of_update s h _)
  apply Posts.of_login before ⟨_, _, rfl⟩
  intro hauthenticated
  cases hauthenticated

/-- A log-in that is under way is answered to the connection that it comes from. -/
theorem asides_concludeLogin {login : String}
    (before : (s.connection h).isAuthenticated = false)
    (fits : (utf8 login).length ≤ maxShortText) (verdict : Option LoginFailure) :
    Asides h s (s.concludeLogin h p login verdict).2 := by
  cases verdict with
  | none =>
    have hdone : Asides h s (s.updateConnection h (·.completeAuth login)) :=
      .of_nobody (.of_login before ⟨_, _, rfl⟩ fun _ => ⟨login, rfl, fits⟩) (.of_update s h _)
    refine Asides.trans ?_ (.reply _ h p _ rfl)
    exact hdone.trans (.of_waits (.of_eq rfl rfl))
  | some failure =>
    refine Asides.trans ?_ (.reply _ h p _ rfl)
    exact (asides_failAuth s h before).trans (.of_waits (.of_eq rfl rfl))

/-- A log-in request is answered to the connection that it comes from, if at all. -/
theorem asides_authenticate : Asides h s (s.authenticate h p).2 := by
  unfold authenticate
  split
  · exact .of_waits (.of_eq rfl rfl)
  next request hparse =>
  split
  · exact .of_waits (.of_eq rfl rfl)
  next hmay =>
  have hmay : (s.connection h).mayBeginAuth = true := by simpa using hmay
  dsimp only
  -- The log-in begins.
  have hbegin : (s.connection h).beginAuth = { s.connection h with auth := .inProgress } := by
    rw [Connection.beginAuth, if_pos hmay]
  have hbefore : (s.connection h).isAuthenticated = false := by
    cases hauth : (s.connection h).auth <;>
      simp_all [Connection.mayBeginAuth, Connection.isAuthenticated]
  have hbegun : Asides h s (s.updateConnection h Connection.beginAuth) := by
    apply Asides.of_nobody _ (.of_update s h _)
    apply Posts.of_login hbefore ⟨_, _, hbegin⟩
    rw [hbegin]
    intro hauthenticated
    cases hauthenticated
  generalize hs₁ : (s.updateConnection h Connection.beginAuth).record _ = s₁
  have h₁ : Asides h s s₁ := hs₁ ▸ hbegun.trans (.of_waits (.of_eq rfl rfl))
  have hstate₁ : (s₁.connection h).loginState = (.inProgress, (s.connection h).login) := by
    subst hs₁
    change ((s.updateConnection h Connection.beginAuth).connection h).loginState = _
    have hget : (s.updateConnection h Connection.beginAuth).connection h =
        (s.connection h).beginAuth := s.connection_updateConnection h _
    rw [hget, hbegin]
    rfl
  -- Then the credentials are judged, and the log-in is still under way.
  have hjudged := s₁.waits_judgeCredentials request.login request.password
  generalize s₁.judgeCredentials request.login request.password = judged at hjudged ⊢
  obtain ⟨verdict, s₂⟩ := judged
  have h₂ : Asides h s s₂ := h₁.trans (.of_waits hjudged)
  have hunderWay : (s₂.connection h).isAuthenticated = false := by
    have hauth : (s₂.connection h).auth = .inProgress :=
      congrArg Prod.fst ((hjudged.logins h).trans hstate₁)
    rw [Connection.isAuthenticated, hauth]
    rfl
  split
  · have hfits := LoginRequest.fits_of_parse hparse
    exact h₂.trans (asides_concludeLogin s₂ h p hunderWay hfits verdict)
  · exact (h₂.trans (asides_failAuth s₂ h hunderWay)).trans (.of_waits (.of_eq rfl rfl))

/-- Refusing a packet is not answered, and closes the connection. -/
theorem waits_refuse : s.Waits (s.refuse h p) :=
  have hrecorded : s.Waits ((s.warn "Unauthenticated request, disconnecting").record
      { actor := AuditRecord.unknownActor
        source := s.sourceOf h
        category := .security
        description := "Request before authentication"
        outcome := .unauthorized
        details := packetDetails p }) := .of_eq rfl rfl
  hrecorded.trans (.close _ h)

/-- The routes that both front ends share answer whoever takes them. -/
theorem asides_serveShared (route : Route) : Asides h s (s.serveShared h p route) := by
  cases route with
  | challenge => exact .reply s h p _ rfl
  | login => exact asides_authenticate s h p
  | ping => exact .reply s h p _ rfl
  | refused => exact .of_waits (waits_refuse s h p)
  | unknown => exact .of_waits (.of_eq rfl rfl)
  | forwarded => exact .of_waits (.of_eq rfl rfl)

/-- Characters are listed by waiting for the store, and then sending a list to whoever asks for it
or nothing. -/
theorem listCharacters_cases : ∃ s', s.Waits s' ∧ (s.listCharacters h p = s' ∨
    ∃ characters, s.listCharacters h p =
      s'.send h (p.reply Method.characterListResponse (characterListBody characters))) := by
  unfold listCharacters
  split
  · exact ⟨s, .of_eq rfl rfl, .inl rfl⟩
  next login _ =>
  have hasked : s.Waits (s.charactersOf login).2 := waits_callStore s _ _ _
  generalize s.charactersOf login = asked at hasked ⊢
  obtain ⟨e | characters, s'⟩ := asked
  · refine ⟨s'.logError ("Character lookup failed: " ++ e.message), hasked.trans (.of_eq rfl rfl), ?_⟩
    dsimp only
    split
    · exact .inr ⟨[], rfl⟩
    · exact .inl rfl
  · refine ⟨s', hasked, ?_⟩
    dsimp only
    split
    · exact .inr ⟨characters, rfl⟩
    · exact .inl rfl

/-- A list of characters is for whoever asks for it. -/
theorem asides_listCharacters : Asides h s (s.listCharacters h p) := by
  obtain ⟨s', hwaits, hnone | ⟨characters, hsent⟩⟩ := listCharacters_cases s h p
  · exact hnone ▸ .of_waits hwaits
  · exact hsent ▸ (Asides.of_waits hwaits).trans (.reply _ h p _ rfl)

end Shared

/-- A packet that the game service serves as a request about a session: its sender has logged in,
and it reads as a request other than for the list of characters. -/
def IsSessionRequest (s : ServerState) (h : Handle) (p : Packet) (request : GameRequest) : Prop :=
  s.routeOf h p = .forwarded ∧ p.service = Service.game ∧
    GameRequest.read p.method p.body = .ok (some request) ∧ request ≠ .characterList

/-- A request about a session that comes in at the game front end is served. -/
theorem handle_of_isSessionRequest {s : ServerState} {h : Handle} {p : Packet}
    {request : GameRequest} (asked : s.IsSessionRequest h p request) :
    s.handle .game h p = s.serveRequest h p request := by
  obtain ⟨hroute, hservice, hread, -⟩ := asked
  simp [handle, handleAtGame, handlePlay, hroute, hservice, hread]

/-- A packet is answered to whoever has sent it, if at all, or it is a request about a session that
comes in at the game front end. -/
theorem handle_cases (s : ServerState) (front : Front) (h : Handle) (p : Packet) :
    Asides h s (s.handle front h p) ∨
      front = .game ∧ ∃ request, s.IsSessionRequest h p request ∧
        s.handle front h p = s.serveRequest h p request := by
  cases front with
  | gateway => exact .inl (asides_serveShared s h p _)
  | game =>
    unfold handle handleAtGame
    dsimp only
    split
    · next forwarded =>
      split
      · next hservice =>
        unfold handlePlay
        split
        · exact .inl (.of_waits (.of_eq rfl rfl))
        · exact .inl (.of_waits (.of_eq rfl rfl))
        · next request hread =>
          by_cases hlist : request = .characterList
          · subst hlist
            exact .inl (asides_listCharacters s h p)
          · exact .inr ⟨rfl, request, ⟨forwarded, by simpa using hservice, hread, hlist⟩, rfl⟩
      · exact .inl (.of_waits (.of_eq rfl rfl))
    · exact .inl (asides_serveShared s h p _)

/-- What is kept by all that requests about sessions do: packets are sent and announced, connections
change places, and audit records and lines of the log are made. -/
structure KeptByRequests (motive : ServerState → Prop) : Prop where
  send : ∀ (s : ServerState) (h : Handle) (p : Packet), motive s → motive (s.send h p)
  notify : ∀ (s : ServerState) (session : SessionId) (p : Packet)
    (excluding : Option ConnectionId), motive s → motive (s.notify session p excluding)
  move : ∀ (s : ServerState) (lobby : Lobby), s.lobby.connections.Reseated lobby.connections →
    motive s → motive { s with lobby }
  note : ∀ (s : ServerState) (audit : AuditLog) (log : List LogLine),
    motive s → motive { s with audit, log }

namespace KeptByRequests

variable {motive : ServerState → Prop} {s : ServerState} (h : Handle) (p : Packet)

/-- Concluding a join keeps it. -/
theorem concludeJoin (kept : KeptByRequests motive) (holds : motive s)
    (result : Except SessionError SessionSummary) : motive (s.concludeJoin h p result) := by
  cases result with
  | ok summary => exact kept.note _ _ _ (kept.notify _ _ _ _ (kept.send _ h _ holds))
  | error e => exact kept.send _ h _ holds

/-- Concluding a change of options keeps it. -/
theorem concludeOptions (kept : KeptByRequests motive) (holds : motive s)
    (result : Except SessionError SessionSummary) : motive (s.concludeOptions h p result) := by
  cases result with
  | ok summary => exact kept.note _ _ _ (kept.notify _ _ _ _ (kept.send _ h _ holds))
  | error e => exact kept.send _ h _ holds

/-- Leaving keeps it. -/
theorem leaveSession (kept : KeptByRequests motive) (holds : motive s) :
    motive (s.leaveSession h p) := by
  have hmoved := kept.move s _ (s.lobby.reseated_leave h) holds
  unfold ServerState.leaveSession
  generalize s.lobby.leave h = outcome at hmoved ⊢
  obtain ⟨e | d, l⟩ := outcome
  · exact kept.send _ h _ hmoved
  · exact kept.note _ _ _ (kept.notify _ _ _ _ (kept.send _ h _ hmoved))

/-- Relaying chat keeps it. -/
theorem relayChat (kept : KeptByRequests motive) (holds : motive s) (text : Bytes) :
    motive (s.relayChat h p text) := by
  unfold ServerState.relayChat
  dsimp only
  split
  · exact kept.send _ h _ holds
  split
  · exact kept.note s _ _ holds
  next session _ _ text _ =>
  have hsent := kept.notify s session
    (gameNotice Method.chatMessage (chatBody ((s.connection h).login.getD "") text))
    (some (s.connection h).id) holds
  unfold ServerState.notify at hsent
  generalize s.lobby.broadcast session _ _ = outcome at hsent ⊢
  obtain ⟨e | report, l⟩ := outcome
  · exact kept.send _ h _ hsent
  · exact hsent

/-- Every request about a session keeps it. -/
theorem serveRequest (kept : KeptByRequests motive) (holds : motive s) {request : GameRequest}
    (other : request ≠ .characterList) : motive (s.serveRequest h p request) := by
  cases request with
  | characterList => exact absurd rfl other
  | create options =>
    cases options with
    | error e => exact kept.concludeJoin h p holds (.error e)
    | ok options =>
      exact kept.concludeJoin h p (kept.move s _ (s.lobby.reseated_createAndJoin h options) holds) _
  | join id => exact kept.concludeJoin h p (kept.move s _ (s.lobby.reseated_join id h) holds) _
  | joinAny =>
    exact kept.concludeJoin h p (kept.move s _ (s.lobby.reseated_findOrCreateAndJoin h) holds) _
  | leave => exact kept.leaveSession h p holds
  | chat text => exact kept.relayChat h p holds text
  | setOptions options =>
    cases options with
    | error e => exact kept.concludeOptions h p holds (.error e)
    | ok options =>
      have hsame := s.lobby.connections_setOptions h options
      exact kept.concludeOptions h p (kept.move s _ (hsame ▸ .refl _) holds) _

end KeptByRequests

section Posted

variable {s s' : ServerState}

/-- Posting changes no roster. -/
theorem Posts.roster {post : Post} (h : s.Posts post s') : s'.lobby.roster = s.lobby.roster := by
  rw [h.lobby]
  rfl

/-- Auditing what happened to a player posts nothing. -/
theorem Posts.recordPlay {post : Post} (hs : s.Posts post s') (h : Handle) (description : String)
    (outcome : AuditOutcome) (details : String) :
    s.Posts post (s'.recordPlay h description outcome details) :=
  hs.quietly (.of_eq rfl rfl)

/-- Announcing a departure posts a notice to each member. -/
theorem posts_announceDeparture (s : ServerState) (d : Departure) :
    s.Posts (.toEach (s.lobby.roster d.session) (leftNotice d.login)) (s.announceDeparture d) := by
  have hall : (s.lobby.roster d.session).filter (fun m => some m.id != none) =
      s.lobby.roster d.session :=
    List.filter_eq_self.mpr fun m _ => rfl
  have hnotified := Posts.notify s d.session
    (gameNotice Method.playerLeft (playerBody d.login)) none
  rwa [hall] at hnotified

/-- Announcing departures posts a notice of each to each member. -/
theorem posts_announceDepartures (s : ServerState) (departures : List Departure) :
    s.Posts (fun k => departures.flatMap fun d =>
        Post.toEach (s.lobby.roster d.session) (leftNotice d.login) k)
      (departures.foldl announceDeparture s) := by
  induction departures generalizing s with
  | nil => exact .refl s
  | cons d rest ih =>
    have hfirst := s.posts_announceDeparture d
    have hrest := ih (s.announceDeparture d)
    rw [hfirst.roster] at hrest
    exact hfirst.trans hrest

/-- A notice is posted to the members of a session but a connection. -/
theorem posts_notifyOthers (s : ServerState) (session : SessionId) (h : Handle) (p : Packet) :
    s.Posts (s.lobby.toOthers session h p.encode) (s.notify session p (some (s.connection h).id)) :=
  .notify s session p _

/-- Posting does not change who the others are. -/
theorem Posts.toOthers {post : Post} (h : s.Posts post s') :
    s'.lobby.toOthers = s.lobby.toOthers := by
  funext id k payload
  have hid : (s'.lobby.connection k).id = (s.lobby.connection k).id := (h.connections k).id
  rw [Lobby.toOthers, h.roster, hid, Lobby.toOthers]

/-- A player who has joined a session is answered, and then the other members are told. -/
theorem posts_concludeJoin (s : ServerState) (h : Handle) (p : Packet) (summary : SessionSummary) :
    s.Posts ((Post.onlyTo h [sessionAnswer p (.ofSummary summary)]).andThen
        (s.lobby.toOthers summary.id h (joinedNotice ((s.lobby.connection h).login.getD ""))))
      (s.concludeJoin h p (.ok summary)) := by
  have hreplied := s.posts_respond h p (.ofSummary summary)
  have hnotified := Posts.notify (s.respond h p (.ofSummary summary)) summary.id
    (gameNotice Method.playerJoined (playerBody ((s.connection h).login.getD "")))
    (some (s.connection h).id)
  rw [hreplied.roster] at hnotified
  exact (hreplied.trans hnotified).recordPlay h _ _ _

/-- A player who has left a session is answered, and then the members who stay are told. -/
theorem posts_leaveSession {h : Handle} {d : Departure} {l : Lobby} (p : Packet)
    (left : s.lobby.leave h = (.ok d, l)) :
    ({ s with lobby := l } : ServerState).Posts
      ((Post.onlyTo h [sessionAnswer p (.left d.session)]).andThen
        (.toEach (l.roster d.session) (leftNotice d.login)))
      (s.leaveSession h p) := by
  have hreplied := ({ s with lobby := l } : ServerState).posts_respond h p (.left d.session)
  have hannounced := posts_announceDeparture
    (({ s with lobby := l } : ServerState).respond h p (.left d.session)) d
  rw [hreplied.roster] at hannounced
  rw [leaveSession, left]
  exact (hreplied.trans hannounced).recordPlay h _ _ _

/-- Whoever asks to leave is refused, or leaves the session that it names. -/
theorem leaveSession_cases {drawn : Nat} (hl : s.lobby.Consistent drawn) (h : Handle) (p : Packet) :
    (∃ e, s.leaveSession h p = s.respond h p (.refusal e none)) ∨
      ∃ d l, s.lobby.leave h = (.ok d, l) ∧ s.lobby.Dismisses h d l ∧
        ({ s with lobby := l } : ServerState).Posts
          ((Post.onlyTo h [sessionAnswer p (.left d.session)]).andThen
            (.toEach (l.roster d.session) (leftNotice d.login)))
          (s.leaveSession h p) := by
  have houtcome := Lobby.leaveOutcome_leave hl h
  generalize hleft : s.lobby.leave h = outcome at houtcome
  cases houtcome with
  | @refused e free => exact .inl ⟨e, by rw [leaveSession, hleft]⟩
  | @dismissed d l dismisses => exact .inr ⟨d, l, rfl, dismisses, posts_leaveSession p hleft⟩

/-- A connection that has ended names no session, or leaves the session that it names, and then the
members who stay are told. -/
theorem leaveOnDisconnect_cases {drawn : Nat} (hl : s.lobby.Consistent drawn) (h : Handle) :
    ((s.connection h).session = none ∧ s.leaveOnDisconnect h = s) ∨
      ∃ d l, s.lobby.leave h = (.ok d, l) ∧ s.lobby.Dismisses h d l ∧
        ({ s with lobby := l } : ServerState).Posts
          (.toEach (l.roster d.session) (leftNotice d.login)) (s.leaveOnDisconnect h) := by
  have houtcome := Lobby.leaveOutcome_leave hl h
  unfold leaveOnDisconnect
  split
  · next hfree => exact .inl ⟨by simpa using hfree, rfl⟩
  generalize hleft : s.lobby.leave h = outcome at houtcome
  cases houtcome with
  | refused free => exact .inl ⟨free, rfl⟩
  | @dismissed d l dismisses =>
    have hannounced := posts_announceDeparture { s with lobby := l } d
    exact .inr ⟨d, l, rfl, dismisses, hannounced.recordPlay h _ _ _⟩

/-- After a pass of the scheduler the members who stay are told of the players whom it has taken
out, unless the time of a session overflows. -/
theorem exists_posts_tick {delta : Duration} (ticked : (s.tick delta).1 = .ok ()) :
    ∃ departures l, s.lobby.tickAll delta = (.ok departures, l) ∧
      ({ s with lobby := l } : ServerState).Posts
        (fun k => departures.flatMap fun d =>
          Post.toEach (l.roster d.session) (leftNotice d.login) k)
        (s.tick delta).2 := by
  unfold tick at ticked ⊢
  split
  · next heq =>
    rw [heq] at ticked
    cases ticked
  · next departures l heq =>
    have hbegun : ({ s with lobby := l } : ServerState).Posts .nobody
        { s with lobby := l, now := s.now + delta.nanos } := .of_eq rfl rfl
    exact ⟨departures, l, heq, (posts_announceDepartures _ departures).after hbegun⟩

/-- Chat text for the other members of a session. -/
def chatNotice (login text : String) : Packet :=
  gameNotice Method.chatMessage (chatBody login text)

/-- A player who has changed options is answered, and then the other members are told. -/
theorem posts_concludeOptions (s : ServerState) (h : Handle) (p : Packet)
    (summary : SessionSummary) :
    s.Posts ((Post.onlyTo h [sessionAnswer p (.ofSummary summary)]).andThen
        (s.lobby.toOthers summary.id h (optionsNotice (.ofSummary summary))))
      (s.concludeOptions h p (.ok summary)) := by
  have hreplied := s.posts_respond h p (.ofSummary summary)
  have hnotified := (s.respond h p (.ofSummary summary)).posts_notifyOthers summary.id h
    (gameNotice Method.sessionResponse (SessionReply.ofSummary summary).encode)
  rw [hreplied.toOthers] at hnotified
  exact (hreplied.trans hnotified).recordPlay h _ _ _

end Posted

/-- Why a request about a session is refused, if it is. -/
def refusal? (s : ServerState) (h : Handle) : GameRequest → Option SessionError
  | .characterList => none
  | .create (.error e) | .setOptions (.error e) => some e
  | .create (.ok options) => refusalOf (s.lobby.createAndJoin h options).1
  | .join id => refusalOf (s.lobby.join id h).1
  | .joinAny => refusalOf (s.lobby.findOrCreateAndJoin h).1
  | .leave => refusalOf (s.lobby.leave h).1
  | .chat text =>
    match (s.connection h).session, ofUtf8? text with
    | none, _ => some .notMember
    | some _, none => none
    | some session, some text =>
      refusalOf (s.lobby.broadcast session
        (chatNotice ((s.connection h).login.getD "") text) (some (s.connection h).id)).1
  | .setOptions (.ok options) => refusalOf (s.lobby.setOptions h options).1

section Refusals

variable {s : ServerState} {h : Handle} {e : SessionError}

/-- Chat is refused, or not to be read, or relayed to the others of the session that whoever speaks
names. -/
theorem relayChat_cases (s : ServerState) (h : Handle) (p : Packet) (text : Bytes) :
    (∃ e, s.refusal? h (.chat text) = some e ∧
      s.relayChat h p text = s.respond h p (.refusal e none)) ∨
    s.refusal? h (.chat text) = none ∧
      (s.Posts .nobody (s.relayChat h p text) ∨
        ∃ session text', (s.connection h).session = some session ∧
          s.Posts (s.lobby.toOthers session h
            (chatNotice ((s.connection h).login.getD "") text').encode) (s.relayChat h p text)) := by
  unfold relayChat refusal?
  dsimp only
  cases hsession : (s.connection h).session with
  | none => exact .inl ⟨_, rfl, rfl⟩
  | some session =>
    cases htext : ofUtf8? text with
    | none => exact .inr ⟨rfl, .inl (.of_eq rfl rfl)⟩
    | some text' =>
      have hrelayed := s.posts_notifyOthers session h
        (chatNotice ((s.connection h).login.getD "") text')
      unfold notify at hrelayed
      unfold chatNotice at hrelayed ⊢
      dsimp only
      generalize hresult : s.lobby.broadcast session _ _ = result at hrelayed ⊢
      obtain ⟨e | report, l⟩ := result
      · have hsame := Lobby.broadcast_of_error (congrArg Prod.fst hresult)
        rw [hresult] at hsame
        obtain rfl : l = s.lobby := hsame
        exact .inl ⟨e, rfl, rfl⟩
      · exact .inr ⟨rfl, .inr ⟨session, text', rfl, hrelayed⟩⟩

/-- A request that is refused is answered with the refusal, and otherwise connections at most change
places. -/
theorem serveRequest_of_refused {request : GameRequest} (p : Packet)
    (refused : s.refusal? h request = some e) :
    ∃ l current, s.lobby.connections.Reseated l.connections ∧
      s.serveRequest h p request =
        ({ s with lobby := l } : ServerState).respond h p (.refusal e current) := by
  have joining {outcome : Except SessionError SessionSummary × Lobby}
      (hrefused : refusalOf outcome.1 = some e)
      (hreseated : s.lobby.connections.Reseated outcome.2.connections) :
      ∃ l current, s.lobby.connections.Reseated l.connections ∧
        ({ s with lobby := outcome.2 } : ServerState).concludeJoin h p outcome.1 =
          ({ s with lobby := l } : ServerState).respond h p (.refusal e current) := by
    obtain ⟨result, l⟩ := outcome
    obtain rfl : result = .error e := refusalOf_eq_some_iff.mp hrefused
    exact ⟨l, _, hreseated, rfl⟩
  cases request with
  | characterList => cases refused
  | create options =>
    cases options with
    | error e' =>
      obtain rfl : e' = e := Option.some.inj refused
      exact ⟨s.lobby, _, .refl _, rfl⟩
    | ok options => exact joining refused (s.lobby.reseated_createAndJoin h options)
  | join id => exact joining refused (s.lobby.reseated_join id h)
  | joinAny => exact joining refused (s.lobby.reseated_findOrCreateAndJoin h)
  | leave =>
    have hresult := refusalOf_eq_some_iff.mp refused
    have hreseated := s.lobby.reseated_leave h
    rw [serveRequest, leaveSession]
    generalize s.lobby.leave h = outcome at hresult hreseated ⊢
    obtain ⟨result, l⟩ := outcome
    obtain rfl : result = .error e := hresult
    exact ⟨l, none, hreseated, rfl⟩
  | chat text =>
    rcases s.relayChat_cases h p text with ⟨e', hrefused, hrelay⟩ | ⟨hgranted, -⟩
    · obtain rfl : e' = e := Option.some.inj (hrefused.symm.trans refused)
      exact ⟨s.lobby, none, .refl _, hrelay⟩
    · simp [hgranted] at refused
  | setOptions options =>
    cases options with
    | error e' =>
      obtain rfl : e' = e := Option.some.inj refused
      exact ⟨s.lobby, _, .refl _, rfl⟩
    | ok options =>
      have hresult := refusalOf_eq_some_iff.mp refused
      have hsame := s.lobby.connections_setOptions h options
      rw [serveRequest, changeOptions]
      generalize s.lobby.setOptions h options = outcome at hresult hsame ⊢
      obtain ⟨result, l⟩ := outcome
      obtain rfl : result = .error e := hresult
      exact ⟨l, _, hsame ▸ .refl _, rfl⟩

end Refusals

end PlayServer.ServerState
