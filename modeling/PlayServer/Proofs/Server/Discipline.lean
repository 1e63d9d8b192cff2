import PlayServer.Proofs.Login.Outcome
import PlayServer.Proofs.Server.Addressing
import PlayServer.Proofs.Server.Malformed

/-!
# Requests and replies

A packet that comes in at the game front end gets one reply at most, on its own service and under
its own correlation id; all that others get meanwhile carries the correlation id 0. `IsAnswered`
lists the packets that get a reply: `replies_of_run`. The list of characters is apart, because it
may be too large to be sent.

A reply is lost only if the connection closes meanwhile, which takes a log-in that waits for the
store.
-/

namespace PlayServer.ServerState

variable {s : ServerState} {h : Handle} {p : Packet}

/-- The packets that are answered, the list of characters apart. -/
inductive IsAnswered (s : ServerState) (h : Handle) (p : Packet) : Prop where
  /-- Whoever opens a log-in is sent a challenge. -/
  | challenge (service : p.service = Service.authentication)
      (method : p.method = Method.challengeRequest)
  /-- A ping is empty or begins with the type of a ping. -/
  | ping (service : p.service = Service.connection) (method : p.method = Method.ping)
      (body : p.body = [] ∨ p.body.head? = some MessageType.ping)
  /-- Credentials that can be read, before any log-in or after one that has failed. -/
  | login (asks : AsksToLogIn p) {request : LoginRequest}
      (parsed : LoginRequest.parse p.body = .ok request)
      (idle : (s.connection h).auth = .notAuthenticated ∨ (s.connection h).auth = .failed)
  /-- Options of two bytes, or none at all. -/
  | create (play : s.IsPlay h p) (method : p.method = Method.createSession)
      (whole : p.body.length = 0 ∨ 2 ≤ p.body.length)
  /-- The id of a session in four bytes. -/
  | join (play : s.IsPlay h p) (method : p.method = Method.joinSession) (whole : 4 ≤ p.body.length)
  /-- Options of two bytes. -/
  | options (play : s.IsPlay h p) (method : p.method = Method.setSessionOptions)
      (whole : 2 ≤ p.body.length)
  | leave (play : s.IsPlay h p) (method : p.method = Method.leaveSession)
  /-- Chat of somebody who is in no session. -/
  | chat (play : s.IsPlay h p) (method : p.method = Method.sessionChat)
      (free : (s.connection h).session = none)

/-- Chat of somebody who names a session that is gone, in which case a text that can be read is
answered. This takes more session ids than there are. -/
structure SpeaksAdrift (s : ServerState) (h : Handle) (p : Packet) : Prop where
  play : s.IsPlay h p
  method : p.method = Method.sessionChat
  adrift : ∃ id t, (s.connection h).session = some id ∧ s.lobby.session? id = none ∧
    p.body = utf8 t

/-- A request for the list of characters. -/
structure IsListRequest (p : Packet) : Prop where
  service : p.service = Service.game
  method : p.method = Method.characterListRequest

/-- How a packet is answered: by the log-in that it asks for, with a reply that needs nothing else,
or as a request about a session. -/
inductive Answering (s : ServerState) (h : Handle) (p : Packet) : Prop where
  | login (asks : AsksToLogIn p) {request : LoginRequest}
      (parsed : LoginRequest.parse p.body = .ok request)
      (may : (s.connection h).mayBeginAuth = true)
  | plain {method : UInt16} {body : Bytes} (limit : (p.reply method body).InLimit)
      (sent : s.handle .game h p = s.send h (p.reply method body))
  | request {request : GameRequest} (other : request ≠ .characterList)
      (refused : ∀ text, request = .chat text → ∃ e, s.refusal? h request = some e)
      (served : s.handle .game h p = s.serveRequest h p request)

/-- A packet that does not go to the game front end itself is served on its route. -/
theorem handle_of_route {route : Route} (taken : s.routeOf h p = route)
    (shared : route ≠ .forwarded) : s.handle .game h p = s.serveShared h p route := by
  rw [handle, handleAtGame, taken]
  cases route with
  | forwarded => exact absurd rfl shared
  | _ => rfl

/-- A request about a session is served as what it reads as. -/
theorem handle_of_read (play : s.IsPlay h p) {request : GameRequest}
    (reads : GameRequest.read p.method p.body = .ok (some request)) :
    s.handle .game h p = s.serveRequest h p request := by
  rw [handle_of_isPlay play, handlePlay, reads]

/-- Chat is answered to whoever is in no session, or names one that is gone. -/
theorem answering_of_chat (play : s.IsPlay h p) (method : p.method = Method.sessionChat)
    (refused : ∃ e, s.refusal? h (.chat p.body) = some e) : s.Answering h p := by
  have hread : GameRequest.read p.method p.body = .ok (some (.chat p.body)) := by
    rw [method]
    rfl
  refine .request (by simp) (fun _ _ => refused) (handle_of_read play hread)

/-- How each of the packets that are answered is. -/
theorem answering_of_answered (answered : s.IsAnswered h p ∨ s.SpeaksAdrift h p) :
    s.Answering h p := by
  have requested {request : GameRequest} (play : s.IsPlay h p)
      (reads : GameRequest.read p.method p.body = .ok (some request))
      (other : request ≠ .characterList) (silent : ∀ text, request ≠ .chat text) :
      s.Answering h p :=
    .request other (fun text htext => absurd htext (silent text)) (handle_of_read play reads)
  rcases answered with answered | ⟨play, method, adrift⟩
  · cases answered with
    | challenge service method =>
      have hroute : s.routeOf h p = .challenge := by
        rw [routeOf, Route.of, service, method]
        rfl
      exact .plain (Nat.zero_le _) (handle_of_route hroute (by simp))
    | ping service method body =>
      have hbody : isPingBody p.body = true := by
        rcases body with hempty | hkind
        · rw [hempty]
          rfl
        · obtain ⟨rest, hrest⟩ := List.head?_eq_some_iff.mp hkind
          rw [hrest]
          rfl
      have hroute : s.routeOf h p = .ping := by
        rw [routeOf, Route.of, service, method, hbody]
        rfl
      have hlimit : (p.reply Method.pong pongBody).InLimit := by
        change 1 ≤ maxBodySize
        decide
      exact .plain hlimit (handle_of_route hroute (by simp))
    | login asks parsed idle =>
      refine .login asks parsed ?_
      rcases idle with hidle | hidle <;> rw [Connection.mayBeginAuth, hidle] <;> rfl
    | create play method whole =>
      have hlength : p.body.length ≠ 1 := by omega
      obtain ⟨options, hread⟩ := GameRequest.read_createSession hlength
      exact requested play (method ▸ hread) (by simp) (by simp)
    | join play method whole =>
      obtain ⟨request, hwhich, hread⟩ := GameRequest.read_joinSession whole
      rcases hwhich with rfl | ⟨id, rfl⟩
      · exact requested play (method ▸ hread) (by simp) (by simp)
      · exact requested play (method ▸ hread) (by simp) (by simp)
    | options play method whole =>
      obtain ⟨options, hread⟩ := GameRequest.read_setSessionOptions whole
      exact requested play (method ▸ hread) (by simp) (by simp)
    | leave play method =>
      have hread : GameRequest.read p.method p.body = .ok (some .leave) := by
        rw [method]
        rfl
      exact requested play hread (by simp) (by simp)
    | chat play method free =>
      exact answering_of_chat play method ((exists_refusal?_chat_iff h).mpr (.inl free))
  · exact answering_of_chat play method ((exists_refusal?_chat_iff h).mpr (.inr adrift))

/-- A packet of the authentication service that is not answered sends nothing. -/
theorem sends_of_authentication (service : p.service = Service.authentication)
    (unanswered : ¬ s.IsAnswered h p) : Sends h [] s (s.handle .game h p) := by
  by_cases hchallenge : p.method = Method.challengeRequest
  · exact absurd (.challenge service hchallenge) unanswered
  by_cases hlogin : p.method = Method.loginRequest
  · have hasks : AsksToLogIn p := ⟨service, hlogin⟩
    have hstep : s.handle .game h p = (s.authenticate h p).2 := hasks.step_eq s .game h
    rw [hstep]
    cases hparse : LoginRequest.parse p.body with
    | error e =>
      rw [authenticate_of_error hparse]
      exact Posts.silent (.of_eq rfl rfl)
    | ok request =>
      cases hmay : (s.connection h).mayBeginAuth with
      | false =>
        rw [authenticate_of_busy hparse hmay]
        exact (Posts.refl s).silent
      | true =>
        refine absurd (.login hasks hparse ?_) unanswered
        simpa [Connection.mayBeginAuth] using hmay
  · have hroute : s.routeOf h p = .unknown := by
      simp [routeOf, Route.of, service, hchallenge, hlogin]
    rw [handle_of_route hroute (by simp)]
    exact (Posts.refl s).silent

/-- A packet of the connection service that is not answered sends nothing. -/
theorem sends_of_connection (service : p.service = Service.connection)
    (unanswered : ¬ s.IsAnswered h p) : Sends h [] s (s.handle .game h p) := by
  have hping : (p.method == Method.ping && isPingBody p.body) = false := by
    rw [Bool.and_eq_false_imp, beq_iff_eq]
    intro hmethod
    rw [← Bool.not_eq_true]
    intro hbody
    refine unanswered (.ping service hmethod ?_)
    cases hp : p.body with
    | nil => exact .inl rfl
    | cons kind rest =>
      rw [hp] at hbody
      exact .inr (congrArg some (beq_iff_eq.mp hbody))
  have hroute : s.routeOf h p = .unknown := by
    rw [routeOf, Route.of, service, hping]
    rfl
  rw [handle_of_route hroute (by simp)]
  exact (Posts.refl s).silent

/-- A request to the game service that is not answered, and not for the list of characters, sends
nothing to whoever makes it. -/
theorem sends_of_play (hl : s.lobby.Orderly) (play : s.IsPlay h p)
    (unanswered : ¬ (s.IsAnswered h p ∨ s.SpeaksAdrift h p)) (other : ¬ IsListRequest p) :
    Sends h [] s (s.handle .game h p) := by
  have hnot : ¬ s.IsAnswered h p := fun answered => unanswered (.inl answered)
  have unread {e : BodyError} (short : GameRequest.read p.method p.body = .error e) :
      Sends h [] s (s.handlePlay h p) := by
    rw [handlePlay_of_error short]
    exact Posts.silent (.of_eq rfl rfl)
  rw [handle_of_isPlay play]
  by_cases hcreate : p.method = Method.createSession
  · have hshort : p.body.length = 1 := by
      by_contra hlength
      exact hnot (.create play hcreate (by omega))
    exact unread (GameRequest.read_eq_error_iff.mpr (.inl ⟨hcreate, hshort, rfl⟩))
  by_cases hjoin : p.method = Method.joinSession
  · have hshort : p.body.length < 4 := by
      by_contra hlength
      exact hnot (.join play hjoin (by omega))
    exact unread (GameRequest.read_eq_error_iff.mpr (.inr (.inl ⟨hjoin, hshort, rfl⟩)))
  by_cases hoptions : p.method = Method.setSessionOptions
  · have hshort : p.body.length < 2 := by
      by_contra hlength
      exact hnot (.options play hoptions (by omega))
    exact unread (GameRequest.read_eq_error_iff.mpr (.inr (.inr ⟨hoptions, hshort, rfl⟩)))
  by_cases hleave : p.method = Method.leaveSession
  · exact absurd (.leave play hleave) hnot
  by_cases hchat : p.method = Method.sessionChat
  · rw [handlePlay_of_chat hchat]
    refine sends_relayChat h p hl fun hrefused => ?_
    exact unanswered (((exists_refusal?_chat_iff h).mp hrefused).imp (.chat play hchat)
      fun adrift => ⟨play, hchat, adrift⟩)
  · have hlist : p.method ≠ Method.characterListRequest := fun hlist =>
      other ⟨play.service, hlist⟩
    have hread : GameRequest.read p.method p.body = .ok none := by
      simp [GameRequest.read, hlist, hcreate, hjoin, hleave, hchat, hoptions]
    rw [handlePlay, hread]
    exact (Posts.refl s).silent

/-- A packet that is not answered sends nothing to whoever it comes from. -/
theorem sends_of_unanswered (hl : s.lobby.Orderly)
    (unanswered : ¬ (s.IsAnswered h p ∨ s.SpeaksAdrift h p))
    (other : ¬ (s.IsPlay h p ∧ IsListRequest p)) : Sends h [] s (s.handle .game h p) := by
  have hnot : ¬ s.IsAnswered h p := fun answered => unanswered (.inl answered)
  by_cases hauthentication : p.service = Service.authentication
  · exact sends_of_authentication hauthentication hnot
  by_cases hconnection : p.service = Service.connection
  · exact sends_of_connection hconnection hnot
  cases hlogged : (s.connection h).isAuthenticated with
  | false =>
    have hroute : s.routeOf h p = .refused := by
      simp [routeOf, Route.of, hlogged, hauthentication, hconnection]
    rw [handle_of_route hroute (by simp)]
    exact (waits_refuse s h p).posts.silent
  | true =>
    by_cases hgame : p.service = Service.game
    · have hplay : s.IsPlay h p := ⟨hlogged, hgame⟩
      exact sends_of_play hl hplay unanswered fun hlist => other ⟨hplay, hlist⟩
    · have hroute : s.routeOf h p = .forwarded := by
        simp [routeOf, Route.of, hlogged, hauthentication, hconnection]
      have hsame : s.handle .game h p = s := by
        rw [handle, handleAtGame, hroute]
        exact if_neg (by simpa using hgame)
      exact hsame.symm ▸ (Posts.refl s).silent

/-- Whoever asks for the list of characters gets one reply at most. -/
theorem sends_listCharacters (s : ServerState) (h : Handle) (p : Packet) :
    Sends h [] s (s.listCharacters h p) ∨
      ∃ payload, IsReplyTo p payload ∧ Sends h [payload] s (s.listCharacters h p) := by
  obtain ⟨s', hwaits, hnone | ⟨characters, hsent⟩⟩ := listCharacters_cases s h p
  · exact .inl (hnone ▸ hwaits.posts.silent)
  obtain ⟨payloads, hwhich, hposts⟩ := Posts.send s' h
    (p.reply Method.characterListResponse (characterListBody characters))
  rw [← hsent] at hposts
  have hsends := (hposts.after hwaits.posts).sends (Post.addresses_onlyTo payloads)
  rcases hwhich with rfl | ⟨limit, rfl⟩
  · exact .inl hsends
  · exact .inr ⟨_, isReplyTo_reply limit, hsends⟩

/-- What a packet queues: payloads to the connection that it comes from, if that is still open, and
to the others only what answers nobody. -/
structure Replies (s : ServerState) (h : Handle) (p : Packet) (own : List Bytes) : Prop where
  own : s.queuedBy (.packet .game h p) h =
    if ((s.handle .game h p).connection h).isOpen then own else []
  others : ∀ k, k ≠ h → ∀ payload ∈ s.queuedBy (.packet .game h p) k, IsUnasked payload

/-- What is sent is queued. -/
theorem Sends.replies {own : List Bytes} (sends : Sends h own s (s.handle .game h p))
    (hasWriter : (s.connection h).hasWriter = true) : s.Replies h p own := by
  obtain ⟨l, post, hreseated, hposts, hown, hothers⟩ := sends
  have hposts : ({ s with lobby := l } : ServerState).Posts post (s.step (.packet .game h p)) :=
    hposts
  constructor
  · rw [queuedBy_of_posts hreseated hposts (.inl hasWriter), hown]
    rfl
  · intro k hk payload hpayload
    exact hothers k hk payload (queuedBy_subset_of_posts hreseated hposts k hpayload)

/-- A log-in is answered, in two bytes, if its connection is still open. -/
theorem reply_loginEnd (s : ServerState) (h : Handle) (login : String) (stillOpen : Bool)
    (verdict : Option LoginFailure) :
    (s.loginEnd h login stillOpen verdict).reply.isSome = stillOpen ∧
      ((s.loginEnd h login stillOpen verdict).reply.getD []).length ≤ 2 := by
  cases stillOpen <;> cases verdict <;> simp [loginEnd]

/-- A log-in that begins gets one reply, if its connection stays open. -/
theorem replies_of_login (asks : AsksToLogIn p) {request : LoginRequest}
    (parsed : LoginRequest.parse p.body = .ok request)
    (may : (s.connection h).mayBeginAuth = true)
    (hasWriter : (s.connection h).hasWriter = true) :
    ∃ payload, IsReplyTo p payload ∧ s.Replies h p [payload] := by
  have hstep : s.step (.packet .game h p) = (s.authenticate h p).2 := asks.step_eq s .game h
  have hhandle : s.handle .game h p = (s.authenticate h p).2 := hstep
  obtain ⟨stillOpen, verdict, hreached⟩ : ∃ stillOpen verdict,
      (s.loginEnd h request.login stillOpen verdict).Reached s h p request.login
        (s.authenticate h p) := ⟨_, _, (reached_authenticate parsed may).1⟩
  obtain ⟨-, hshort⟩ := s.reply_loginEnd h request.login stillOpen verdict
  generalize s.loginEnd h request.login stillOpen verdict = e at hreached hshort
  have hlimit : (p.reply Method.loginResponse (e.reply.getD [])).InLimit :=
    hshort.trans (by decide)
  refine ⟨_, isReplyTo_reply hlimit, ?_, fun k hk => ?_⟩
  · rw [queuedBy, hstep, hhandle, hreached.queued, hreached.isOpen, LoginEnd.queued,
      Connection.takes, hasWriter, Bool.or_true]
    cases e.reply <;> rfl
  · obtain ⟨payloads, -, hposts⟩ := asides_authenticate s h p
    rw [← hstep] at hposts
    intro payload hpayload
    have hnone := queuedBy_subset_of_posts (.refl _) hposts k hpayload
    rw [Post.onlyTo_of_ne hk] at hnone
    cases hnone

/-- A packet that is answered gets one reply, if its connection stays open. -/
theorem replies_of_answering (hl : s.lobby.Orderly) (answering : s.Answering h p)
    (hasWriter : (s.connection h).hasWriter = true) :
    ∃ payload, IsReplyTo p payload ∧ s.Replies h p [payload] := by
  cases answering with
  | login asks parsed may => exact replies_of_login asks parsed may hasWriter
  | plain limit sent =>
    have hsends := sent ▸ sends_send s h limit
    exact ⟨_, isReplyTo_reply limit, Sends.replies hsends hasWriter⟩
  | request other refused served =>
    obtain ⟨r, hsends⟩ := sends_serveRequest h p hl other refused
    rw [← served] at hsends
    exact ⟨_, isReplyTo_reply (inLimit_sessionAnswer p r), hsends.replies hasWriter⟩

/-- A connection is open, and nothing that is going to come in between closes it. -/
structure StaysOpen (s : ServerState) (h : Handle) : Prop where
  isOpen : (s.connection h).isOpen = true
  undisturbed : ∀ d ∈ s.disturbances, d.2 ≠ .closes h

/-- It stays open while the store is called. -/
theorem StaysOpen.callStore {α : Type} (stays : s.StaysOpen h) (call : StoreCall)
    (override : Bool → Option α) (run : AccountStore → Except StoreError α × AccountStore) :
    (s.callStore call override run).2.StaysOpen h := by
  obtain ⟨hsub, hfound⟩ := takeDisturbance_spec call s.disturbances
  have hrest : ∀ d ∈ (takeDisturbance call s.disturbances).2, d.2 ≠ .closes h :=
    fun d hd => stays.undisturbed d (hsub hd)
  unfold ServerState.callStore
  dsimp only
  split
  · exact ⟨stays.isOpen, hrest⟩
  · next k hcloses =>
    have hother : h ≠ k := by
      rintro rfl
      exact stays.undisturbed _ (hfound _ hcloses) rfl
    refine ⟨?_, hrest⟩
    have hsame := connection_updateConnection_of_ne hother
      { s with disturbances := (takeDisturbance call s.disturbances).2 } Connection.close
    exact (congrArg Connection.isOpen hsame).trans stays.isOpen
  · exact ⟨stays.isOpen, hrest⟩
  · exact ⟨stays.isOpen, hrest⟩
  · split <;> exact ⟨stays.isOpen, hrest⟩
  · exact ⟨stays.isOpen, hrest⟩

/-- The connection of a log-in stays open if nothing closes it while the store is asked. -/
theorem isOpen_authenticate {request : LoginRequest}
    (parsed : LoginRequest.parse p.body = .ok request) (may : (s.connection h).mayBeginAuth = true)
    (stays : s.StaysOpen h) : ((s.authenticate h p).2.connection h).isOpen = true := by
  have hattempted : (s.attempted h request.login).StaysOpen h :=
    ⟨by rw [connection_attempted may]; exact stays.isOpen, stays.undisturbed⟩
  have hjudged : ((s.attempted h request.login).judgeCredentials request.login
      request.password).2.StaysOpen h :=
    judgeCredentials_keeps (motive := (·.StaysOpen h))
      (fun _ call override run holds => holds.callStore call override run)
      (fun _ _ holds => ⟨holds.isOpen, holds.undisturbed⟩) hattempted _ _
  obtain ⟨hreached, -, -⟩ := reached_authenticate parsed may
  rw [hreached.isOpen, (s.reply_loginEnd h request.login _ _).1]
  exact hjudged.isOpen

/-- Requests about sessions leave every connection open or closed. -/
theorem isOpen_requests (s : ServerState) :
    KeptByRequests fun s' => ∀ k, (s'.connection k).isOpen = (s.connection k).isOpen where
  send s' h p same k := by
    rw [ServerState.send, connection_updateConnection_eq, ← same k]
    split
    next hk => rw [Connection.isOpen_send, hk]
    · rfl
  notify s' session p excluding same k := by
    rw [← same k]
    unfold ServerState.notify Lobby.broadcast
    split
    · rfl
    next found =>
    rw [Lobby.broadcastReferred, Lobby.referred?_of_session? found]
    exact Session.isOpen_sendEach _ _ _ k
  move s' l reseated same k := (reseated k).isOpen.trans (same k)
  note _ _ _ same := same

/-- A connection whose packet is answered stays open, unless it asks to log in and is closed while
the store is asked. -/
theorem isOpen_of_answering (answering : s.Answering h p) (isOpen : (s.connection h).isOpen = true)
    (undisturbed : AsksToLogIn p → ∀ d ∈ s.disturbances, d.2 ≠ .closes h) :
    ((s.handle .game h p).connection h).isOpen = true := by
  cases answering with
  | login asks parsed may =>
    have hhandle : s.handle .game h p = (s.authenticate h p).2 := asks.step_eq s .game h
    rw [hhandle]
    exact isOpen_authenticate parsed may ⟨isOpen, undisturbed asks⟩
  | plain limit sent =>
    rw [sent, send, connection_updateConnection, Connection.isOpen_send]
    exact isOpen
  | request other refused served =>
    rw [served]
    exact ((isOpen_requests s).serveRequest h p (fun _ => rfl) other h).trans isOpen

/-- A packet gets one reply at most, and unless it asks for the list of characters it gets one
exactly if it is among those that are answered. -/
theorem exists_replies (hl : s.lobby.Orderly) (hasWriter : (s.connection h).hasWriter = true)
    (p : Packet) :
    ∃ own, (own = [] ∨ ∃ payload, IsReplyTo p payload ∧ own = [payload]) ∧ s.Replies h p own ∧
      (¬ IsListRequest p → (own ≠ [] ↔ s.IsAnswered h p ∨ s.SpeaksAdrift h p)) := by
  by_cases hanswered : s.IsAnswered h p ∨ s.SpeaksAdrift h p
  · obtain ⟨payload, hreply, hreplies⟩ :=
      replies_of_answering hl (answering_of_answered hanswered) hasWriter
    exact ⟨[payload], .inr ⟨payload, hreply, rfl⟩, hreplies, fun _ => by simp [hanswered]⟩
  by_cases hlist : s.IsPlay h p ∧ IsListRequest p
  · obtain ⟨hplay, hasks⟩ := hlist
    have hread : GameRequest.read p.method p.body = .ok (some .characterList) := by
      rw [hasks.method]
      rfl
    have hhandle : s.handle .game h p = s.listCharacters h p := handle_of_read hplay hread
    rcases hhandle ▸ sends_listCharacters s h p with hsilent | ⟨payload, hreply, hsends⟩
    · exact ⟨[], .inl rfl, hsilent.replies hasWriter, fun hnot => absurd hasks hnot⟩
    · exact ⟨[payload], .inr ⟨payload, hreply, rfl⟩, hsends.replies hasWriter,
        fun hnot => absurd hasks hnot⟩
  · exact ⟨[], .inl rfl, (sends_of_unanswered hl hanswered hlist).replies hasWriter,
      fun _ => by simp [hanswered]⟩

/-- In a consistent lobby a session that somebody names is there. -/
theorem not_speaksAdrift {drawn : Nat} (hl : s.lobby.Consistent drawn) :
    ¬ s.SpeaksAdrift h p := by
  rintro ⟨-, -, id, t, hnamed, hgone, -⟩
  have hheld := Lobby.session?_isSome_iff.mpr (hl.known h id hnamed)
  rw [hgone] at hheld
  cases hheld

/-- Whatever has happened, and whatever packet comes in at the game front end over an open connection
that can write. The connection is queued one reply at most, on the service of the packet and under
its correlation id, and all that is queued to others carries the correlation id 0. Unless the list of
characters is asked for, there is a reply exactly if the packet is one of those that are answered and
the connection is still open; and it is, unless the packet asks to log in and the connection is closed
while the store is asked. Chat of somebody who names a session that is gone is the only other packet
with a reply, and there is none before the 32-bit counter of session ids has run out. -/
theorem replies_of_run {s : ServerState} {maxPlayers maxSessions : Nat} {cs : Connections}
    (start : s.lobby = .new maxPlayers maxSessions cs) (events : List Event) {h : Handle}
    (isOpen : ((s.run events).connection h).isOpen = true)
    (hasWriter : ((s.run events).connection h).hasWriter = true) (p : Packet) :
    let now := s.run events
    let queued := now.queuedBy (.packet .game h p)
    let staysOpen := ((now.handle .game h p).connection h).isOpen = true
    (queued h = [] ∨ ∃ payload, IsReplyTo p payload ∧ queued h = [payload]) ∧
      (∀ k, k ≠ h → ∀ payload ∈ queued k, IsUnasked payload) ∧
      (¬ IsListRequest p →
        (queued h ≠ [] ↔ (now.IsAnswered h p ∨ now.SpeaksAdrift h p) ∧ staysOpen)) ∧
      (now.IsAnswered h p → (AsksToLogIn p → ∀ d ∈ now.disturbances, d.2 ≠ .closes h) →
        staysOpen) ∧
      ((∀ c ∈ cs.opened, c.session = none) → s.idsDrawn events < 2 ^ 32 - 1 →
        ¬ now.SpeaksAdrift h p) := by
  intro now queued staysOpen
  have hl : now.lobby.Orderly := orderly_run (start ▸ Lobby.orderly_new _ _ _) events
  obtain ⟨own, hone, ⟨hown, hothers⟩, hiff⟩ := exists_replies hl hasWriter p
  have hown : queued h = if staysOpen then own else [] := hown
  refine ⟨?_, hothers, fun hother => ?_, fun hanswered undisturbed => ?_, fun free room => ?_⟩
  · rw [hown]
    split
    · exact hone
    · exact .inl rfl
  · rw [hown, ← hiff hother]
    split
    next hopen => simp [hopen]
    next hclosed => simp [hclosed]
  · exact isOpen_of_answering (answering_of_answered (.inl hanswered)) isOpen undisturbed
  · have hnew : s.lobby.Consistent 0 := start ▸ Lobby.consistent_new _ _ free
    exact not_speaksAdrift (consistent_run hnew events (by omega))

/-- A player joins the session that another one has opened. The join is answered, and announced to
the other player under the correlation id 0. -/
theorem replies_of_run_join :
    let before := twoPlayers.run [.packet .game 0 ⟨Service.game, Method.createSession, 1, []⟩]
    let joins : Packet := ⟨Service.game, Method.joinSession, 2, [0, 0, 0, 1]⟩
    (before.connection 1).isOpen = true ∧ (before.connection 1).hasWriter = true ∧
      ¬ IsListRequest joins ∧ before.IsAnswered 1 joins ∧ ¬ before.SpeaksAdrift 1 joins ∧
      (∃ payload, IsReplyTo joins payload ∧
        before.queuedBy (.packet .game 1 joins) 1 = [payload]) ∧
      before.queuedBy (.packet .game 1 joins) 0 ≠ [] ∧
      ∀ payload ∈ before.queuedBy (.packet .game 1 joins) 0, IsUnasked payload := by
  intro before joins
  have hopen : (before.connection 1).isOpen = true := by decide +kernel
  have hwriter : (before.connection 1).hasWriter = true := by decide +kernel
  have hother : ¬ IsListRequest joins := fun hlist => absurd hlist.method (by decide)
  have hanswered : before.IsAnswered 1 joins := .join ⟨by decide +kernel, rfl⟩ rfl (by decide)
  have hlogsIn : ¬ AsksToLogIn joins := fun hasks => absurd hasks.service (by decide)
  have hroom : twoPlayers.idsDrawn [.packet .game 0 ⟨Service.game, Method.createSession, 1, []⟩] <
      2 ^ 32 - 1 := by decide +kernel
  have hannounced : before.queuedBy (.packet .game 1 joins) 0 ≠ [] := by decide +kernel
  obtain ⟨hone, hothers, hiff, hstays, hadrift⟩ := replies_of_run (s := twoPlayers) rfl
    [.packet .game 0 ⟨Service.game, Method.createSession, 1, []⟩] hopen hwriter joins
  have hstill := hstays hanswered fun hasks => absurd hasks hlogsIn
  have hsome := (hiff hother).mpr ⟨.inl hanswered, hstill⟩
  exact ⟨hopen, hwriter, hother, hanswered, hadrift (by decide) hroom, hone.resolve_left hsome,
    hannounced, hothers 0 (by decide)⟩

end PlayServer.ServerState
