import PlayServer.Proofs.Server.Answer

/-!
# Turns of a server

Whatever a server does to its sessions it does in a turn: the lobby makes moves, in which
connections at most change places, and then packets are posted, which announce exactly who has
changed places.

A packet concerns nobody but the connection that it comes from and the members of the session that
this connection names before or after: `serves_handle`.
-/

namespace PlayServer.ServerState

/-- Whoever has logged in has done so under a login that fits into a notice. -/
def Identified (s : ServerState) : Prop := ∀ h, (s.connection h).Identified

/-- The lobby has made moves, in which at most one session id is drawn, at most players who have
logged in are admitted and connections at most change places, and then packets have been posted to
some connections, which announce who has changed places. -/
structure Turn (who : Handle → Prop) (s : ServerState) (l : Lobby) (post : Post)
    (s' : ServerState) : Prop where
  moves : ∃ n ≤ 1, Lobby.Moves (fun h => (s.connection h).isAuthenticated = true) s.lobby n l
  reseated : s.lobby.connections.Reseated l.connections
  posts : { s with lobby := l }.Posts post s'
  packets : post.IsFor who
  announced : s.Identified → ∀ drawn, l.Consistent drawn → s.lobby.Announced l post

/-- A server has taken a turn. -/
def Turns (s s' : ServerState) : Prop := ∃ l post, s.Turn (fun _ => True) l post s'

/-- A server has taken a turn that concerns nobody but a connection and its fellows: no other
connection, and no session that it does not name before or after, has changed. -/
def Serves (h : Handle) (s s' : ServerState) : Prop :=
  ∃ l post, s.Turn (s.lobby.Concerned h l) l post s' ∧ s.lobby.ChangesOnly h l

section Turns

variable {s s' : ServerState} {drawn : Nat} {h : Handle}

/-- Serving a connection is a turn. -/
theorem Serves.turns (serves : Serves h s s') : s.Turns s' := by
  obtain ⟨l, post, turn, -⟩ := serves
  exact ⟨l, post, { turn with packets := turn.packets.mono fun _ _ => trivial }⟩

/-- Moves that admit nobody and change no connection are a turn that needs no notices. -/
theorem turn_of_quiet {who : Handle → Prop} {l : Lobby} {post : Post}
    (hl : s.lobby.Consistent drawn) (quiet : Lobby.QuietMoves s.lobby l)
    (seats : l.connections = s.lobby.connections) (posts : { s with lobby := l }.Posts post s')
    (packets : post.IsFor who) (silent : ∀ k, notices (post k) = []) : s.Turn who l post s' where
  moves := ⟨0, by omega, quiet.of_quiet⟩
  reseated := seats ▸ .refl _
  posts := posts
  packets := packets
  announced _ drawn' hl' := by
    have hseats : ∀ k, (l.connection k).session = (s.lobby.connection k).session := by
      intro k
      rw [Lobby.connection, seats, Lobby.connection]
    have hkept : ∀ id, ∀ m ∈ l.roster id, m ∈ s.lobby.roster id :=
      fun id m hm => Lobby.mem_roster_of_quiet hl hl' quiet hseats hm
    exact Lobby.announced_of_seats hl hl' hkept hseats silent

/-- Moves that admit nobody and change no connection are a turn in which nothing is posted. -/
theorem turns_of_quiet {l : Lobby} (hl : s.lobby.Consistent drawn)
    (quiet : Lobby.QuietMoves s.lobby l) (seats : l.connections = s.lobby.connections)
    (posts : { s with lobby := l }.Posts .nobody s') : s.Turns s' :=
  ⟨l, .nobody, turn_of_quiet hl quiet seats posts Post.isFor_nobody fun _ => rfl⟩

/-- Packets posted to a connection and its fellows that are no notices serve it. -/
theorem Posts.serves {post : Post} (hl : s.lobby.Consistent drawn) (posts : s.Posts post s')
    (packets : post.IsFor (s.lobby.Concerned h s.lobby)) (silent : ∀ k, notices (post k) = []) :
    Serves h s s' :=
  ⟨s.lobby, post, turn_of_quiet hl .refl rfl posts packets silent, .refl h s.lobby⟩

/-- Answering a connection serves it. -/
theorem Answers.serves (hl : s.lobby.Consistent drawn) (answers : Answers h s s') :
    Serves h s s' := by
  obtain ⟨payloads, ⟨hanswers, -⟩, hposts⟩ := answers
  exact hposts.serves hl (hanswers.isFor (.inl rfl)) (hanswers.silent h)

/-- A player who joins hears of it, and the other members are told. -/
theorem serves_concludeJoin {l : Lobby} {result : Except SessionError SessionSummary}
    (hl : s.lobby.Consistent drawn) (outcome : Lobby.JoinOutcome s.lobby h (result, l))
    (moves : ∃ n ≤ 1, Lobby.Moves (· = h) s.lobby n l)
    (authenticated : (s.connection h).isAuthenticated = true) (p : Packet) :
    Serves h s ({ s with lobby := l }.concludeJoin h p result) := by
  have hmoves : ∃ n ≤ 1, Lobby.Moves (fun k => (s.connection k).isAuthenticated = true)
      s.lobby n l := by
    obtain ⟨n, hn, hmoves⟩ := moves
    exact ⟨n, hn, hmoves.mono fun k hk => by rwa [show k = h from hk]⟩
  have hchanges := Lobby.ChangesOnly.of_join outcome
  generalize hresult : (result, l) = pair at outcome
  cases outcome with
  | refused sessions connections =>
    obtain ⟨rfl, rfl⟩ : _ ∧ _ := by simpa using hresult
    obtain ⟨payloads, ⟨hanswers, -⟩, hposts⟩ := Answers.respond { s with lobby := l } h p
      (.refusal _ (l.connection h).session)
    have hseats (k : Handle) : (l.connection k).session = (s.lobby.connection k).session := by
      rw [Lobby.connection, connections, Lobby.connection]
    refine ⟨l, _, ⟨hmoves, connections ▸ .refl _, hposts, hanswers.isFor (.inl rfl),
      fun _ drawn' hl' => ?_⟩, hchanges⟩
    apply Lobby.announced_of_seats hl hl' _ hseats (hanswers.silent h)
    intro id m hm
    rwa [Lobby.roster_congr (congrFun sessions id)] at hm
  | @admitted summary _ admits =>
    obtain ⟨rfl, rfl⟩ : _ ∧ _ := by simpa using hresult
    have hreseated : s.lobby.connections.Reseated l.connections := by
      rw [admits.connections]
      exact Connections.reseated_set rfl
    have hself : l.connection h = { s.connection h with session := some summary.id } := by
      rw [Lobby.connection, admits.connections, Connections.get_set, if_pos rfl]
      rfl
    have hlogin (identified : s.Identified) :
        (l.connection h).login.getD "" = Session.loginOf (s.lobby.connection h) := by
      obtain ⟨login, hlogin, -⟩ := identified h authenticated
      have hlogin' : (s.lobby.connection h).login = some login := hlogin
      rw [hself]
      simp [Session.loginOf, hlogin, hlogin']
    have hconcluded := posts_concludeJoin { s with lobby := l } h p summary
    have hanswers := areAnswers_sessionAnswer p (.ofSummary summary)
    refine ⟨l, _, ⟨hmoves, hreseated, hconcluded, (hanswers.isFor (.inl rfl)).andThen ?_,
      fun identified drawn' hl' => ?_⟩, hchanges⟩
    · apply Post.isFor_toEach (inLimit_playerNotice _ _)
      intro m hm
      have hnamed : (l.connection h).session = some summary.id := by rw [hself]
      exact .inr (.inr ⟨summary.id, hnamed, List.mem_map_of_mem (List.mem_of_mem_filter hm)⟩)
    · apply admits.announced hl hl'
      intro k
      have hmember : h ∈ l.seated summary.id := by
        rw [hl'.mem_seated_iff, hself]
      rw [Post.andThen, notices_append, hanswers.silent, List.nil_append,
        hl'.toOthers_eq hmember, hlogin identified]
      split
      · exact notices_joinedNotice _
      · rfl

/-- A player who leaves a session is announced to those who stay, whatever else is answered. -/
theorem turn_leave {who : Handle → Prop} {d : Departure} {l : Lobby} {post : Post}
    (hl : s.lobby.Consistent drawn) (left : s.lobby.leave h = (.ok d, l))
    (posts : { s with lobby := l }.Posts post s') (packets : post.IsFor who)
    (told : ∀ drawn, l.Consistent drawn → ∀ k,
      notices (post k) = if k ∈ l.seated d.session then [leftNotice d.login] else []) :
    s.Turn who l post s' := by
  have hmoves := s.lobby.quietMoves_leave h
  have houtcome := Lobby.leaveOutcome_leave hl h
  rw [left] at hmoves houtcome
  cases houtcome with
  | dismissed dismisses =>
    have hreseated : s.lobby.connections.Reseated l.connections := by
      rw [dismisses.connections]
      exact Connections.reseated_set (Connection.reseated_releaseSession _ _)
    exact ⟨⟨0, by omega, hmoves.of_quiet⟩, hreseated, posts, packets,
      fun _ drawn' hl' => dismisses.announced hl hl' (told drawn' hl')⟩

/-- What announces departures are packets. -/
theorem isFor_departures (l : Lobby) (departures : List Departure) :
    Post.IsFor (fun k => departures.flatMap fun d =>
      Post.toEach (l.roster d.session) (leftNotice d.login) k) fun _ => True := by
  intro k payload hpayload
  obtain ⟨d, -, hd⟩ := List.mem_flatMap.mp hpayload
  have hnotice : (Post.toEach (l.roster d.session) (leftNotice d.login)).IsFor fun _ => True :=
    Post.isFor_toEach (inLimit_playerNotice Method.playerLeft d.login) fun _ _ => trivial
  exact hnotice k payload hd

/-- What a departure announced to the members comes to for one connection. -/
theorem notices_departure {l : Lobby} (hl : l.Consistent drawn) (d : Departure) (k : Handle) :
    notices (Post.toEach (l.roster d.session) (leftNotice d.login) k) =
      if k ∈ l.seated d.session then [leftNotice d.login] else [] := by
  rw [hl.toEach_roster]
  split
  · exact notices_leftNotice _
  · rfl

/-- What departures announced to the members come to for one connection: the notices of those from
its own session. -/
theorem notices_departures {l : Lobby} (hl : l.Consistent drawn) (departures : List Departure)
    (k : Handle) :
    notices (departures.flatMap fun d =>
        Post.toEach (l.roster d.session) (leftNotice d.login) k) =
      departures.flatMap fun d => if k ∈ l.seated d.session then [leftNotice d.login] else [] := by
  induction departures with
  | nil => rfl
  | cons d rest ih =>
    rw [List.flatMap_cons, List.flatMap_cons, notices_append, notices_departure hl, ih]

/-- The notices of departures from one session are those of the logins that have left it. -/
theorem leftNotices_of_session (departures : List Departure) (id : SessionId) :
    departures.flatMap (fun d => if d.session = id then [leftNotice d.login] else []) =
      (Lobby.loginsOf departures id).map leftNotice := by
  rw [Lobby.loginsOf, List.map_map]
  induction departures with
  | nil => rfl
  | cons d rest ih =>
    by_cases hd : d.session = id
    · simp [hd, ih]
    · simp [hd, ih]

end Turns

section Requests

variable {s : ServerState} {drawn : Nat} (h : Handle) (p : Packet)

/-- Leaving concerns those who stay. -/
theorem serves_leaveSession (hl : s.lobby.Consistent drawn) : Serves h s (s.leaveSession h p) := by
  rcases leaveSession_cases hl h p with ⟨e, hrefused⟩ | ⟨d, l, hleft, hdismisses, hposts⟩
  · exact hrefused ▸ (Answers.respond s h p _).serves hl
  · have hanswers := areAnswers_sessionAnswer p (.left d.session)
    have hfellows : (Post.toEach (l.roster d.session) (leftNotice d.login)).IsFor
        (s.lobby.Concerned h l) := by
      apply Post.isFor_toEach (inLimit_playerNotice Method.playerLeft d.login)
      intro m hm
      exact .inr (.inl (hdismisses.fellow hl (List.mem_map_of_mem hm)))
    refine ⟨l, _, turn_leave hl hleft hposts
      ((hanswers.isFor (.inl rfl)).andThen hfellows) ?_, .of_leave hl (.dismissed hdismisses)⟩
    intro drawn' hl' k
    rw [Post.andThen, notices_append, hanswers.silent, List.nil_append]
    exact notices_departure hl' d k

/-- Relaying chat concerns the fellows of whoever speaks. -/
theorem serves_relayChat (hl : s.lobby.Consistent drawn) (text : Bytes) :
    Serves h s (s.relayChat h p text) := by
  rcases s.relayChat_cases h p text with
    ⟨e, -, hrefused⟩ | ⟨-, hunread | ⟨session, text', named, hrelayed⟩⟩
  · exact hrefused ▸ (Answers.respond s h p _).serves hl
  · exact hunread.serves hl Post.isFor_nobody fun _ => rfl
  · refine hrelayed.serves hl ?_ (notices_toEach (isNotice_encode _) _)
    apply Post.isFor_toEach (inLimit_chatNotice _ _ _)
    intro m hm
    exact .inr (.inl ⟨session, named, List.mem_map_of_mem (List.mem_of_mem_filter hm)⟩)

/-- Changing options concerns the members of the session. -/
theorem serves_changeOptions (hl : s.lobby.Consistent drawn)
    (options : Except SessionError SessionOptions) :
    Serves h s (s.changeOptions h p options) := by
  cases options with
  | error e => exact (Answers.respond s h p _).serves hl
  | ok options =>
    have houtcome := s.lobby.optionsOutcome_setOptions h options
    have hsame := s.lobby.connections_setOptions h options
    have hmoves := s.lobby.quietMoves_setOptions h options
    have hchanges := Lobby.ChangesOnly.of_setOptions s.lobby h options
    rw [changeOptions]
    generalize s.lobby.setOptions h options = outcome at houtcome hsame hmoves hchanges ⊢
    cases houtcome with
    | refused => exact (Answers.respond s h p _).serves hl
    | @changed session named held member host =>
      have hanswers := areAnswers_sessionAnswer p
        (.ofSummary (Session.summary { session with options }))
      have hconcluded := posts_concludeOptions
        { s with lobby := s.lobby.store { session with options } } h p
        (Session.summary { session with options })
      refine ⟨_, _, turn_of_quiet hl hmoves hsame hconcluded
        ((hanswers.isFor (.inl rfl)).andThen ?_) fun k => ?_, hchanges⟩
      · apply Post.isFor_toEach (inLimit_replyNotice _ _)
        intro m hm
        refine .inr (.inr ⟨session.id, ?_, List.mem_map_of_mem (List.mem_of_mem_filter hm)⟩)
        rwa [Lobby.connection, hsame]
      · rw [Post.andThen, notices_append, hanswers.silent, List.nil_append]
        exact notices_toEach (isNotice_encode _) _ k

/-- A request about a session serves whoever makes it. -/
theorem serves_serveRequest (hl : s.lobby.Consistent drawn)
    (authenticated : (s.connection h).isAuthenticated = true) (request : GameRequest) :
    Serves h s (s.serveRequest h p request) := by
  cases request with
  | characterList => exact (asides_listCharacters s h p).answers.serves hl
  | create options =>
    cases options with
    | error e => exact (Answers.respond s h p _).serves hl
    | ok options =>
      exact serves_concludeJoin hl (Lobby.joinOutcome_createAndJoin hl h options)
        (s.lobby.moves_createAndJoin h options) authenticated p
  | join id =>
    exact serves_concludeJoin hl (s.lobby.joinOutcome_join id h)
      ⟨0, by omega, s.lobby.moves_join id h⟩ authenticated p
  | joinAny =>
    exact serves_concludeJoin hl (Lobby.joinOutcome_findOrCreateAndJoin hl h)
      (s.lobby.moves_findOrCreateAndJoin h) authenticated p
  | leave => exact serves_leaveSession h p hl
  | chat text => exact serves_relayChat h p hl text
  | setOptions options => exact serves_changeOptions h p hl options

/-- Handling a packet serves the connection that it comes from. -/
theorem serves_handle (hl : s.lobby.Consistent drawn) (front : Front) :
    Serves h s (s.handle front h p) := by
  rcases s.handle_cases front h p with hasides | ⟨-, request, hrequest, heq⟩
  · exact hasides.answers.serves hl
  · rw [heq]
    exact serves_serveRequest h p hl (isAuthenticated_of_forwarded hrequest.1) request

/-- Handling a packet changes nobody's log-in but that of the connection that it comes from. -/
theorem keepsLogins_handle (s : ServerState) (front : Front) :
    KeepsLogins h s (s.handle front h p) := by
  rcases s.handle_cases front h p with ⟨payloads, ⟨-, hlogins⟩, -⟩ | ⟨-, request, hrequest, heq⟩
  · exact hlogins
  rw [heq]
  exact KeepsLogins.of_effect (effect_serveRequest_of_ne s h p hrequest.2.2.2)

end Requests

section Housekeeping

variable {s : ServerState} {drawn : Nat}

/-- The end of a connection is a turn. -/
theorem turns_leaveOnDisconnect (hl : s.lobby.Consistent drawn) (h : Handle) :
    s.Turns (s.leaveOnDisconnect h) := by
  rcases leaveOnDisconnect_cases hl h with ⟨-, hsame⟩ | ⟨d, l, hleft, -, hposts⟩
  · rw [hsame]
    exact turns_of_quiet hl .refl rfl (.refl s)
  · have hpackets : (Post.toEach (l.roster d.session) (leftNotice d.login)).IsFor
        fun _ => True :=
      Post.isFor_toEach (inLimit_playerNotice Method.playerLeft d.login) fun _ _ => trivial
    exact ⟨l, _, turn_leave hl hleft hposts hpackets fun drawn' hl' => notices_departure hl' d⟩

/-- A pass of the scheduler is a turn, unless the time of a session overflows. -/
theorem turns_tick (hl : s.lobby.Consistent drawn) {delta : Duration}
    (ticked : (s.tick delta).1 = .ok ()) : s.Turns (s.tick delta).2 := by
  have hmoves := s.lobby.quietMoves_tickAll delta
  have hreseated := s.lobby.reseated_tickAll delta
  obtain ⟨departures, l, hpass, hposts⟩ := exists_posts_tick ticked
  rw [hpass] at hmoves hreseated
  obtain ⟨hstayed, hlogins⟩ := Lobby.tickAll_spec hl hpass
  refine ⟨l, _, ⟨0, by omega, hmoves.of_quiet⟩, hreseated, hposts,
    isFor_departures l departures, fun _ _ hl' => ?_⟩
  have hall := notices_departures hl' departures
  apply Lobby.announced_of_closed hstayed
  · intro id k hk
    have hown : (fun d : Departure => if k ∈ l.seated d.session then [leftNotice d.login] else []) =
        fun d => if d.session = id then [leftNotice d.login] else [] := by
      funext d
      have hiff : k ∈ l.seated d.session ↔ d.session = id :=
        ⟨fun hk' => hl'.seated_unique hk' hk, fun he => he ▸ hk⟩
      simp only [hiff]
    rw [hall, hown, leftNotices_of_session, hlogins, List.map_map]
    rfl
  · intro k hk
    rw [hall]
    simp [hk]

/-- Reclaiming the sessions without members is a turn. -/
theorem turns_sweep (hl : s.lobby.Consistent drawn) : s.Turns s.sweep :=
  turns_of_quiet hl (.quiet .reclaimed rfl) rfl (.of_eq rfl rfl)

end Housekeeping

end PlayServer.ServerState
