import PlayServer.Proofs.Audit.Trail
import PlayServer.Proofs.Lobby.Places
import PlayServer.Proofs.Server.Announcement

/-!
# The audit trail of play sessions

Whoever joins a session is on record, and so is whoever leaves one or is taken out because the
reading of the connection has ended. The passes of the scheduler take members out as well, when
their connections have closed before; the other members are told, but the audit log is not.
`audit_of_run` is the account: records of joining are as many as records of leaving, players whom
passes have taken out, and players who are still there.
-/

namespace PlayServer

/-- Whether a record tells that a player has joined a session. -/
def AuditRecord.isArrival (r : AuditRecord) : Bool := r.description == "Joined game session"

/-- Whether a record tells that a player has left a session. -/
def AuditRecord.isDeparture (r : AuditRecord) : Bool := r.description == "Left game session"

namespace ServerState

/-- What an event puts on record. -/
def auditedBy (s : ServerState) (e : Event) : List AuditRecord := (s.step e).audit.since s.audit

/-- A record names a session and the login of a connection, and says so if it left the session
because it had ended. -/
structure Names (s : ServerState) (r : AuditRecord) (place : SessionId × Handle) : Prop where
  category : r.category = .gameSession
  actor : (s.connection place.2).login = some r.actor
  details : r.details = place.1.print ∨
    r.isDeparture = true ∧ r.details = place.1.print ++ " (disconnected)"

/-- A few records have been made, and none of them tells of joining or leaving a session. -/
def RecordsAside (s s' : ServerState) : Prop :=
  ∃ rs, s'.audit = s.audit.recordAll rs ∧ rs.length ≤ 2 ∧
    ∀ r ∈ rs, r.isArrival = false ∧ r.isDeparture = false

namespace RecordsAside

variable {s s' s'' : ServerState}

/-- Nothing has been recorded. -/
theorem of_eq (same : s'.audit = s.audit) : RecordsAside s s' :=
  ⟨[], same, by simp, by simp⟩

/-- One record has been made. -/
theorem of_record {r : AuditRecord} (recorded : s'.audit = s.audit.record r)
    (other : r.isArrival = false ∧ r.isDeparture = false) : RecordsAside s s' :=
  ⟨[r], recorded, by simp, by simpa using other⟩

/-- Two records have been made. -/
theorem of_records {r r' : AuditRecord} (recorded : s'.audit = (s.audit.record r).record r')
    (other : r.isArrival = false ∧ r.isDeparture = false)
    (other' : r'.isArrival = false ∧ r'.isDeparture = false) : RecordsAside s s' :=
  ⟨[r, r'], recorded, by simp, by simpa using ⟨other, other'⟩⟩

/-- What has been recorded since then tells of no joining or leaving. -/
theorem since_eq (h : RecordsAside s s') : (s'.audit.since s.audit).filter (·.isArrival) = [] ∧
    (s'.audit.since s.audit).filter (·.isDeparture) = [] := by
  obtain ⟨rs, hrecorded, hfew, hother⟩ := h
  have hsuffix : s'.audit.since s.audit <:+ rs :=
    hrecorded ▸ AuditLog.since_recordAll_suffix (hfew.trans_lt (by decide)) s.audit
  constructor
  · rw [List.filter_eq_nil_iff]
    intro r hr
    simp [(hother r (hsuffix.subset hr)).1]
  · rw [List.filter_eq_nil_iff]
    intro r hr
    simp [(hother r (hsuffix.subset hr)).2]

end RecordsAside

section Recorded

variable (s : ServerState) (h : Handle) (p : Packet)

/-- Calling the store records nothing. -/
theorem audit_callStore {α : Type} (call : StoreCall) (override : Bool → Option α)
    (run : AccountStore → Except StoreError α × AccountStore) :
    (s.callStore call override run).2.audit = s.audit := by
  unfold callStore
  dsimp only
  split
  · rfl
  · rfl
  · rfl
  · rfl
  · split <;> rfl
  · rfl

/-- Judging credentials records nothing. -/
theorem audit_judgeCredentials (login password : String) :
    (s.judgeCredentials login password).2.audit = s.audit :=
  judgeCredentials_keeps (motive := fun s' => s'.audit = s.audit)
    (fun s' call override run same => (audit_callStore s' call override run).trans same)
    (fun _ _ same => same) rfl login password

/-- A log-in request is recorded, but no joining or leaving. -/
theorem recordsAside_authenticate : RecordsAside s (s.authenticate h p).2 := by
  unfold authenticate
  split
  · exact .of_record rfl ⟨rfl, rfl⟩
  next request _ =>
  split
  · exact .of_eq rfl
  dsimp only
  generalize hs₁ : (s.updateConnection h Connection.beginAuth).record _ = s₁
  have hjudged := s₁.audit_judgeCredentials request.login request.password
  have hattempt : s₁.audit = s.audit.record ((s.updateConnection h Connection.beginAuth).loginRecord
      h request.login "Authentication attempt" .success "") := by
    subst hs₁
    rfl
  rw [hattempt] at hjudged
  generalize s₁.judgeCredentials request.login request.password = judged at hjudged ⊢
  obtain ⟨verdict, s₂⟩ := judged
  have hended {r : AuditRecord} {s₃ : ServerState} (recorded : s₃.audit = s₂.audit.record r)
      (other : r.isArrival = false ∧ r.isDeparture = false) : RecordsAside s s₃ :=
    .of_records (recorded.trans (congrArg (·.record r) hjudged)) ⟨rfl, rfl⟩ other
  dsimp only
  split
  · cases verdict with
    | none => exact hended rfl ⟨rfl, rfl⟩
    | some failure => exact hended rfl ⟨rfl, rfl⟩
  · exact hended rfl ⟨rfl, rfl⟩

/-- What both front ends serve is no joining or leaving. -/
theorem recordsAside_serveShared (route : Route) : RecordsAside s (s.serveShared h p route) := by
  cases route with
  | challenge => exact .of_eq rfl
  | login => exact recordsAside_authenticate s h p
  | ping => exact .of_eq rfl
  | refused => exact .of_record rfl ⟨rfl, rfl⟩
  | unknown => exact .of_eq rfl
  | forwarded => exact .of_eq rfl

/-- Listing characters records nothing. -/
theorem audit_listCharacters : (s.listCharacters h p).audit = s.audit := by
  unfold listCharacters
  split
  · rfl
  next login _ =>
  have hasked : (s.charactersOf login).2.audit = s.audit := audit_callStore s _ _ _
  generalize s.charactersOf login = asked at hasked ⊢
  obtain ⟨e | characters, s'⟩ := asked
  · dsimp only
    split <;> exact hasked
  · dsimp only
    split <;> exact hasked

/-- A packet that is no request about a session puts no joining or leaving on record. -/
theorem recordsAside_handle (front : Front)
    (other : front = .game → ∀ request, ¬ s.IsSessionRequest h p request) :
    RecordsAside s (s.handle front h p) := by
  cases front with
  | gateway => exact recordsAside_serveShared s h p _
  | game =>
    unfold handle handleAtGame
    dsimp only
    split
    · next forwarded =>
      split
      · next hservice =>
        unfold handlePlay
        split
        · exact .of_eq rfl
        · exact .of_eq rfl
        · next request hread =>
          by_cases hlist : request = .characterList
          · subst hlist
            exact .of_eq (audit_listCharacters s h p)
          · exact absurd ⟨forwarded, by simpa using hservice, hread, hlist⟩ (other rfl request)
      · exact .of_eq rfl
    · exact recordsAside_serveShared s h p _

/-- Announcing departures records nothing. -/
theorem audit_announceDepartures (departures : List Departure) :
    (departures.foldl announceDeparture s).audit = s.audit := by
  induction departures generalizing s with
  | nil => rfl
  | cons d rest ih => exact ih (s.announceDeparture d)

/-- A pass of the scheduler records nothing. -/
theorem audit_tick (delta : Duration) : (s.tick delta).2.audit = s.audit := by
  unfold tick
  split
  · rfl
  · exact audit_announceDepartures _ _

/-- A run of a writer records nothing. -/
theorem audit_settle : s.settle.audit = s.audit := by
  have hone (s : ServerState) (h : Handle) : (s.runWriter h).audit = s.audit := by
    unfold runWriter absorb
    dsimp only
    split
    · rfl
    · split <;> rfl
  have hall (hs : List Handle) (s : ServerState) : (hs.foldl runWriter s).audit = s.audit := by
    induction hs generalizing s with
    | nil => rfl
    | cons h rest ih => exact (ih (s.runWriter h)).trans (hone s h)
  exact hall _ _

end Recorded

/-- Whoever has logged in has a login. -/
theorem InOrder.player_of_isAuthenticated {s : ServerState} {drawn : Nat} (hs : s.InOrder drawn)
    {h : Handle} (authenticated : (s.connection h).isAuthenticated = true) :
    ∃ login, (s.connection h).loginState = (.authenticated, some login) := by
  obtain ⟨login, hlogin, -⟩ := hs.identified h authenticated
  have hauth : (s.connection h).auth = .authenticated := by
    simpa [Connection.isAuthenticated] using authenticated
  exact ⟨login, by rw [Connection.loginState, hauth, hlogin]⟩

/-- Whoever belongs to a session has logged in. -/
theorem InOrder.player_of_session {s : ServerState} {drawn : Nat} (hs : s.InOrder drawn)
    {h : Handle} {id : SessionId} (named : (s.lobby.connection h).session = some id) :
    ∃ login, (s.connection h).loginState = (.authenticated, some login) := by
  obtain ⟨session, m, hfound, hmember, rfl⟩ := (hs.consistent.session_iff h id).mp named
  exact ⟨m.login, hs.members m
    ⟨session, (Lobby.mem_of_session? hfound).1, (Session.mem_of_member? hmember).1⟩⟩

/-- What has been recorded since then tells of exactly those who have joined sessions and of those
who have left them. -/
structure OnRecord (s s' : ServerState) : Prop where
  arrivals : List.Forall₂ s.Names ((s'.audit.since s.audit).filter (·.isArrival))
    (s.lobby.taken s'.lobby)
  departures : List.Forall₂ s.Names ((s'.audit.since s.audit).filter (·.isDeparture))
    (s.lobby.vacated s'.lobby)

section OnRecord

variable {s s' : ServerState} {h : Handle} {l : Lobby} {post : Post} {drawn drawn' : Nat}

/-- Nobody has moved, and nothing of the kind has been recorded. -/
theorem RecordsAside.onRecord (aside : RecordsAside s s') (hl : s.lobby.Consistent drawn)
    (hl' : s'.lobby.Consistent drawn')
    (seats : ∀ k, (s'.connection k).session = (s.connection k).session) : OnRecord s s' := by
  have htaken : s.lobby.taken s'.lobby = [] :=
    Lobby.vacated_eq_nil hl' hl fun k id hnamed => (seats k).symm.trans hnamed
  have hvacated : s.lobby.vacated s'.lobby = [] :=
    Lobby.vacated_eq_nil hl hl' fun k id hnamed => (seats k).trans hnamed
  obtain ⟨harrivals, hdepartures⟩ := aside.since_eq
  constructor
  · rw [harrivals, htaken]
    exact .nil
  · rw [hdepartures, hvacated]
    exact .nil

/-- Posting changes no place. -/
theorem Posts.places (posts : ({ s with lobby := l } : ServerState).Posts post s') :
    s'.lobby.places = l.places := by
  rw [posts.lobby]
  rfl

/-- A player stays logged in under the same login. -/
theorem Posts.login (posts : ({ s with lobby := l } : ServerState).Posts post s')
    (reseated : s.lobby.connections.Reseated l.connections) {login : String}
    (player : (s.connection h).loginState = (.authenticated, some login)) :
    (s'.connection h).login = some login := by
  have hplace : (l.connection h).loginState = (.authenticated, some login) := by
    rw [Lobby.connection, reseated h]
    exact player
  have hauth := Connection.isAuthenticated_of_loginState hplace
  have hkept : (s'.connection h).loginState = (l.connection h).loginState :=
    (posts.connections h).keeps hauth
  exact congrArg Prod.snd (hkept.trans hplace)

/-- A player joins a session, and a record of this is made. -/
theorem onRecord_of_admits {id : SessionId} (hl : s.lobby.Consistent drawn)
    (hl' : s'.lobby.Consistent drawn') (admits : Lobby.Admits s.lobby id h l)
    (posts : ({ s with lobby := l } : ServerState).Posts post s') {r : AuditRecord}
    (recorded : s'.audit = s.audit.record r) (arrival : r.isArrival = true)
    (other : r.isDeparture = false) (names : s.Names r (id, h)) : OnRecord s s' := by
  obtain ⟨htaken, hvacated⟩ := admits.taken_eq hl (posts.steady.consistent_before hl')
  rw [Lobby.taken, Lobby.vacated, ← posts.places] at htaken
  rw [Lobby.vacated, ← posts.places] at hvacated
  have hsince : s'.audit.since s.audit = [r] := by rw [recorded, AuditLog.since_record]
  constructor
  · rw [hsince, Lobby.taken, Lobby.vacated, htaken, List.filter_cons_of_pos arrival]
    exact .cons names .nil
  · rw [hsince, Lobby.vacated, hvacated, List.filter_cons_of_neg (by simp [other])]
    exact .nil

/-- A player leaves a session, and a record of this is made. -/
theorem onRecord_of_dismisses {d : Departure} (hl : s.lobby.Consistent drawn)
    (hl' : s'.lobby.Consistent drawn') (dismisses : Lobby.Dismisses s.lobby h d l)
    (posts : ({ s with lobby := l } : ServerState).Posts post s') {r : AuditRecord}
    (recorded : s'.audit = s.audit.record r) (other : r.isArrival = false)
    (departure : r.isDeparture = true) (names : s.Names r (d.session, h)) : OnRecord s s' := by
  obtain ⟨hvacated, htaken⟩ := dismisses.vacated_eq hl (posts.steady.consistent_before hl')
  rw [Lobby.taken, Lobby.vacated, ← posts.places] at htaken
  rw [Lobby.vacated, ← posts.places] at hvacated
  have hsince : s'.audit.since s.audit = [r] := by rw [recorded, AuditLog.since_record]
  constructor
  · rw [hsince, Lobby.taken, Lobby.vacated, htaken, List.filter_cons_of_neg (by simp [other])]
    exact .nil
  · rw [hsince, Lobby.vacated, hvacated, List.filter_cons_of_pos departure]
    exact .cons names .nil

/-- Answering leaves everybody in place. -/
theorem onRecord_of_posts (hl : s.lobby.Consistent drawn) (hl' : s'.lobby.Consistent drawn')
    (seats : l.connections = s.lobby.connections)
    (posts : ({ s with lobby := l } : ServerState).Posts post s') (aside : RecordsAside s s') :
    OnRecord s s' := by
  refine aside.onRecord hl hl' fun k => ?_
  have hposted : (s'.connection k).session = (l.connection k).session :=
    (posts.connections k).session
  rw [hposted, Lobby.connection, seats]
  rfl

variable (p : Packet)

/-- An attempt to join a session is on record if the player has joined. -/
theorem onRecord_concludeJoin {result : Except SessionError SessionSummary} {login : String}
    (hl : s.lobby.Consistent drawn) (outcome : Lobby.JoinOutcome s.lobby h (result, l))
    (player : (s.connection h).loginState = (.authenticated, some login))
    (hl' : (({ s with lobby := l } : ServerState).concludeJoin h p result).lobby.Consistent
      drawn') : OnRecord s (({ s with lobby := l } : ServerState).concludeJoin h p result) := by
  cases outcome with
  | refused sessions connections =>
    exact onRecord_of_posts hl hl' connections (posts_respond _ _ _ _) (.of_eq rfl)
  | @admitted summary _ admits =>
    have hposts := posts_concludeJoin ({ s with lobby := l } : ServerState) h p summary
    have hreseated : s.lobby.connections.Reseated l.connections := by
      rw [admits.connections]
      exact Connections.reseated_set rfl
    have hlogin := hposts.login hreseated player
    refine onRecord_of_admits hl hl' admits hposts rfl rfl rfl ⟨rfl, ?_, .inl rfl⟩
    change (s.connection h).login = some
      (((({ s with lobby := l } : ServerState).concludeJoin h p
        (.ok summary)).connection h).login.getD AuditRecord.unknownActor)
    rw [hlogin]
    exact congrArg Prod.snd player

/-- Whoever is dismissed stays logged in, and only changes places. -/
theorem login_of_dismisses {d : Departure} (dismisses : Lobby.Dismisses s.lobby h d l)
    (posts : ({ s with lobby := l } : ServerState).Posts post s') {login : String}
    (player : (s.connection h).loginState = (.authenticated, some login)) :
    (s.connection h).login = some ((s'.connection h).login.getD AuditRecord.unknownActor) := by
  have hreseated : s.lobby.connections.Reseated l.connections := by
    rw [dismisses.connections]
    exact Connections.reseated_set (Connection.reseated_releaseSession _ _)
  rw [posts.login hreseated player]
  exact congrArg Prod.snd player

/-- A request to leave is on record if the player has left. -/
theorem onRecord_leaveSession {login : String} (hl : s.lobby.Consistent drawn)
    (player : (s.connection h).loginState = (.authenticated, some login))
    (hl' : (s.leaveSession h p).lobby.Consistent drawn') : OnRecord s (s.leaveSession h p) := by
  rcases leaveSession_cases hl h p with ⟨e, hrefused⟩ | ⟨d, l, hleft, hdismisses, hposts⟩
  · rw [hrefused] at hl' ⊢
    exact onRecord_of_posts hl hl' rfl (posts_respond s h p _) (.of_eq rfl)
  · have hlogin := login_of_dismisses hdismisses hposts player
    rw [leaveSession, hleft] at hl' hposts hlogin ⊢
    exact onRecord_of_dismisses hl hl' hdismisses hposts rfl rfl rfl ⟨rfl, hlogin, .inl rfl⟩

/-- The end of a connection is on record if a player has left by it. -/
theorem onRecord_leaveOnDisconnect (hs : s.InOrder drawn)
    (hl' : (s.leaveOnDisconnect h).lobby.Consistent drawn') :
    OnRecord s (s.leaveOnDisconnect h) := by
  rcases leaveOnDisconnect_cases hs.consistent h with
    ⟨-, hsame⟩ | ⟨d, l, hleft, hdismisses, hposts⟩
  · rw [hsame] at hl' ⊢
    exact RecordsAside.onRecord (.of_eq rfl) hs.consistent hl' fun _ => rfl
  · have hnamed := hdismisses.named hs.consistent
    obtain ⟨login, hplayer⟩ := hs.player_of_session hnamed
    have hlogin := login_of_dismisses hdismisses hposts hplayer
    have hbusy : (s.connection h).session.isNone = false := by
      change (s.lobby.connection h).session.isNone = false
      rw [hnamed]
      rfl
    rw [leaveOnDisconnect, hbusy, hleft] at hl' hposts hlogin ⊢
    exact onRecord_of_dismisses hs.consistent hl' hdismisses hposts rfl rfl rfl
      ⟨rfl, hlogin, .inr ⟨rfl, rfl⟩⟩

/-- Chat is no joining or leaving. -/
theorem onRecord_relayChat (hl : s.lobby.Consistent drawn) (text : Bytes)
    (hl' : (s.relayChat h p text).lobby.Consistent drawn') :
    OnRecord s (s.relayChat h p text) := by
  have haudit : (s.relayChat h p text).audit = s.audit := by
    unfold relayChat
    dsimp only
    split
    · rfl
    split
    · rfl
    split <;> rfl
  rcases s.relayChat_cases h p text with
    ⟨e, -, hrefused⟩ | ⟨-, hunread | ⟨session, text', -, hrelayed⟩⟩
  · exact onRecord_of_posts hl hl' rfl (hrefused ▸ posts_respond s h p _) (.of_eq haudit)
  · exact onRecord_of_posts hl hl' rfl hunread (.of_eq haudit)
  · exact onRecord_of_posts hl hl' rfl hrelayed (.of_eq haudit)

/-- Changing options is recorded, and is no joining or leaving. -/
theorem onRecord_changeOptions (hl : s.lobby.Consistent drawn)
    (options : Except SessionError SessionOptions)
    (hl' : (s.changeOptions h p options).lobby.Consistent drawn') :
    OnRecord s (s.changeOptions h p options) := by
  cases options with
  | error e => exact onRecord_of_posts hl hl' rfl (posts_respond s h p _) (.of_eq rfl)
  | ok options =>
    have hsame := s.lobby.connections_setOptions h options
    unfold changeOptions at hl' ⊢
    dsimp only at hl' ⊢
    generalize s.lobby.setOptions h options = outcome at hsame hl' ⊢
    obtain ⟨e | summary, l⟩ := outcome
    · exact onRecord_of_posts hl hl' hsame (posts_respond _ h p _) (.of_eq rfl)
    · exact onRecord_of_posts hl hl' hsame (posts_concludeOptions _ h p summary)
        (.of_record rfl ⟨rfl, rfl⟩)

/-- A request about a session is on record if a player has joined or left by it. -/
theorem onRecord_serveRequest (hs : s.InOrder drawn) {request : GameRequest}
    (asked : s.IsSessionRequest h p request)
    (hl' : (s.serveRequest h p request).lobby.Consistent drawn') :
    OnRecord s (s.serveRequest h p request) := by
  have hl := hs.consistent
  obtain ⟨login, hplayer⟩ := hs.player_of_isAuthenticated (isAuthenticated_of_forwarded asked.1)
  cases request with
  | characterList => exact absurd rfl asked.2.2.2
  | create options =>
    cases options with
    | error e => exact onRecord_of_posts hl hl' rfl (posts_respond s h p _) (.of_eq rfl)
    | ok options =>
      exact onRecord_concludeJoin p hl (Lobby.joinOutcome_createAndJoin hl h options) hplayer hl'
  | join id => exact onRecord_concludeJoin p hl (s.lobby.joinOutcome_join id h) hplayer hl'
  | joinAny =>
    exact onRecord_concludeJoin p hl (Lobby.joinOutcome_findOrCreateAndJoin hl h) hplayer hl'
  | leave => exact onRecord_leaveSession p hl hplayer hl'
  | chat text => exact onRecord_relayChat p hl text hl'
  | setOptions options => exact onRecord_changeOptions p hl options hl'

/-- What a packet does to players is on record. -/
theorem onRecord_handle (hs : s.InOrder drawn) (front : Front)
    (hl' : (s.handle front h p).lobby.Consistent drawn') : OnRecord s (s.handle front h p) := by
  by_cases hrequest : front = .game ∧ ∃ request, s.IsSessionRequest h p request
  · obtain ⟨rfl, request, hasked⟩ := hrequest
    rw [handle_of_isSessionRequest hasked] at hl' ⊢
    exact onRecord_serveRequest p hs hasked hl'
  · have hother : front = .game → ∀ request, ¬ s.IsSessionRequest h p request :=
      fun hfront request hasked => hrequest ⟨hfront, request, hasked⟩
    obtain ⟨payloads, -, hposts⟩ := (s.handle_cases front h p).resolve_right
      fun ⟨hfront, request, hasked, _⟩ => hother hfront request hasked
    exact onRecord_of_posts hs.consistent hl' rfl hposts (recordsAside_handle s h p front hother)

/-- What an event does to players is on record, unless it is a pass of the scheduler. -/
theorem onRecord_step (hs : s.InOrder drawn) {e : Event} (other : ∀ delta, e ≠ .tick delta)
    (hl' : (s.step e).lobby.Consistent drawn') : OnRecord s (s.step e) := by
  have quietly {s' : ServerState} (hl' : s'.lobby.Consistent drawn') (audit : s'.audit = s.audit)
      (seats : ∀ k, (s'.connection k).session = (s.connection k).session) : OnRecord s s' :=
    RecordsAside.onRecord (.of_eq audit) hs.consistent hl' seats
  cases e with
  | packet front h p => exact onRecord_handle p hs front hl'
  | close h =>
    exact quietly hl' rfl fun k => ((Posts.close s h).connections k).session
  | disconnect front h =>
    cases front with
    | gateway => exact quietly hl' rfl fun _ => rfl
    | game => exact onRecord_leaveOnDisconnect hs hl'
  | tick delta => exact absurd rfl (other delta)
  | sweep => exact quietly hl' rfl fun _ => rfl
  | settle =>
    exact quietly hl' s.audit_settle fun k => (s.steady_settle.1.connections k).session
  | createAccount login email password salt => exact quietly hl' rfl fun _ => rfl
  | setBanned login banned => exact quietly hl' rfl fun _ => rfl
  | addCharacter login name classId level => exact quietly hl' rfl fun _ => rfl
  | setAvailable available => exact quietly hl' rfl fun _ => rfl
  | announce call d _ => exact quietly hl' rfl fun _ => rfl
  | reorder sessions =>
    have hsame := connections_reorder s.lobby sessions
    exact quietly hl' rfl fun k => congrArg (fun cs : Connections => (cs.get k).session) hsame
  | reorderMembers id members =>
    have hsame := connections_reorderMembers s.lobby id members
    exact quietly hl' rfl fun k => congrArg (fun cs : Connections => (cs.get k).session) hsame

/-- A pass of the scheduler puts nothing on record, and nobody joins a session by it. -/
theorem trail_tick (hl : s.lobby.Consistent drawn) (delta : Duration)
    (hl' : (s.step (.tick delta)).lobby.Consistent drawn') :
    s.auditedBy (.tick delta) = [] ∧ s.lobby.taken (s.step (.tick delta)).lobby = [] := by
  constructor
  · rw [auditedBy, step, audit_tick, AuditLog.since_self]
  · have hmoves := s.lobby.quietMoves_tickAll delta
    have hseats (k : Handle) : ((s.step (.tick delta)).connection k).session =
        ((s.lobby.tickAll delta).2.connection k).session := by
      by_cases ticked : (s.tick delta).1 = .ok ()
      · obtain ⟨departures, l, hpass, hposts⟩ := exists_posts_tick ticked
        rw [hpass]
        exact (hposts.connections k).session
      · rw [step_tick_of_overflow ticked]
        rfl
    apply Lobby.vacated_eq_nil hl' hl
    intro k id hnamed
    have hnamed : ((s.step (.tick delta)).connection k).session = some id := hnamed
    rw [hseats] at hnamed
    exact hmoves.session not_false hnamed

end OnRecord

/-- What the events of a run come to, one after the other. -/
def gather {α : Type} (f : ServerState → Event → List α) (s : ServerState) : List Event → List α
  | [] => []
  | e :: rest => f s e ++ gather f (s.step e) rest

/-- What a run puts on record. -/
def auditedIn : ServerState → List Event → List AuditRecord := gather auditedBy

/-- Who joins sessions in a run. -/
def takenIn : ServerState → List Event → List (SessionId × Handle) :=
  gather fun s e => s.lobby.taken (s.step e).lobby

/-- Who leaves sessions in a run. -/
def vacatedIn : ServerState → List Event → List (SessionId × Handle) :=
  gather fun s e => s.lobby.vacated (s.step e).lobby

/-- Whether an event is a pass of the scheduler. -/
def Event.isTick : Event → Bool
  | .tick _ => true
  | _ => false

/-- Whom passes of the scheduler take out of sessions in a run. -/
def prunedIn : ServerState → List Event → List (SessionId × Handle) :=
  gather fun s e => if e.isTick then s.lobby.vacated (s.step e).lobby else []

/-- How many of the records made by an event tell of joining and of leaving. -/
theorem count_auditedBy {s : ServerState} {drawn : Nat} (hs : s.InOrder drawn) {e : Event}
    (room : drawn + s.idsBetween (s.step e) < 2 ^ 32 - 1) :
    (s.auditedBy e).countP (·.isArrival) = (s.lobby.taken (s.step e).lobby).length ∧
      (s.auditedBy e).countP (·.isDeparture) +
          (if e.isTick then s.lobby.vacated (s.step e).lobby else []).length =
        (s.lobby.vacated (s.step e).lobby).length := by
  have hl' := (hs.step e room).consistent
  by_cases htick : ∃ delta, e = .tick delta
  · obtain ⟨delta, rfl⟩ := htick
    obtain ⟨haudited, htaken⟩ := trail_tick hs.consistent delta hl'
    simp [haudited, htaken, Event.isTick]
  · push Not at htick
    have hrecord := onRecord_step hs htick hl'
    have hother : e.isTick = false := by
      cases e with
      | tick delta => exact absurd rfl (htick delta)
      | _ => rfl
    simp only [hother, List.countP_eq_length_filter]
    exact ⟨hrecord.arrivals.length_eq, hrecord.departures.length_eq⟩

/-- The records of a run, and the places: who has joined is on record; who has left is on record or
was taken out by a pass of the scheduler; and whoever was there or has joined is there or has left. -/
theorem count_auditedIn {s : ServerState} {drawn : Nat} (hs : s.InOrder drawn) (events : List Event)
    (room : drawn + s.idsDrawn events < 2 ^ 32 - 1) :
    (s.auditedIn events).countP (·.isArrival) = (s.takenIn events).length ∧
      (s.auditedIn events).countP (·.isDeparture) + (s.prunedIn events).length =
        (s.vacatedIn events).length ∧
      (s.run events).lobby.places.length + (s.vacatedIn events).length =
        s.lobby.places.length + (s.takenIn events).length := by
  induction events generalizing s drawn with
  | nil => exact ⟨rfl, rfl, rfl⟩
  | cons e rest ih =>
    simp only [idsDrawn, ← Nat.add_assoc] at room
    have hafter := hs.step e (by omega)
    obtain ⟨harrivals, hdepartures⟩ := count_auditedBy hs (e := e) (by omega)
    have hplaces := Lobby.length_places_add hs.consistent hafter.consistent
    obtain ⟨harrivals', hdepartures', hplaces'⟩ := ih hafter room
    change ((s.step e).run rest).lobby.places.length + _ = _ at hplaces'
    simp only [auditedIn, takenIn, vacatedIn, prunedIn, gather, List.countP_append,
      List.length_append] at *
    change _ ∧ _ ∧ ((s.step e).run rest).lobby.places.length + _ = _
    omega

/-- In every run of a server that starts without sessions, whatever happens and in whatever order,
if the counter of session ids does not run out: with every event but a pass of the scheduler, the
records made of joining and of leaving are exactly one for each connection that has become a member
of a session and one for each that has stopped being one, and name its login and the session. A pass
of the scheduler puts nothing on record. So over the run there is a record of every joining, and of
every leaving but those by passes of the scheduler; and the records of joining are those of leaving,
those whom passes have taken out, and those who are members at the end. -/
theorem audit_of_run {s : ServerState} {maxPlayers maxSessions : Nat} {cs : Connections}
    (lobby : s.lobby = .new maxPlayers maxSessions cs) (starts : ∀ c ∈ cs.opened, Starts c)
    (events : List Event) (room : s.idsDrawn events < 2 ^ 32 - 1) :
    (∀ earlier e later, events = earlier ++ e :: later →
      let before := s.run earlier
      let after := before.step e
      (e.isTick = false →
        List.Forall₂ before.Names ((before.auditedBy e).filter (·.isArrival))
            (before.lobby.taken after.lobby) ∧
          List.Forall₂ before.Names ((before.auditedBy e).filter (·.isDeparture))
            (before.lobby.vacated after.lobby)) ∧
      (e.isTick = true → before.auditedBy e = [] ∧ before.lobby.taken after.lobby = [])) ∧
    (s.auditedIn events).countP (·.isArrival) = (s.takenIn events).length ∧
    (s.auditedIn events).countP (·.isDeparture) + (s.prunedIn events).length =
      (s.vacatedIn events).length ∧
    (s.auditedIn events).countP (·.isArrival) =
      (s.auditedIn events).countP (·.isDeparture) + (s.prunedIn events).length +
        (s.run events).lobby.places.length := by
  have hs : s.InOrder 0 := inOrder_of_start lobby starts
  constructor
  · rintro earlier e later rfl before after
    rw [idsDrawn_append, idsDrawn] at room
    have hbefore := hs.run earlier (by omega)
    have hafter := (hbefore.step e (by omega)).consistent
    constructor
    · intro hother
      have hrecord := onRecord_step hbefore (by rintro delta rfl; cases hother) hafter
      exact ⟨hrecord.arrivals, hrecord.departures⟩
    · intro htick
      cases e with
      | tick delta => exact trail_tick hbefore.consistent delta hafter
      | _ => cases htick
  · obtain ⟨harrivals, hdepartures, hplaces⟩ := count_auditedIn hs events (by omega)
    have hnone : s.lobby.places = [] := by
      rw [lobby]
      rfl
    rw [hnone, List.length_nil] at hplaces
    exact ⟨harrivals, hdepartures, by omega⟩

/-- One player opens a session, the other joins it and goes away, the reading of the connection
ends, and the scheduler passes; the last two in either order. -/
def vanish (last : List Event) : List Event :=
  [.packet .game 0 ⟨Service.game, Method.createSession, 1, []⟩,
    .packet .game 1 ⟨Service.game, Method.joinSession, 2, [0, 0, 0, 1]⟩, .close 1] ++ last

/-- When the reading ends before the scheduler passes, both joinings and the leaving are on record,
and one player is still there. -/
theorem audit_of_run_vanish :
    let events := vanish [.disconnect .game 1, .tick .zero]
    twoPlayers.idsDrawn events < 2 ^ 32 - 1 ∧
      (twoPlayers.auditedIn events).countP (·.isArrival) = 2 ∧
      (twoPlayers.auditedIn events).countP (·.isDeparture) = 1 ∧
      (twoPlayers.run events).lobby.places.length = 1 := by
  intro events
  have hroom : twoPlayers.idsDrawn events < 2 ^ 32 - 1 := by decide +kernel
  obtain ⟨-, harrivals, hdepartures, -⟩ := audit_of_run rfl starts_twoPlayers events hroom
  have htaken : (twoPlayers.takenIn events).length = 2 := by decide +kernel
  have hvacated : (twoPlayers.vacatedIn events).length = 1 := by decide +kernel
  have hpruned : (twoPlayers.prunedIn events).length = 0 := by decide +kernel
  exact ⟨hroom, harrivals.trans htaken, by omega, by decide +kernel⟩

/-- When the scheduler passes first, nobody ever records that the player has left: the pass does
not, and when the reading ends there is no session left to leave. -/
theorem departure_unrecorded :
    let events := vanish [.tick .zero, .disconnect .game 1]
    twoPlayers.idsDrawn events < 2 ^ 32 - 1 ∧ twoPlayers.vacatedIn events = [(⟨1⟩, 1)] ∧
      (twoPlayers.auditedIn events).countP (·.isArrival) = 2 ∧
      (twoPlayers.auditedIn events).countP (·.isDeparture) = 0 := by
  decide +kernel

end ServerState

end PlayServer
