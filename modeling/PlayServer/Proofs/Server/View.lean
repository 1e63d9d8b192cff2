import PlayServer.Proofs.Lobby.Terms
import PlayServer.Proofs.Server.Announcement
import Mathlib.Data.List.Induction

/-!
# What members know

Every member of a session knows the session and its terms: in every run of a server, in whatever
order requests come and are refused, players join, leave and come back, hosts change and connections
close, the last acceptance queued to an open member tells of the session as it is: `view_of_run`.

A member hears of its session from the answer to its own request to create or to join one, from the
answer to its own change of options, and from the notice of a change by the host. `Lobby.Informed`
is what one step does about this.
-/

namespace PlayServer

namespace Lobby

variable {l l' : Lobby} {drawn drawn' : Nat} {post : Post}

/-- The reply that tells of the session under an id. -/
def reply? (l : Lobby) (id : SessionId) : Option SessionReply :=
  (l.terms? id).map fun options =>
    ⟨SessionReply.statusOk, id.value, options.difficulty.byte, options.mode.byte⟩

/-- Whoever is a member of a session has just been told of it as it is, or was a member of it when
it was on the same terms, and has not been told of any. -/
def Informed (l l' : Lobby) (post : Post) : Prop :=
  ∀ id, ∀ k ∈ l'.seated id, lastAcceptance (post k) = l'.reply? id ∨
    lastAcceptance (post k) = none ∧ k ∈ l.seated id ∧ l'.terms? id = l.terms? id

/-- Whoever is told of a session on the terms that it is on is told of it as it is. -/
theorem reply?_of_terms {summary : SessionSummary}
    (h : l.terms? summary.id = some summary.options) :
    l.reply? summary.id = some (.ofSummary summary) := by
  rw [reply?, h]
  rfl

/-- Where there are members there is a session. -/
theorem exists_terms_of_mem_seated {id : SessionId} {k : Handle} (hk : k ∈ l.seated id) :
    ∃ options, l.terms? id = some options := by
  cases hfound : l.session? id with
  | none => simp [seated, roster_of_none hfound] at hk
  | some s => exact ⟨s.options, terms?_of_session? hfound⟩

/-- A session with members that keeps its terms is on the same ones. -/
theorem KeepsTerms.eq_of_mem_seated (keeps : l.KeepsTerms l') {id : SessionId} {k : Handle}
    (hk : k ∈ l.seated id) : l'.terms? id = l.terms? id := by
  obtain ⟨options, hterms⟩ := exists_terms_of_mem_seated hk
  rw [hterms, keeps id options hterms]

/-- Nobody comes to be a member by moves that admit nobody. -/
theorem mem_seated_of_quiet (hl : l.Consistent drawn) (hl' : l'.Consistent drawn')
    (quiet : QuietMoves l l') {id : SessionId} {k : Handle} (hk : k ∈ l'.seated id) :
    k ∈ l.seated id :=
  hl.mem_seated_iff.mpr (quiet.session not_false (hl'.mem_seated_iff.mp hk))

/-- Where nobody is admitted and sessions with members keep their terms, nobody need be told. -/
theorem informed_of_quiet (hl : l.Consistent drawn) (hl' : l'.Consistent drawn')
    (quiet : QuietMoves l l') (silent : ∀ id, ∀ k ∈ l'.seated id, lastAcceptance (post k) = none)
    (terms : ∀ id, ∀ k ∈ l'.seated id, l'.terms? id = l.terms? id) : Informed l l' post :=
  fun id k hk =>
    .inr ⟨silent id k hk, mem_seated_of_quiet hl hl' quiet hk, terms id k hk⟩

/-- A player who joins a session is told of it. -/
theorem Admits.informed {summary : SessionSummary} {h : Handle}
    (admits : Admits l summary.id h l') (hl' : l'.Consistent drawn')
    (tells : l.Tells (.ok summary, l'))
    (told : ∀ k, lastAcceptance (post k) = if k = h then some (.ofSummary summary) else none) :
    Informed l l' post := by
  obtain ⟨now, hjoined⟩ := admits.joined
  intro id k hk
  by_cases hkh : k = h
  · subst hkh
    have hnamed : (l'.connection k).session = some summary.id := by
      rw [connection, admits.connections, Connections.get_set, if_pos rfl]
    obtain rfl : summary.id = id :=
      Option.some.inj (hnamed.symm.trans (hl'.mem_seated_iff.mp hk))
    rw [told, if_pos rfl, reply?_of_terms (tells.2 summary rfl)]
    exact .inl rfl
  · have hold : k ∈ l.seated id := by
      by_cases hid : id = summary.id
      · subst hid
        rw [seated, hjoined, List.map_append] at hk
        rcases List.mem_append.mp hk with hk | hk
        · exact hk
        · exact absurd (List.mem_singleton.mp hk) hkh
      · rwa [seated, roster_congr (admits.others id hid)] at hk
    rw [told, if_neg hkh]
    exact .inr ⟨rfl, hold, tells.1.eq_of_mem_seated hold⟩

/-- Members of a session on new terms are told of it. -/
theorem informed_of_store {s s' : Session} (hl' : (l.store s').Consistent drawn')
    (held : l.session? s.id = some s) (hid : s'.id = s.id) (hmembers : s'.members = s.members)
    (told : ∀ k, lastAcceptance (post k) =
      if k ∈ (l.store s').seated s.id then some (.ofSummary s'.summary) else none) :
    Informed l (l.store s') post := by
  have hknown : (l.session? s'.id).isSome = true := by simp [hid, held]
  have hseated (id : SessionId) : (l.store s').seated id = l.seated id := by
    rw [seated, roster_store hknown, hid, hmembers]
    split
    · next he => rw [seated, he, roster_of_session? held]
    · rfl
  intro id k hk
  rw [told]
  by_cases he : id = s.id
  · subst he
    have hterms : (l.store s').terms? s'.summary.id = some s'.summary.options := by
      rw [terms?_store hknown]
      exact if_pos rfl
    have hreply := reply?_of_terms hterms
    rw [show s'.summary.id = s.id from hid] at hreply
    rw [if_pos hk, hreply]
    exact .inl rfl
  · have helsewhere : k ∉ (l.store s').seated s.id := fun hk' => he (hl'.seated_unique hk hk')
    rw [if_neg helsewhere, terms?_store hknown, hid, if_neg he, ← hseated]
    exact .inr ⟨rfl, hk, rfl⟩

end Lobby

namespace ServerState

variable {s s' : ServerState} {drawn : Nat} {h : Handle} {p : Packet}

/-- A payload for members is no acceptance if it carries none. -/
theorem lastAcceptance_toEach {payload : Bytes} (other : acceptance? payload = none)
    (ms : List Member) (k : Handle) : lastAcceptance (Post.toEach ms payload k) = none := by
  apply lastAcceptance_eq_none
  intro payload' hpayload
  obtain ⟨m, -, rfl⟩ := List.mem_map.mp hpayload
  exact other

/-- Announcements of departures carry no acceptance. -/
theorem lastAcceptance_departures (l : Lobby) (departures : List Departure) (k : Handle) :
    lastAcceptance (departures.flatMap fun d =>
      Post.toEach (l.roster d.session) (leftNotice d.login) k) = none := by
  apply lastAcceptance_eq_none
  intro payload hpayload
  obtain ⟨d, -, hd⟩ := List.mem_flatMap.mp hpayload
  obtain ⟨m, -, rfl⟩ := List.mem_map.mp hd
  exact acceptance?_eq_none (sessionReply?_leftNotice d.login)

/-- Whoever is answered with status 0 has accepted just that. -/
theorem lastAcceptance_answer (service : p.service = Service.game) {r : SessionReply}
    (ok : r.status = SessionReply.statusOk) (k : Handle) :
    lastAcceptance (Post.onlyTo h [sessionAnswer p r] k) = if k = h then some r else none := by
  unfold Post.onlyTo
  split
  · rw [lastAcceptance_singleton, acceptance?, sessionReply?_sessionAnswer service]
    simp [ok]
  · rfl

/-- A refusal is no acceptance. -/
theorem lastAcceptance_refusal (service : p.service = Service.game) (e : SessionError)
    (current : Option SessionId) (k : Handle) :
    lastAcceptance (Post.onlyTo h [sessionAnswer p (.refusal e current)] k) = none := by
  unfold Post.onlyTo
  split
  · rw [lastAcceptance_singleton, acceptance?, sessionReply?_sessionAnswer service]
    simp [SessionReply.refusal, SessionReply.statusOk, e.status_ne_zero]
  · rfl

/-- All members of a session are told of options that are new, the one who has set them by an answer
and the others by a notice. -/
theorem lastAcceptance_options {l : Lobby} (hl : l.Consistent drawn)
    (service : p.service = Service.game) {id : SessionId} (member : h ∈ l.seated id)
    {r : SessionReply} (ok : r.status = SessionReply.statusOk) (k : Handle) :
    lastAcceptance
        ((Post.onlyTo h [sessionAnswer p r]).andThen (l.toOthers id h (optionsNotice r)) k) =
      if k ∈ l.seated id then some r else none := by
  have hnotice : acceptance? (optionsNotice r) = some r := by
    rw [acceptance?, sessionReply?_optionsNotice]
    simp [ok]
  rw [Post.andThen, lastAcceptance_append, lastAcceptance_answer service ok, hl.toOthers_eq member]
  by_cases hkh : k = h
  · subst hkh
    rw [if_neg fun hother => hother.2 rfl, if_pos rfl, if_pos member]
    rfl
  · by_cases hk : k ∈ l.seated id
    · rw [if_pos ⟨hk, hkh⟩, if_pos hk, lastAcceptance_singleton, hnotice]
      rfl
    · rw [if_neg fun hother => hk hother.1, if_neg hkh, if_neg hk]
      rfl

/-- Connections have changed places at most, and then packets have been posted that tell the members
what they need to know. -/
def Informs (s s' : ServerState) : Prop :=
  ∃ l post, s.lobby.connections.Reseated l.connections ∧
    ({ s with lobby := l } : ServerState).Posts post s' ∧
    ∀ drawn, l.Consistent drawn → s.lobby.Informed l post

/-- Nobody needs to be told where nobody is admitted and sessions with members keep their terms. -/
theorem informs_of_quiet {l : Lobby} {post : Post} (hl : s.lobby.Consistent drawn)
    (quiet : Lobby.QuietMoves s.lobby l) (reseated : s.lobby.connections.Reseated l.connections)
    (posts : ({ s with lobby := l } : ServerState).Posts post s')
    (silent : ∀ id, ∀ k ∈ l.seated id, lastAcceptance (post k) = none)
    (terms : ∀ id, ∀ k ∈ l.seated id, l.terms? id = s.lobby.terms? id) : Informs s s' :=
  ⟨l, post, reseated, posts, fun _ hl' => Lobby.informed_of_quiet hl hl' quiet silent terms⟩

/-- Nobody needs to be told where the sessions are the same. -/
theorem Posts.informs {post : Post} (posts : s.Posts post s')
    (silent : ∀ k, lastAcceptance (post k) = none) : Informs s s' :=
  ⟨s.lobby, post, .refl _, posts, fun _ _ _ k hk => .inr ⟨silent k, hk, rfl⟩⟩

/-- A refusal is nothing that members need to be told. -/
theorem informs_respond (service : p.service = Service.game) (e : SessionError)
    (current : Option SessionId) : Informs s (s.respond h p (.refusal e current)) :=
  (s.posts_respond h p _).informs (lastAcceptance_refusal service e current)

/-- A player who joins is told of the session. -/
theorem informs_concludeJoin {l : Lobby} {result : Except SessionError SessionSummary}
    (outcome : Lobby.JoinOutcome s.lobby h (result, l)) (tells : s.lobby.Tells (result, l))
    (service : p.service = Service.game) :
    Informs s (({ s with lobby := l } : ServerState).concludeJoin h p result) := by
  generalize hresult : (result, l) = pair at outcome
  cases outcome with
  | refused sessions connections =>
    obtain ⟨rfl, rfl⟩ : _ ∧ _ := by simpa using hresult
    refine ⟨l, _, connections ▸ .refl _, posts_respond _ h p _,
      fun _ _ id k hk => .inr ⟨?_, ?_, ?_⟩⟩
    · exact lastAcceptance_refusal service _ _ k
    · rwa [Lobby.seated, Lobby.roster_congr (congrFun sessions id)] at hk
    · exact Lobby.terms?_congr (congrFun sessions id)
  | @admitted summary _ admits =>
    obtain ⟨rfl, rfl⟩ : _ ∧ _ := by simpa using hresult
    have hreseated : s.lobby.connections.Reseated l.connections := by
      rw [admits.connections]
      exact Connections.reseated_set rfl
    refine ⟨l, _, hreseated, posts_concludeJoin { s with lobby := l } h p summary,
      fun _ hl' => admits.informed hl' tells fun k => ?_⟩
    have hnotice := lastAcceptance_toEach
      (acceptance?_eq_none (sessionReply?_joinedNotice ((l.connection h).login.getD "")))
      ((l.roster summary.id).filter fun m => some m.id != some (l.connection h).id) k
    rw [Post.andThen, lastAcceptance_append, lastAcceptance_answer service rfl, Lobby.toOthers,
      hnotice]
    rfl

/-- Whoever leaves a session is told so, and those who stay need not be told. -/
theorem informs_leaveSession (hl : s.lobby.Consistent drawn) (service : p.service = Service.game) :
    Informs s (s.leaveSession h p) := by
  have hquiet := s.lobby.quietMoves_leave h
  have hterms := s.lobby.terms?_leave h
  have hreseated := s.lobby.reseated_leave h
  rcases leaveSession_cases hl h p with ⟨e, hrefused⟩ | ⟨d, l, hleft, hdismisses, hposts⟩
  · exact hrefused ▸ informs_respond service e none
  · rw [hleft] at hquiet hterms hreseated
    refine informs_of_quiet hl hquiet hreseated hposts (fun id k hk => ?_)
      fun id _ _ => congrFun hterms id
    -- The answer goes to nobody who is a member still.
    have hkh : k ≠ h := fun he => hdismisses.not_mem_seated hl id (he ▸ hk)
    have hnotice := lastAcceptance_toEach
      (acceptance?_eq_none (sessionReply?_leftNotice d.login)) (l.roster d.session) k
    rw [Post.andThen, lastAcceptance_append, hnotice, Post.onlyTo_of_ne hkh]
    rfl

/-- Members who chat need not be told. -/
theorem informs_relayChat (service : p.service = Service.game) (text : Bytes) :
    Informs s (s.relayChat h p text) := by
  rcases s.relayChat_cases h p text with
    ⟨e, -, hrefused⟩ | ⟨-, hunread | ⟨session, text', -, hrelayed⟩⟩
  · exact hrefused ▸ informs_respond service e none
  · exact hunread.informs fun _ => rfl
  · exact hrelayed.informs fun k =>
      lastAcceptance_toEach (acceptance?_eq_none (sessionReply?_encode_of_other rfl)) _ k

/-- A host who changes options is told of them, and so are the other members. -/
theorem informs_changeOptions (service : p.service = Service.game)
    (options : Except SessionError SessionOptions) : Informs s (s.changeOptions h p options) := by
  cases options with
  | error e => exact informs_respond service e _
  | ok options =>
    have houtcome := s.lobby.optionsOutcome_setOptions h options
    have hsame := s.lobby.connections_setOptions h options
    rw [changeOptions]
    generalize s.lobby.setOptions h options = outcome at houtcome hsame ⊢
    cases houtcome with
    | refused => exact informs_respond service _ _
    | @changed session named held member host =>
      refine ⟨_, _, hsame ▸ .refl _, posts_concludeOptions
        { s with lobby := s.lobby.store { session with options } } h p
        (Session.summary { session with options }), fun _ hl' => ?_⟩
      have hmember : h ∈ (s.lobby.store { session with options }).seated session.id := by
        rw [hl'.mem_seated_iff, Lobby.connection, hsame]
        exact named
      exact Lobby.informed_of_store hl' held rfl rfl
        (lastAcceptance_options hl' service hmember rfl)

/-- A request about a session tells the members what they need to know. -/
theorem informs_serveRequest (hl : s.lobby.Consistent drawn) {request : GameRequest}
    (asked : s.IsSessionRequest h p request) : Informs s (s.serveRequest h p request) := by
  have hservice := asked.2.1
  cases request with
  | characterList => exact absurd rfl asked.2.2.2
  | create options =>
    cases options with
    | error e => exact informs_respond hservice e _
    | ok options =>
      exact informs_concludeJoin (Lobby.joinOutcome_createAndJoin hl h options)
        (Lobby.tells_createAndJoin hl h options) hservice
  | join id =>
    exact informs_concludeJoin (s.lobby.joinOutcome_join id h) (s.lobby.tells_join id h) hservice
  | joinAny =>
    exact informs_concludeJoin (Lobby.joinOutcome_findOrCreateAndJoin hl h)
      (Lobby.tells_findOrCreateAndJoin hl h) hservice
  | leave => exact informs_leaveSession hl hservice
  | chat text => exact informs_relayChat hservice text
  | setOptions options => exact informs_changeOptions hservice options

/-- A packet that is handled tells the members what they need to know. -/
theorem informs_handle (hl : s.lobby.Consistent drawn) (front : Front) :
    Informs s (s.handle front h p) := by
  rcases s.handle_cases front h p with ⟨payloads, ⟨hasides, -⟩, hposts⟩ | ⟨-, request, hasked, heq⟩
  · refine hposts.informs fun k => lastAcceptance_eq_none fun payload hpayload => ?_
    unfold Post.onlyTo at hpayload
    split at hpayload
    · exact acceptance?_eq_none (hasides payload hpayload).2.2
    · cases hpayload
  · exact heq ▸ informs_serveRequest hl hasked

/-- The end of a connection tells the members what they need to know. -/
theorem informs_leaveOnDisconnect (hl : s.lobby.Consistent drawn) (h : Handle) :
    Informs s (s.leaveOnDisconnect h) := by
  have hquiet := s.lobby.quietMoves_leave h
  have hterms := s.lobby.terms?_leave h
  have hreseated := s.lobby.reseated_leave h
  rcases leaveOnDisconnect_cases hl h with ⟨-, hsame⟩ | ⟨d, l, hleft, -, hposts⟩
  · rw [hsame]
    exact (Posts.refl s).informs fun _ => rfl
  · rw [hleft] at hquiet hterms hreseated
    exact informs_of_quiet hl hquiet hreseated hposts
      (fun _ k _ => lastAcceptance_toEach (acceptance?_eq_none (sessionReply?_leftNotice _)) _ k)
      fun id _ _ => congrFun hterms id

/-- A pass of the scheduler tells the members what they need to know, unless the time of a session
overflows. -/
theorem informs_tick (hl : s.lobby.Consistent drawn) {delta : Duration}
    (ticked : (s.tick delta).1 = .ok ()) : Informs s (s.tick delta).2 := by
  have hquiet := s.lobby.quietMoves_tickAll delta
  have hterms := s.lobby.terms?_tickAll delta
  have hreseated := s.lobby.reseated_tickAll delta
  obtain ⟨departures, l, hpass, hposts⟩ := exists_posts_tick ticked
  rw [hpass] at hquiet hterms hreseated
  exact informs_of_quiet hl hquiet hreseated hposts
    (fun _ k _ => lastAcceptance_departures l departures k) fun id _ _ => congrFun hterms id

/-- Reclaiming the sessions without members is nothing that members need to be told. -/
theorem informs_sweep (hl : s.lobby.Consistent drawn) : Informs s s.sweep := by
  refine informs_of_quiet hl (.quiet .reclaimed rfl) (.refl _) (.of_eq rfl rfl) (fun _ _ _ => rfl)
    fun id k hk => ?_
  obtain ⟨options, hterms⟩ := Lobby.exists_terms_of_mem_seated hk
  rw [hterms, Lobby.terms?_of_sweepEmpty hl.keys hterms]

/-- Every event but a run of the writers tells the members what they need to know, unless the time
of a session overflows. -/
theorem informs_step (hl : s.lobby.Consistent drawn) {e : Event} (working : e ≠ .settle)
    (ticked : ∀ delta, e = .tick delta → (s.tick delta).1 = .ok ()) : Informs s (s.step e) := by
  have quietly {s' : ServerState} (hs : s.Posts .nobody s') : Informs s s' :=
    hs.informs fun _ => rfl
  cases e with
  | packet front h p => exact informs_handle hl front
  | close h => exact quietly (.close s h)
  | disconnect front h =>
    cases front with
    | gateway => exact quietly (.refl s)
    | game => exact informs_leaveOnDisconnect hl h
  | tick delta => exact informs_tick hl (ticked delta rfl)
  | sweep => exact informs_sweep hl
  | settle => exact absurd rfl working
  | createAccount login email password salt => exact quietly (.of_eq rfl rfl)
  | setBanned login banned => exact quietly (.of_eq rfl rfl)
  | addCharacter login name classId level => exact quietly (.of_eq rfl rfl)
  | setAvailable available => exact quietly (.of_eq rfl rfl)
  | announce call d _ => exact quietly (.of_eq rfl rfl)
  | reorder sessions =>
    exact informs_of_quiet hl (s.lobby.quietMoves_reorder sessions)
      (connections_reorder s.lobby sessions ▸ .refl _) (.refl _) (fun _ _ _ => rfl)
      fun id _ _ => congrFun (Lobby.terms?_reorder hl.keys sessions) id
  | reorderMembers id members =>
    exact informs_of_quiet hl (s.lobby.quietMoves_reorderMembers id members)
      (connections_reorderMembers s.lobby id members ▸ .refl _) (.refl _) (fun _ _ _ => rfl)
      fun id' _ _ => congrFun (s.lobby.terms?_reorderMembers id members) id'

/-- Whoever is an open member after a step knows the session, from this step or from before it. -/
theorem known_of_step {drawn' : Nat} (hl : s.lobby.Consistent drawn) {e : Event}
    (hl' : (s.step e).lobby.Consistent drawn') (writers : ∀ k, (s.connection k).hasWriter = true)
    {id : SessionId} {k : Handle} (member : k ∈ (s.step e).lobby.seated id)
    (isOpen : ((s.step e).connection k).isOpen = true) :
    lastAcceptance (s.queuedBy e k) = (s.step e).lobby.reply? id ∨
      lastAcceptance (s.queuedBy e k) = none ∧ k ∈ s.lobby.seated id ∧
        (s.step e).lobby.reply? id = s.lobby.reply? id := by
  by_cases hsettle : e = .settle
  · subst hsettle
    obtain ⟨hsteady, -⟩ := s.steady_settle
    have hlobby : s.settle.lobby = { s.lobby with connections := s.settle.lobby.connections } :=
      hsteady.lobby
    rw [step, hlobby] at member ⊢
    rw [queuedBy_settle]
    exact .inr ⟨rfl, member, rfl⟩
  by_cases hticked : ∀ delta, e = .tick delta → (s.tick delta).1 = .ok ()
  · obtain ⟨l, post, hreseated, hposts, hinformed⟩ := informs_step hl hsettle hticked
    have hlobby : (s.step e).lobby =
        { l with connections := (s.step e).lobby.connections } := hposts.lobby
    have hbefore : l.Consistent drawn' := hposts.steady.consistent_before hl'
    rw [queuedBy_of_posts hreseated hposts (.inl (writers k)), if_pos isOpen]
    rw [hlobby] at member ⊢
    rcases hinformed drawn' hbefore id k member with htold | ⟨hsilent, hstayed, hterms⟩
    · exact .inl htold
    · exact .inr ⟨hsilent, hstayed, congrArg _ hterms⟩
  · push Not at hticked
    obtain ⟨delta, rfl, hoverflow⟩ := hticked
    have hterms := congrFun (s.lobby.terms?_tickAll delta) id
    rw [queuedBy_tick_of_overflow hoverflow]
    rw [step_tick_of_overflow hoverflow] at member hl' ⊢
    exact .inr ⟨rfl, Lobby.mem_seated_of_quiet hl hl' (s.lobby.quietMoves_tickAll delta) member,
      congrArg _ hterms⟩

/-- Whoever is an open member after a run of a server that starts without sessions knows the
session. -/
theorem known_of_run (hl : s.lobby.Consistent drawn) (empty : s.lobby.sessions = [])
    (writers : ∀ k, (s.connection k).hasWriter = true) (events : List Event)
    (room : drawn + s.idsDrawn events < 2 ^ 32 - 1) {id : SessionId} {k : Handle}
    (member : k ∈ (s.run events).lobby.seated id)
    (isOpen : ((s.run events).connection k).isOpen = true) :
    lastAcceptance (s.queuedIn events k) = (s.run events).lobby.reply? id := by
  induction events using List.reverseRecOn with
  | nil =>
    have hnone : s.lobby.session? id = none := by simp [Lobby.session?, empty]
    change k ∈ s.lobby.seated id at member
    simp [Lobby.seated, Lobby.roster_of_none hnone] at member
  | append_singleton earlier e ih =>
    have hafter := consistent_run hl (earlier ++ [e]) room
    rw [idsDrawn_append] at room
    have hbefore := consistent_run hl earlier (by omega)
    have hwriters (k : Handle) : ((s.run earlier).connection k).hasWriter = true :=
      (hasWriter_run hl earlier (by omega) k).trans (writers k)
    rw [run_concat] at member isOpen hafter ⊢
    rw [queuedIn_concat, lastAcceptance_append]
    rcases known_of_step hbefore hafter hwriters member isOpen with
      htold | ⟨hsilent, hstayed, hsame⟩
    · obtain ⟨options, hterms⟩ := Lobby.exists_terms_of_mem_seated member
      rw [htold, Lobby.reply?, hterms]
      rfl
    · obtain ⟨l, hprogress⟩ := exists_progress_step hbefore e
      rw [hsilent, hsame, ih (by omega) hstayed (hprogress.opened isOpen)]
      rfl

/-- In every run of a server that starts without sessions, whatever happens and in whatever order,
if the counter of session ids does not run out: the last reply of status 0 about a session that is
queued to an open connection which is a member of a session names this session, and carries its
difficulty and its mode. -/
theorem view_of_run {s : ServerState} {maxPlayers maxSessions : Nat} {cs : Connections}
    (lobby : s.lobby = .new maxPlayers maxSessions cs) (free : ∀ c ∈ cs.opened, c.session = none)
    (writers : ∀ c ∈ cs.opened, c.hasWriter = true) (events : List Event)
    (room : s.idsDrawn events < 2 ^ 32 - 1) :
    ∀ session ∈ (s.run events).lobby.sessions, ∀ m ∈ session.members,
      ((s.run events).connection m.handle).isOpen = true →
      lastAcceptance (s.queuedIn events m.handle) = some
        ⟨0, session.id.value, session.options.difficulty.byte, session.options.mode.byte⟩ := by
  have hl : s.lobby.Consistent 0 := by
    rw [lobby]
    exact Lobby.consistent_new maxPlayers maxSessions free
  have hwriters (k : Handle) : (s.connection k).hasWriter = true := by
    rw [connection, lobby]
    exact Connections.forall_get writers (fun _ => rfl) k
  have hafter := consistent_run hl events (by omega)
  intro session hsession m hm hopen
  have hfound : (s.run events).lobby.session? session.id = some session :=
    Lobby.session?_eq_some hafter.keys hsession
  have hmember : m.handle ∈ (s.run events).lobby.seated session.id := by
    rw [Lobby.seated, Lobby.roster_of_session? hfound]
    exact List.mem_map_of_mem hm
  rw [known_of_run hl (by rw [lobby]; rfl) hwriters events (by omega) hmember hopen, Lobby.reply?,
    Lobby.terms?_of_session? hfound]
  rfl

/-- The host leaves and comes back after the new one has set options, and then asks in vain for
others. -/
def formerHostReturns : List Event :=
  [.packet .game 0 ⟨Service.game, Method.createSession, 1, []⟩,
    .packet .game 1 ⟨Service.game, Method.joinSession, 2, [0, 0, 0, 1]⟩,
    .packet .game 0 ⟨Service.game, Method.leaveSession, 3, []⟩,
    .packet .game 1 ⟨Service.game, Method.setSessionOptions, 4, [1, 2]⟩,
    .packet .game 0 ⟨Service.game, Method.joinSession, 5, [0, 0, 0, 1]⟩,
    .packet .game 0 ⟨Service.game, Method.setSessionOptions, 6, [2, 0]⟩]

/-- Both players know the options that the new host has set. -/
theorem view_of_run_formerHostReturns :
    let s := twoPlayers.run formerHostReturns
    let alice : Member := ⟨⟨1⟩, 0, "alice", 2⟩
    let bob : Member := ⟨⟨2⟩, 1, "bob", 1⟩
    let session : Session := ⟨⟨1⟩, ⟨.hard, .rift⟩, 4, [bob, alice], some bob.id, .zero, 0, false⟩
    twoPlayers.idsDrawn formerHostReturns < 2 ^ 32 - 1 ∧ session ∈ s.lobby.sessions ∧
      (s.connection 0).isOpen = true ∧ (s.connection 1).isOpen = true ∧
      lastAcceptance (twoPlayers.queuedIn formerHostReturns 0) = some ⟨0, 1, 1, 2⟩ ∧
      lastAcceptance (twoPlayers.queuedIn formerHostReturns 1) = some ⟨0, 1, 1, 2⟩ := by
  intro s alice bob session
  have hfree : ∀ c ∈ twoPlayers.lobby.connections.opened, c.session = none := by decide
  have hwriters : ∀ c ∈ twoPlayers.lobby.connections.opened, c.hasWriter = true := by decide
  have hdrawn : twoPlayers.idsDrawn formerHostReturns < 2 ^ 32 - 1 := by decide +kernel
  have hsession : session ∈ s.lobby.sessions := by decide +kernel
  have halice : (s.connection 0).isOpen = true := by decide +kernel
  have hbob : (s.connection 1).isOpen = true := by decide +kernel
  have hview := view_of_run rfl hfree hwriters formerHostReturns hdrawn session hsession
  exact ⟨hdrawn, hsession, halice, hbob, hview alice (by decide) halice,
    hview bob (by decide) hbob⟩

end ServerState

end PlayServer
