import PlayServer.Proofs.Server.Announcement

/-!
# Refused requests

A request that is refused is answered with a status other than 0, and nobody else hears of it. In
`ServerState.refusals_of_run` this comes with the law of refusals for lobbies: an operation that
fails leaves no trace.

That a request is refused can be told from the request and the state of the server, and by its
sender from the answer.
-/

namespace PlayServer

/-- If a payload carries a reply about a session, its status is 0. -/
def IsFavourable (payload : Bytes) : Prop :=
  ∀ r, sessionReply? payload = some r → r.status = SessionReply.statusOk

/-- A payload that carries no reply. -/
theorem isFavourable_of_none {payload : Bytes} (h : sessionReply? payload = none) :
    IsFavourable payload := by
  intro r hr
  simp [h] at hr

/-- A payload that carries a reply of status 0. -/
theorem isFavourable_of_status {payload : Bytes} {r : SessionReply}
    (h : sessionReply? payload = some r) (ok : r.status = SessionReply.statusOk) :
    IsFavourable payload := by
  intro r' hr'
  obtain rfl : r = r' := Option.some.inj (h.symm.trans hr')
  exact ok

namespace ServerState

variable {s : ServerState} {h : Handle} {e : SessionError}

/-- An answer of status 0 to a connection, and then something else for members. -/
theorem favourable_andThen {p : Packet} (service : p.service = Service.game) {r : SessionReply}
    (ok : r.status = SessionReply.statusOk) {ms : List Member} {payload : Bytes}
    (other : IsFavourable payload) (k : Handle) :
    ∀ bs ∈ (Post.onlyTo h [sessionAnswer p r]).andThen (.toEach ms payload) k,
      IsFavourable bs := by
  intro bs hbs
  rcases List.mem_append.mp hbs with hanswer | hother
  · unfold Post.onlyTo at hanswer
    split at hanswer
    · obtain rfl := List.mem_singleton.mp hanswer
      exact isFavourable_of_status (sessionReply?_sessionAnswer service r) ok
    · cases hanswer
  · obtain ⟨m, -, rfl⟩ := List.mem_map.mp hother
    exact other

/-- A request that is not refused is answered with status 0, if at all, and so are the others. -/
theorem serveRequest_of_granted {request : GameRequest} {p : Packet}
    (asked : s.IsSessionRequest h p request) (granted : s.refusal? h request = none) :
    ∃ l post, s.lobby.connections.Reseated l.connections ∧
      ({ s with lobby := l } : ServerState).Posts post (s.serveRequest h p request) ∧
      ∀ k, ∀ payload ∈ post k, IsFavourable payload := by
  have hservice := asked.2.1
  have joining {outcome : Except SessionError SessionSummary × Lobby}
      (hgranted : refusalOf outcome.1 = none)
      (hreseated : s.lobby.connections.Reseated outcome.2.connections) :
      ∃ l post, s.lobby.connections.Reseated l.connections ∧
        ({ s with lobby := l } : ServerState).Posts post
          (({ s with lobby := outcome.2 } : ServerState).concludeJoin h p outcome.1) ∧
        ∀ k, ∀ payload ∈ post k, IsFavourable payload := by
    obtain ⟨e | summary, l⟩ := outcome
    · cases hgranted
    · exact ⟨l, _, hreseated, posts_concludeJoin { s with lobby := l } h p summary,
        favourable_andThen hservice rfl (isFavourable_of_none (sessionReply?_joinedNotice _))⟩
  cases request with
  | characterList => exact absurd rfl asked.2.2.2
  | create options =>
    cases options with
    | error e => cases granted
    | ok options => exact joining granted (s.lobby.reseated_createAndJoin h options)
  | join id => exact joining granted (s.lobby.reseated_join id h)
  | joinAny => exact joining granted (s.lobby.reseated_findOrCreateAndJoin h)
  | leave =>
    have hreseated := s.lobby.reseated_leave h
    rw [refusal?] at granted
    cases hleft : s.lobby.leave h with
    | mk result l =>
    rw [hleft] at granted hreseated
    cases result with
    | error e => cases granted
    | ok d =>
      exact ⟨l, _, hreseated, posts_leaveSession p hleft,
        favourable_andThen hservice rfl (isFavourable_of_none (sessionReply?_leftNotice _))⟩
  | chat text =>
    rcases s.relayChat_cases h p text with
      ⟨e, hrefused, -⟩ | ⟨-, hunread | ⟨session, text', -, hrelayed⟩⟩
    · simp [hrefused] at granted
    · exact ⟨s.lobby, _, .refl _, hunread, fun _ _ hnone => absurd hnone List.not_mem_nil⟩
    · refine ⟨s.lobby, _, .refl _, hrelayed, fun k payload hpayload => ?_⟩
      obtain ⟨m, -, rfl⟩ := List.mem_map.mp hpayload
      exact isFavourable_of_none (sessionReply?_encode_of_other rfl)
  | setOptions options =>
    cases options with
    | error e => cases granted
    | ok options =>
      have hsame := s.lobby.connections_setOptions h options
      rw [refusal?] at granted
      rw [serveRequest, changeOptions]
      generalize s.lobby.setOptions h options = outcome at granted hsame ⊢
      obtain ⟨e | summary, l⟩ := outcome
      · cases granted
      · exact ⟨l, _, hsame ▸ .refl _, posts_concludeOptions { s with lobby := l } h p summary,
          favourable_andThen hservice rfl
            (isFavourable_of_status (sessionReply?_optionsNotice _) rfl)⟩

/-- A packet is a request about a session that comes in at the game front end and is refused. -/
def Refuses (s : ServerState) (front : Front) (h : Handle) (p : Packet) (e : SessionError) : Prop :=
  front = .game ∧ ∃ request, s.IsSessionRequest h p request ∧ s.refusal? h request = some e

/-- A packet that is refused is answered, and nothing is queued to anybody else. -/
theorem queuedBy_of_refuses {front : Front} {p : Packet} (refuses : s.Refuses front h p e)
    {k : Handle} (hk : k ≠ h) : s.queuedBy (.packet front h p) k = [] := by
  obtain ⟨rfl, request, hasked, hrefused⟩ := refuses
  obtain ⟨l, current, hreseated, hserved⟩ := serveRequest_of_refused p hrefused
  have hposts := ({ s with lobby := l } : ServerState).posts_respond h p (.refusal e current)
  rw [← hserved, ← handle_of_isSessionRequest hasked] at hposts
  have hnone := Post.onlyTo_of_ne hk [sessionAnswer p (.refusal e current)]
  rw [queuedBy_of_posts (e := .packet .game h p) hreseated hposts (.inr hnone), hnone, ite_self]

/-- A packet that is answered with a status other than 0 is refused. -/
theorem refuses_of_queuedBy {front : Front} {p : Packet} {payload : Bytes} {r : SessionReply}
    (writer : (s.connection h).hasWriter = true)
    (queued : payload ∈ s.queuedBy (.packet front h p) h) (carries : sessionReply? payload = some r)
    (failed : r.status ≠ SessionReply.statusOk) :
    ∃ e, s.Refuses front h p e ∧ r.status = e.status := by
  -- Whatever has been posted, the payload is part of it.
  have posted {l : Lobby} {post : Post} (hreseated : s.lobby.connections.Reseated l.connections)
      (hposts : ({ s with lobby := l } : ServerState).Posts post (s.handle front h p)) :
      payload ∈ post h := by
    rw [queuedBy_of_posts (e := .packet front h p) hreseated hposts (.inl writer)] at queued
    split at queued
    · exact queued
    · cases queued
  rcases s.handle_cases front h p with
    ⟨payloads, ⟨hasides, -⟩, hposts⟩ | ⟨rfl, request, hasked, heq⟩
  · have hmem := posted (.refl _) hposts
    rw [Post.onlyTo, if_pos rfl] at hmem
    simp [(hasides payload hmem).2.2] at carries
  cases hrefusal : s.refusal? h request with
  | none =>
    obtain ⟨l, post, hreseated, hposts, hfavourable⟩ := serveRequest_of_granted hasked hrefusal
    have hmem := posted hreseated (heq ▸ hposts)
    exact absurd (hfavourable h payload hmem r carries) failed
  | some e =>
    obtain ⟨l, current, hreseated, hserved⟩ := serveRequest_of_refused p hrefusal
    have hposts := ({ s with lobby := l } : ServerState).posts_respond h p (.refusal e current)
    have hmem := posted hreseated (by rw [heq, hserved]; exact hposts)
    rw [Post.onlyTo, if_pos rfl, List.mem_singleton] at hmem
    rw [hmem, sessionReply?_sessionAnswer hasked.2.1] at carries
    obtain rfl := Option.some.inj carries
    exact ⟨e, ⟨rfl, request, hasked, hrefusal⟩, rfl⟩

/-- An operation that fails leaves no trace. In every state of a lobby whose sessions have room for
one, and in which the counter of session ids has not run out, any operation that is refused, with
whatever arguments, leaves the lobby as it was: the sessions with their members, hosts, options and
closed flags, what every connection names, and the next id. A packet that a server refuses as a
request about a session queues nothing to any connection but its sender; its status is not 0, and a
sender that can be answered is answered with such a status by no other packets. -/
theorem refusals_of_run (maxPlayers maxSessions : Nat) (room : 0 < maxPlayers) (cs : Connections)
    (free : ∀ c ∈ cs.opened, c.session = none) (ops : List Lobby.Operation)
    (drawn : (Lobby.new maxPlayers maxSessions cs).idsDrawn ops < 2 ^ 32 - 1) :
    let l := (Lobby.new maxPlayers maxSessions cs).run ops
    (∀ op e, l.refusal? op = some e → l.perform op = l) ∧
    ∀ (s : ServerState) (front : Front) (h : Handle) (p : Packet),
      (∀ e, s.Refuses front h p e →
        e.status ≠ 0 ∧ ∀ k, k ≠ h → s.queuedBy (.packet front h p) k = []) ∧
      ((s.connection h).hasWriter = true → ∀ payload ∈ s.queuedBy (.packet front h p) h,
        ∀ r, sessionReply? payload = some r → r.status ≠ 0 →
          ∃ e, s.Refuses front h p e ∧ r.status = e.status) := by
  intro l
  obtain ⟨hl, hplayers, -⟩ :=
    (Lobby.consistent_new maxPlayers maxSessions free).run ops (by omega)
  have hroom : 0 < l.maxPlayers := Nat.lt_of_lt_of_eq room hplayers.symm
  refine ⟨fun op e refused => Lobby.perform_of_refused hl hroom op refused,
    fun s front h p => ⟨fun e refuses => ?_, fun writer payload queued r carries failed => ?_⟩⟩
  · exact ⟨e.status_ne_zero, fun k hk => queuedBy_of_refuses refuses hk⟩
  · exact refuses_of_queuedBy writer queued carries failed

/-- A session that has no room for another player is as it was when one has asked for a place. A
member who asks for other options is told that it is not the host, and the host is told nothing. -/
theorem refusals_of_run_guestAsks :
    let l := (Lobby.new 1 16 Lobby.twoConnections).run [.createAndJoin 0 {}]
    let s := twoPlayers.run
      [.packet .game 0 ⟨Service.game, Method.createSession, 1, []⟩,
        .packet .game 1 ⟨Service.game, Method.joinSession, 2, [0, 0, 0, 1]⟩]
    let ask : Packet := ⟨Service.game, Method.setSessionOptions, 3, [1, 2]⟩
    0 < 1 ∧ (∀ c ∈ Lobby.twoConnections.opened, c.session = none) ∧
      (Lobby.new 1 16 Lobby.twoConnections).idsDrawn [.createAndJoin 0 {}] < 2 ^ 32 - 1 ∧
      l.refusal? (.join ⟨1⟩ 1) = some (.full 1) ∧ l.perform (.join ⟨1⟩ 1) = l ∧
      s.Refuses .game 1 ask .notHost ∧ (s.connection 0).isOpen = true ∧
      s.queuedBy (.packet .game 1 ask) 0 = [] := by
  intro l s ask
  have hfree : ∀ c ∈ Lobby.twoConnections.opened, c.session = none := by decide
  have hdrawn : (Lobby.new 1 16 Lobby.twoConnections).idsDrawn [.createAndJoin 0 {}] <
      2 ^ 32 - 1 := by decide
  obtain ⟨hunchanged, hunheard⟩ := refusals_of_run 1 16 (by decide) Lobby.twoConnections hfree
    [.createAndJoin 0 {}] hdrawn
  have hfull : l.refusal? (.join ⟨1⟩ 1) = some (.full 1) := by decide
  have hrefuses : s.Refuses .game 1 ask .notHost :=
    ⟨rfl, .setOptions (.ok ⟨.hard, .rift⟩), ⟨by decide +kernel, rfl, rfl, by simp⟩,
      by decide +kernel⟩
  exact ⟨by decide, hfree, hdrawn, hfull, hunchanged _ _ hfull, hrefuses, by decide +kernel,
    ((hunheard s .game 1 ask).1 _ hrefuses).2 0 (by decide)⟩

end ServerState

end PlayServer
