import PlayServer.Proofs.Server.Consistency

/-!
# Announcements

In every run of a server, in whatever order packets, closes, ends of connections and passes of the
scheduler come, the members of a session are told of everybody who joins it or leaves it, once, and
nobody is told otherwise: `announcements_of_run`.

What an event queues to a connection is read off the queues before and after it. `tally_of_run` adds
up what a member is told while it stays: the notices account for the change in the members.
-/

namespace PlayServer

namespace Lobby

variable {l l' l'' : Lobby} {post : Post}

/-- Announcements are about rosters alone. -/
theorem Announced.of_roster (h : l.Announced l' post) (roster : l''.roster = l'.roster) :
    l.Announced l'' post := by
  have hseated : l''.seated = l'.seated := by
    funext id
    rw [seated, roster, seated]
  have hnotices : l.noticesFor l'' = l.noticesFor l' := by
    funext id k
    simp only [noticesFor, arrivals, departures, roster, hseated]
  refine ⟨?_, ?_, ?_⟩
  · rw [roster]
    exact h.kept
  · rw [hseated, hnotices]
    exact h.members
  · rw [hseated]
    exact h.others

/-- Members who arrive come to those who stay, and those who depart go: the logins add up. -/
theorem Announced.count_login {drawn drawn' : Nat} (h : l.Announced l' post)
    (hl : l.Consistent drawn) (hl' : l'.Consistent drawn') (id : SessionId) (login : String) :
    ((l'.roster id).map (·.login)).count login +
        ((l.departures l' id).map (·.login)).count login =
      ((l.roster id).map (·.login)).count login +
        ((l.arrivals l' id).map (·.login)).count login := by
  have split (ms : List Member) (p : Member → Bool) :
      (ms.map (·.login)).count login = ((ms.filter p).map (·.login)).count login +
        ((ms.filter fun m => !p m).map (·.login)).count login := by
    rw [← List.count_append, ← List.map_append]
    exact ((List.filter_append_perm p ms).map _).symm.count_eq login
  -- Who stays is the same member before and after.
  have hstay : ((l'.roster id).filter fun m => !decide (m.handle ∉ l.seated id)).Perm
      ((l.roster id).filter fun m => !decide (m.handle ∉ l'.seated id)) := by
    apply (List.perm_ext_iff_of_nodup ((List.Nodup.of_map _ (hl'.nodup_seated id)).filter _)
      ((List.Nodup.of_map _ (hl.nodup_seated id)).filter _)).mpr
    intro m
    simp only [List.mem_filter, Bool.not_eq_true', decide_eq_false_iff_not, not_not]
    constructor
    · rintro ⟨hm, hbefore⟩
      exact ⟨h.kept id m hm hbefore, List.mem_map_of_mem hm⟩
    · rintro ⟨hm, hafter⟩
      obtain ⟨m', hm', hhandle⟩ := List.mem_map.mp hafter
      have hbefore : m'.handle ∈ l.seated id := hhandle ▸ List.mem_map_of_mem hm
      have hsame : m' = m :=
        List.inj_on_of_nodup_map (hl.nodup_seated id) (h.kept id m' hm' hbefore) hm hhandle
      exact ⟨hsame ▸ hm', List.mem_map_of_mem hm⟩
  rw [split (l'.roster id) (·.handle ∉ l.seated id), split (l.roster id) (·.handle ∉ l'.seated id),
    (hstay.map (·.login)).count_eq login, arrivals, departures]
  omega

end Lobby

/-- Whether a payload is a notice that tells of a login by a method. -/
def tells (method : UInt16) (login : String) (payload : Bytes) : Bool :=
  isNotice payload && (Header.decode payload).method == method && noticeLogin? payload == some login

/-- A notice of a player who has joined tells of just that. -/
theorem tells_joinedNotice {login' : String} (fits : (utf8 login').length ≤ maxShortText)
    (method : UInt16) (login : String) : tells method login (joinedNotice login') =
      (Method.playerJoined == method && login' == login) := by
  have hmethod : (Header.decode (joinedNotice login')).method = Method.playerJoined := by
    rw [joinedNotice, Packet.encode, Header.decode_encode]
    rfl
  rw [tells, isNotice_joinedNotice, hmethod, joinedNotice, noticeLogin?_encode fits]
  rfl

/-- A notice of a player who has left tells of just that. -/
theorem tells_leftNotice {login' : String} (fits : (utf8 login').length ≤ maxShortText)
    (method : UInt16) (login : String) : tells method login (leftNotice login') =
      (Method.playerLeft == method && login' == login) := by
  have hmethod : (Header.decode (leftNotice login')).method = Method.playerLeft := by
    rw [leftNotice, Packet.encode, Header.decode_encode]
    rfl
  rw [tells, isNotice_leftNotice, hmethod, leftNotice, noticeLogin?_encode fits]
  rfl

/-- Only notices tell of a login. -/
theorem countP_tells_notices (method : UInt16) (login : String) (payloads : List Bytes) :
    (notices payloads).countP (tells method login) = payloads.countP (tells method login) := by
  rw [notices, List.countP_filter]
  apply List.countP_congr
  intro payload _
  simp only [tells, Bool.and_eq_true]
  tauto

namespace Lobby

variable {l l' : Lobby} {id : SessionId} {k : Handle}

/-- Who stays in a session is told of everybody who arrives under a login. -/
theorem countP_joined_noticesFor (stays : k ∈ l.seated id)
    (fits : ∀ m, m ∈ l.roster id ∨ m ∈ l'.roster id → (utf8 m.login).length ≤ maxShortText)
    (login : String) : (l.noticesFor l' id k).countP (tells Method.playerJoined login) =
      ((l.arrivals l' id).map (·.login)).count login := by
  have hself : (l.arrivals l' id).filter (·.handle != k) = l.arrivals l' id := by
    apply List.filter_eq_self.mpr
    intro m hm
    have hnew : m.handle ∉ l.seated id := by simpa using (List.mem_filter.mp hm).2
    rw [bne_iff_ne]
    rintro rfl
    exact hnew stays
  rw [noticesFor, hself, List.countP_append, List.countP_map, List.countP_map, List.count,
    List.countP_map]
  have hleft : (l.departures l' id).countP
      (tells Method.playerJoined login ∘ fun m => leftNotice m.login) = 0 := by
    rw [List.countP_eq_zero]
    intro m hm
    have hfits := fits m (.inl (List.mem_of_mem_filter hm))
    simp [tells_leftNotice hfits, Method.playerLeft, Method.playerJoined]
  rw [hleft, Nat.add_zero]
  apply List.countP_congr
  intro m hm
  have hfits := fits m (.inr (List.mem_of_mem_filter hm))
  simp [tells_joinedNotice hfits]

/-- Who is in a session is told of everybody who departs under a login. -/
theorem countP_left_noticesFor
    (fits : ∀ m, m ∈ l.roster id ∨ m ∈ l'.roster id → (utf8 m.login).length ≤ maxShortText)
    (login : String) : (l.noticesFor l' id k).countP (tells Method.playerLeft login) =
      ((l.departures l' id).map (·.login)).count login := by
  rw [noticesFor, List.countP_append, List.countP_map, List.countP_map, List.count,
    List.countP_map]
  have hjoined : ((l.arrivals l' id).filter (·.handle != k)).countP
      (tells Method.playerLeft login ∘ fun m => joinedNotice m.login) = 0 := by
    rw [List.countP_eq_zero]
    intro m hm
    have hfits := fits m (.inr (List.mem_of_mem_filter (List.mem_of_mem_filter hm)))
    simp [tells_joinedNotice hfits, Method.playerLeft, Method.playerJoined]
  rw [hjoined, Nat.zero_add]
  apply List.countP_congr
  intro m hm
  have hfits := fits m (.inl (List.mem_of_mem_filter hm))
  simp [tells_leftNotice hfits]

end Lobby

namespace ServerState

/-- No pass of the scheduler in a run makes the time of a session overflow. -/
def TicksInTime (s : ServerState) : List Event → Prop
  | [] => True
  | e :: rest =>
    (∀ delta, e = .tick delta → (s.tick delta).1 = .ok ()) ∧ (s.step e).TicksInTime rest

variable {s : ServerState} {drawn : Nat}

/-- What an event queues to open connections announces who has changed places, and to closed ones it
queues nothing. -/
theorem announced_of_step (hs : s.InOrder drawn) {e : Event}
    (room : drawn + s.idsBetween (s.step e) < 2 ^ 32 - 1)
    (ticked : ∀ delta, e = .tick delta → (s.tick delta).1 = .ok ()) :
    ∃ post, s.lobby.Announced (s.step e).lobby post ∧
      ∀ k, s.queuedBy e k = if ((s.step e).connection k).isOpen then post k else [] := by
  have hafter := (hs.step e room).consistent
  by_cases hsettle : e = .settle
  · subst hsettle
    have hsteady := s.steady_settle.1
    have hroster : s.settle.lobby.roster = s.lobby.roster := by
      rw [hsteady.lobby]
      rfl
    refine ⟨.nobody, ?_, fun k => ?_⟩
    · exact Lobby.announced_of_seats hs.consistent hafter (fun id m hm => hroster ▸ hm)
        (fun k => (hsteady.connections k).session) fun _ => rfl
    · rw [queuedBy_settle, Post.nobody, ite_self]
  · obtain ⟨l, post, turn⟩ := turns_step hs.consistent hsettle ticked
    have hmoved := turn.announced hs.identified _ (turn.progress.moved hs.consistent room)
    exact ⟨post, hmoved.of_roster turn.posts.roster, turn.queuedBy_eq hs.writers⟩

/-- What an event queues to an open member of a session are the notices of who else has joined it
and who has left it. -/
theorem notices_queuedBy (hs : s.InOrder drawn) {e : Event}
    (room : drawn + s.idsBetween (s.step e) < 2 ^ 32 - 1)
    (ticked : ∀ delta, e = .tick delta → (s.tick delta).1 = .ok ()) :
    (∀ id, ∀ k ∈ (s.step e).lobby.seated id, ((s.step e).connection k).isOpen = true →
      notices (s.queuedBy e k) = s.lobby.noticesFor (s.step e).lobby id k) ∧
    ∀ k, ((s.step e).connection k).isOpen = false ∨ (∀ id, k ∉ (s.step e).lobby.seated id) →
      notices (s.queuedBy e k) = [] := by
  obtain ⟨post, hannounced, hqueued⟩ := announced_of_step hs room ticked
  refine ⟨fun id k hk hopen => ?_, fun k hk => ?_⟩
  · rw [hqueued, if_pos hopen]
    exact hannounced.members id k hk
  · rw [hqueued]
    split
    · next hopen =>
      rcases hk with hclosed | hnowhere
      · simp [hopen] at hclosed
      · exact hannounced.others k hnowhere
    · rfl

/-- Members have logged in under the logins that they are recorded with. -/
theorem InOrder.login_of_mem (hs : s.InOrder drawn) {id : SessionId} {m : Member}
    (hm : m ∈ s.lobby.roster id) : (s.connection m.handle).login = some m.login ∧
      (utf8 m.login).length ≤ maxShortText := by
  have hmember : s.lobby.HasMember m := by
    cases hfound : s.lobby.session? id with
    | none => simp [Lobby.roster_of_none hfound] at hm
    | some session =>
      rw [Lobby.roster_of_session? hfound] at hm
      exact ⟨session, (Lobby.mem_of_session? hfound).1, hm⟩
  have hstate := hs.members m hmember
  have hlogin : (s.connection m.handle).login = some m.login := congrArg Prod.snd hstate
  obtain ⟨login, hlogin', hfits⟩ :=
    hs.identified m.handle (Connection.isAuthenticated_of_loginState hstate)
  obtain rfl : m.login = login := Option.some.inj (hlogin.symm.trans hlogin')
  exact ⟨hlogin, hfits⟩

/-- What one event tells a member that stays accounts for the change in the members. -/
theorem tally_of_step (hs : s.InOrder drawn) {e : Event}
    (room : drawn + s.idsBetween (s.step e) < 2 ^ 32 - 1)
    (ticked : ∀ delta, e = .tick delta → (s.tick delta).1 = .ok ()) {id : SessionId} {k : Handle}
    (before : k ∈ s.lobby.seated id) (after : k ∈ (s.step e).lobby.seated id)
    (isOpen : ((s.step e).connection k).isOpen = true) (login : String) :
    (((s.step e).lobby.roster id).map (·.login)).count login +
        (s.queuedBy e k).countP (tells Method.playerLeft login) =
      ((s.lobby.roster id).map (·.login)).count login +
        (s.queuedBy e k).countP (tells Method.playerJoined login) := by
  obtain ⟨post, hannounced, -⟩ := announced_of_step hs room ticked
  have hafter := hs.step e room
  have hnotices := (notices_queuedBy hs room ticked).1 id k after isOpen
  have hfits : ∀ m, m ∈ s.lobby.roster id ∨ m ∈ (s.step e).lobby.roster id →
      (utf8 m.login).length ≤ maxShortText := by
    rintro m (hm | hm)
    · exact (hs.login_of_mem hm).2
    · exact (hafter.login_of_mem hm).2
  rw [← countP_tells_notices, ← countP_tells_notices Method.playerJoined, hnotices,
    Lobby.countP_joined_noticesFor before hfits, Lobby.countP_left_noticesFor hfits]
  exact hannounced.count_login hs.consistent hafter.consistent id login

/-- A connection that is open after a step was open before. -/
theorem Progress.opened {s s' : ServerState} {l : Lobby} (h : s.Progress l s') {k : Handle}
    (hopen : (s'.connection k).isOpen = true) : (s.connection k).isOpen = true := by
  have hmoved : (l.connection k).isOpen = true := (h.steady.connections k).opened hopen
  rw [Lobby.connection, (h.reseated k).isOpen] at hmoved
  exact hmoved

/-- A connection that is open after a run was open before. -/
theorem InOrder.opened (hs : s.InOrder drawn) {events : List Event}
    (room : drawn + s.idsDrawn events < 2 ^ 32 - 1) {k : Handle}
    (hopen : ((s.run events).connection k).isOpen = true) : (s.connection k).isOpen = true := by
  induction events generalizing s drawn with
  | nil => exact hopen
  | cons e rest ih =>
    simp only [idsDrawn, ← Nat.add_assoc] at room
    obtain ⟨l, hprogress⟩ := exists_progress_step hs.consistent e
    exact hprogress.opened (ih (hs.step e (by omega)) room hopen)

/-- What a run tells a member that stays accounts for the change in the members. -/
theorem tally_of_run (hs : s.InOrder drawn) {events : List Event}
    (room : drawn + s.idsDrawn events < 2 ^ 32 - 1) (ticked : s.TicksInTime events)
    {id : SessionId} {k : Handle}
    (stays : ∀ earlier later, events = earlier ++ later → k ∈ (s.run earlier).lobby.seated id)
    (isOpen : ((s.run events).connection k).isOpen = true) (login : String) :
    (((s.run events).lobby.roster id).map (·.login)).count login +
        (s.queuedIn events k).countP (tells Method.playerLeft login) =
      ((s.lobby.roster id).map (·.login)).count login +
        (s.queuedIn events k).countP (tells Method.playerJoined login) := by
  induction events generalizing s drawn with
  | nil => rfl
  | cons e rest ih =>
    simp only [idsDrawn, ← Nat.add_assoc] at room
    have hafter := hs.step e (by omega)
    have hfirst := tally_of_step hs (by omega) ticked.1 (stays [] _ rfl) (stays [e] rest rfl)
      (hafter.opened room isOpen) login
    have hrest := ih hafter room ticked.2
      (fun earlier later he => stays (e :: earlier) later (by rw [he]; rfl)) isOpen
    rw [queuedIn, List.countP_append, List.countP_append]
    change (((s.step e).run rest).lobby.roster id |>.map (·.login)).count login + _ = _
    omega

/-- Time is kept in the parts of a run. -/
theorem TicksInTime.append {s : ServerState} {earlier later : List Event}
    (h : s.TicksInTime (earlier ++ later)) :
    s.TicksInTime earlier ∧ (s.run earlier).TicksInTime later := by
  induction earlier generalizing s with
  | nil => exact ⟨trivial, h⟩
  | cons e rest ih =>
    obtain ⟨hfirst, hrest⟩ := h
    obtain ⟨hearlier, hlater⟩ := ih hrest
    exact ⟨⟨hfirst, hearlier⟩, hlater⟩

/-- In every run of a server that starts without sessions, whatever happens and in whatever order,
if the counter of session ids does not run out and no session's time overflows: with every event,
what is queued to an open connection that is then a member of a session are, apart from all else,
exactly one notice for each other player who has become a member by it and one for each who has
stopped being one, and to all other connections no such notice is queued; the notices carry the
logins under which the players have logged in. So for a member that stays and is open, the notices
that it has been sent about a login, of joining less of leaving, are the change in the number of
members with this login. -/
theorem announcements_of_run {s : ServerState} {maxPlayers maxSessions : Nat} {cs : Connections}
    (lobby : s.lobby = .new maxPlayers maxSessions cs) (starts : ∀ c ∈ cs.opened, Starts c)
    (events : List Event) (room : s.idsDrawn events < 2 ^ 32 - 1)
    (ticked : s.TicksInTime events) :
    (∀ earlier e later, events = earlier ++ e :: later →
      let before := s.run earlier
      let after := before.step e
      (∀ id, ∀ k ∈ after.lobby.seated id, (after.connection k).isOpen = true →
        notices (before.queuedBy e k) =
          ((before.lobby.arrivals after.lobby id).filter (·.handle != k)).map
              (fun m => joinedNotice m.login) ++
            (before.lobby.departures after.lobby id).map fun m => leftNotice m.login) ∧
      (∀ k, (after.connection k).isOpen = false ∨ (∀ id, k ∉ after.lobby.seated id) →
        notices (before.queuedBy e k) = []) ∧
      (∀ id, ∀ m ∈ before.lobby.roster id, (before.connection m.handle).login = some m.login) ∧
      ∀ id, ∀ m ∈ after.lobby.roster id, (after.connection m.handle).login = some m.login) ∧
    ∀ earlier stay later, events = earlier ++ (stay ++ later) → ∀ id k,
      (∀ first rest, stay = first ++ rest →
        k ∈ ((s.run earlier).run first).lobby.seated id) →
      (((s.run earlier).run stay).connection k).isOpen = true → ∀ login,
      ((((s.run earlier).run stay).lobby.roster id).map (·.login)).count login +
          ((s.run earlier).queuedIn stay k).countP (tells Method.playerLeft login) =
        (((s.run earlier).lobby.roster id).map (·.login)).count login +
          ((s.run earlier).queuedIn stay k).countP (tells Method.playerJoined login) := by
  have hs : s.InOrder 0 := inOrder_of_start lobby starts
  constructor
  · rintro earlier e later rfl before after
    rw [idsDrawn_append, idsDrawn] at room
    have hbefore := hs.run earlier (by omega)
    have hroom : 0 + s.idsDrawn earlier +
        (s.run earlier).idsBetween ((s.run earlier).step e) < 2 ^ 32 - 1 := by omega
    have hafter := hbefore.step e hroom
    obtain ⟨hmembers, hothers⟩ := notices_queuedBy hbefore hroom ticked.append.2.1
    exact ⟨hmembers, hothers, fun id m hm => (hbefore.login_of_mem hm).1,
      fun id m hm => (hafter.login_of_mem hm).1⟩
  · rintro earlier stay later rfl id k hstays hopen login
    rw [idsDrawn_append, idsDrawn_append] at room
    have hbefore := hs.run earlier (by omega)
    exact tally_of_run hbefore (by omega) ticked.append.2.append.1 hstays hopen login

/-- A server with two players who have logged in. -/
def twoPlayers : ServerState where
  lobby := .new 4 16
    { opened :=
        [{ id := ⟨1⟩, address := default, auth := .authenticated, login := some "alice" },
          { id := ⟨2⟩, address := default, auth := .authenticated, login := some "bob" }] }
  gateway := { maxPerAddress := 8 }
  game := { maxPerAddress := 8 }

/-- Their connections are as they may be when a server starts. -/
theorem starts_twoPlayers : ∀ c ∈ twoPlayers.lobby.connections.opened, Starts c := by
  intro c hc
  obtain rfl | rfl : _ ∨ _ := by simpa [twoPlayers, Lobby.new] using hc
  · exact ⟨rfl, rfl, fun _ => ⟨"alice", rfl, by decide⟩⟩
  · exact ⟨rfl, rfl, fun _ => ⟨"bob", rfl, by decide⟩⟩

/-- One player opens a session, the other joins it and goes away, and the scheduler notices. -/
def joinThenVanish : List Event :=
  [.packet .game 0 ⟨Service.game, Method.createSession, 1, []⟩,
    .packet .game 1 ⟨Service.game, Method.joinSession, 2, [0, 0, 0, 1]⟩, .close 1, .tick .zero]

/-- The first player is told that the other has joined, and at last that it has left. -/
theorem announcements_of_run_joinThenVanish :
    twoPlayers.idsDrawn joinThenVanish < 2 ^ 32 - 1 ∧ twoPlayers.TicksInTime joinThenVanish ∧
      notices ((twoPlayers.run (joinThenVanish.take 1)).queuedBy
        (.packet .game 1 ⟨Service.game, Method.joinSession, 2, [0, 0, 0, 1]⟩) 0) =
          [joinedNotice "bob"] ∧
      notices ((twoPlayers.run (joinThenVanish.take 3)).queuedBy (.tick .zero) 0) =
          [leftNotice "bob"] := by
  have hroom : twoPlayers.idsDrawn joinThenVanish < 2 ^ 32 - 1 := by decide +kernel
  have hticked : twoPlayers.TicksInTime joinThenVanish := by
    refine ⟨?_, ?_, ?_, ?_, trivial⟩
    · rintro delta ⟨⟩
    · rintro delta ⟨⟩
    · rintro delta ⟨⟩
    · rintro delta ⟨⟩
      decide +kernel
  obtain ⟨hall, -⟩ := announcements_of_run rfl starts_twoPlayers joinThenVanish hroom hticked
  refine ⟨hroom, hticked, ?_, ?_⟩
  · have hjoined := (hall (joinThenVanish.take 1) _ (joinThenVanish.drop 2) rfl).1 ⟨1⟩ 0
      (by decide +kernel) (by decide +kernel)
    rw [hjoined]
    decide +kernel
  · have hleft := (hall (joinThenVanish.take 3) _ [] rfl).1 ⟨1⟩ 0
      (by decide +kernel) (by decide +kernel)
    rw [hleft]
    decide +kernel

end ServerState

end PlayServer
