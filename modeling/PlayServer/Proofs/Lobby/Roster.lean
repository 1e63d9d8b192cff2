import PlayServer.Proofs.Lobby.Membership

/-!
# Rosters

`Lobby.roster` gives the members of the session under an id, and none where there is no session. It
forgets everything else about sessions: opening a session, reclaiming one without members, changing
options and letting time pass change no roster.

Each operation on members is characterised by what it does to the rosters and to the connections,
which keep all but the session that they name: a join has `JoinOutcome`, a departure has
`LeaveOutcome`, and `tickAll_spec` says what a pass of the scheduler does. Joins, departures and new
options change nothing but the connection that asks for them and the session that it names before
or after: `ChangesOnly`.
-/

namespace PlayServer

/-- Nothing has changed about a connection but which session it names. -/
def Connection.Reseated (c c' : Connection) : Prop := c' = { c with session := c'.session }

namespace Connection.Reseated

/-- A connection that names the same session as before. -/
theorem refl (c : Connection) : c.Reseated c := rfl

/-- A connection that has changed its place twice has changed its place. -/
theorem trans {a b c : Connection} (h : a.Reseated b) (h' : b.Reseated c) : a.Reseated c := by
  rw [Reseated] at h h' ⊢
  rw [h', h]

/-- A connection that changes its place stays open or closed. -/
theorem isOpen {c c' : Connection} (h : c.Reseated c') : c'.isOpen = c.isOpen := by
  rw [h]

end Connection.Reseated

/-- Releasing a connection changes its place. -/
theorem Connection.reseated_releaseSession (c : Connection) (id : SessionId) :
    c.Reseated (c.releaseSession id) := by
  unfold releaseSession
  split <;> rfl

/-- No connection has changed but for the session that it names. -/
def Connections.Reseated (cs cs' : Connections) : Prop := ∀ k, (cs.get k).Reseated (cs'.get k)

namespace Connections

/-- No connection has changed its place. -/
theorem Reseated.refl (cs : Connections) : cs.Reseated cs := fun k => .refl (cs.get k)

/-- Connections that have changed places twice have changed places. -/
theorem Reseated.trans {a b c : Connections} (h : a.Reseated b) (h' : b.Reseated c) :
    a.Reseated c :=
  fun k => (h k).trans (h' k)

/-- One connection changes its place. -/
theorem reseated_set {cs : Connections} {h : Handle} {c : Connection}
    (hc : (cs.get h).Reseated c) : cs.Reseated (cs.set h c) := by
  intro k
  rw [get_set]
  split
  · next hk => exact hk ▸ hc
  · exact .refl _

end Connections

namespace Session

/-- Taking members out changes only the places of connections. -/
theorem reseated_leaveEach (s : Session) (cs : Connections) (ids : List ConnectionId) :
    cs.Reseated (s.leaveEach cs ids).2.2 := by
  induction ids generalizing s cs with
  | nil => exact .refl cs
  | cons id rest ih =>
    unfold leaveEach
    split
    · exact ih s cs
    · next login s₁ cs₁ hl =>
      obtain ⟨m, -, -, -, rfl⟩ := leave_eq_some_iff.mp hl
      have hfirst : cs.Reseated (cs.update m.handle (·.releaseSession s.id)) :=
        Connections.reseated_set (Connection.reseated_releaseSession _ _)
      exact hfirst.trans (ih s₁ _)

/-- The logins given for members that are taken out, each under an id of its own. -/
theorem logins_leaveEach {s : Session} (keys : (s.members.map (·.id)).Nodup) (cs : Connections)
    {gone : List Member} (hgone : gone.Sublist s.members) :
    (s.leaveEach cs (gone.map (·.id))).1 = gone.map (·.login) := by
  induction gone generalizing s cs with
  | nil => rfl
  | cons m rest ih =>
    have hmem : m ∈ s.members := hgone.subset List.mem_cons_self
    have hfound : s.member? m.id = some m := member?_eq_some keys hmem
    obtain ⟨s₁, cs₁, hl⟩ : ∃ s₁ cs₁, s.leave cs m.id = some (m.login, s₁, cs₁) := by
      rw [leave, hfound]
      exact ⟨_, _, rfl⟩
    obtain ⟨_, -, -, hs₁, -⟩ := leave_eq_some_iff.mp hl
    have hmembers : s₁.members = s.members.filter (·.id != m.id) := by rw [hs₁]
    -- The others are still members, since no two members share an id.
    have hrest : rest.Sublist s₁.members := by
      have hne : ∀ m' ∈ rest, (m'.id != m.id) = true := by
        have hnodup := (hgone.map (·.id)).nodup keys
        rw [List.map_cons, List.nodup_cons] at hnodup
        intro m' hm'
        rw [bne_iff_ne]
        intro he
        exact hnodup.1 (he ▸ List.mem_map_of_mem hm')
      rw [hmembers, ← List.filter_eq_self.mpr hne]
      exact ((List.sublist_cons_self m rest).trans hgone).filter _
    have hkeys : (s₁.members.map (·.id)).Nodup := by
      rw [hmembers]
      exact (List.filter_sublist.map _).nodup keys
    rw [List.map_cons, leaveEach, hl]
    dsimp only
    rw [ih hkeys cs₁ hrest, List.map_cons]

/-- When time passes in a session only the places of connections change. -/
theorem reseated_tick {s s' : Session} {cs cs' : Connections} {delta : Duration}
    {logins : List String} (ticked : s.tick cs delta = .ok (logins, s', cs')) :
    cs.Reseated cs' := by
  unfold tick at ticked
  split at ticked
  · cases ticked
  next elapsed _ =>
  obtain ⟨-, -, rfl⟩ : _ ∧ _ ∧ _ := by simpa [Prod.ext_iff, eq_comm] using ticked
  exact reseated_leaveEach _ _ _

/-- A session in which time passes keeps exactly the members whose connections are open, and gives
the logins of the others. -/
theorem tick_spec {s s' : Session} {cs cs' : Connections} {delta : Duration} {logins : List String}
    (keys : (s.members.map (·.id)).Nodup) (ticked : s.tick cs delta = .ok (logins, s', cs')) :
    s'.id = s.id ∧ s'.members = (s.members.filter fun m => (cs.get m.handle).isOpen) ∧
      logins = (s.members.filter fun m => !(cs.get m.handle).isOpen).map (·.login) := by
  unfold tick at ticked
  split at ticked
  · cases ticked
  next elapsed _ =>
  obtain ⟨rfl, rfl, rfl⟩ : _ ∧ _ ∧ _ := by simpa [Prod.ext_iff, eq_comm] using ticked
  refine ⟨id_leaveEach _ _ _, ?_, ?_⟩
  · rw [members_leaveEach]
    apply List.filter_congr
    intro m hm
    have hgone : m.id ∈ (s.members.filter fun m => !(cs.get m.handle).isOpen).map (·.id) ↔
        (cs.get m.handle).isOpen = false := by
      constructor
      · intro hid
        obtain ⟨m', hm', he⟩ := List.mem_map.mp hid
        obtain ⟨hmem, hclosed⟩ := List.mem_filter.mp hm'
        obtain rfl := List.inj_on_of_nodup_map keys hmem hm he
        simpa using hclosed
      · intro hclosed
        exact List.mem_map_of_mem (List.mem_filter.mpr ⟨hm, by simp [hclosed]⟩)
    cases hopen : (cs.get m.handle).isOpen <;> simp [hgone, hopen]
  · exact logins_leaveEach (s := { s with elapsed, tickCount := s.tickCount + 1 }) keys cs
      List.filter_sublist

end Session

namespace Lobby

/-- The members of the session under an id. -/
def roster (l : Lobby) (id : SessionId) : List Member := (l.session? id).elim [] (·.members)

/-- The connections of the members of the session under an id. -/
def seated (l : Lobby) (id : SessionId) : List Handle := (l.roster id).map (·.handle)

/-- The members of a session that is found. -/
theorem roster_of_session? {l : Lobby} {id : SessionId} {s : Session}
    (h : l.session? id = some s) : l.roster id = s.members := by
  rw [roster, h]
  rfl

/-- Where the session is the same the members are. -/
theorem roster_congr {l l' : Lobby} {id : SessionId} (h : l'.session? id = l.session? id) :
    l'.roster id = l.roster id := by
  rw [roster, h, roster]

/-- Where there is no session there are no members. -/
theorem roster_of_none {l : Lobby} {id : SessionId} (h : l.session? id = none) :
    l.roster id = [] := by
  rw [roster, h]
  rfl

/-- Storing a session leaves those under other ids alone. -/
theorem session?_store_of_ne {l : Lobby} {s : Session} {id : SessionId} (hne : id ≠ s.id) :
    (l.store s).session? id = l.session? id := by
  unfold store
  split
  · simp only [session?, replace, List.find?_map]
    have hfun : ((fun u : Session => u.id == id) ∘ fun u : Session =>
        if (u.id == s.id) = true then s else u) = fun u : Session => u.id == id := by
      funext u
      by_cases hu : u.id = s.id
      · simp [hu]
      · simp [hu]
    rw [hfun]
    cases hfound : l.sessions.find? (fun u => u.id == id) with
    | none => rfl
    | some u =>
      have hid : u.id = id := by simpa using List.find?_some hfound
      simp [hid, hne]
  · rfl

/-- The rosters after a session has been stored. -/
theorem roster_store {l : Lobby} {s : Session} (known : (l.session? s.id).isSome = true)
    (id : SessionId) : (l.store s).roster id = if id = s.id then s.members else l.roster id := by
  split
  · next he =>
    subst he
    exact roster_of_session? (session?_store_self known)
  · next hne => exact roster_congr (session?_store_of_ne hne)

/-- Adding a session leaves those under other ids alone. -/
theorem session?_insert_of_ne {l : Lobby} {s : Session} {id : SessionId} (hne : id ≠ s.id) :
    (l.insert s).session? id = l.session? id := by
  rw [session?, insert, List.find?_append]
  have hlast : [s].find? (fun u => u.id == id) = none := by simp [Ne.symm hne]
  rw [hlast, Option.or_none, List.find?_filter]
  apply congrArg (fun p : Session → Bool => l.sessions.find? p)
  funext u
  by_cases hu : u.id = id
  · simp [hu, hne]
  · simp [hu]

/-- The rosters after a session has been added. -/
theorem roster_insert (l : Lobby) (s : Session) (id : SessionId) :
    (l.insert s).roster id = if id = s.id then s.members else l.roster id := by
  split
  · next he =>
    subst he
    exact roster_of_session? (session?_insert_self l s)
  · next hne => exact roster_congr (session?_insert_of_ne hne)

namespace Consistent

variable {l : Lobby} {drawn : Nat}

/-- A connection is on the roster of exactly the session that it names. -/
theorem mem_seated_iff (hl : l.Consistent drawn) {id : SessionId} {h : Handle} :
    h ∈ l.seated id ↔ (l.connection h).session = some id := by
  constructor
  · intro hmem
    cases hfound : l.session? id with
    | none => simp [seated, roster_of_none hfound] at hmem
    | some s =>
      obtain ⟨hs, rfl⟩ := mem_of_session? hfound
      rw [seated, roster_of_session? hfound] at hmem
      exact ((hl.sound s hs).associated h).mpr (by simpa using hmem)
  · intro hnamed
    obtain ⟨s, hs, rfl⟩ := List.mem_map.mp (hl.known h id hnamed)
    rw [seated, roster_of_session? (session?_eq_some hl.keys hs)]
    simpa using ((hl.sound s hs).associated h).mp hnamed

/-- A connection names a session exactly when the table holds this session and its members bind the
id of the connection to this connection. -/
theorem session_iff (hl : l.Consistent drawn) (h : Handle) (id : SessionId) :
    (l.connection h).session = some id ↔ ∃ s m, l.session? id = some s ∧
      s.member? (l.connection h).id = some m ∧ m.handle = h := by
  rw [← hl.mem_seated_iff]
  constructor
  · intro hseated
    obtain ⟨m, hm, rfl⟩ := List.mem_map.mp hseated
    cases hs : l.session? id with
    | none => simp [roster_of_none hs] at hm
    | some s =>
      rw [roster_of_session? hs] at hm
      exact ⟨s, m, rfl, (hl.sound s (mem_of_session? hs).1).member?_eq_some hm, rfl⟩
  · rintro ⟨s, m, hs, hm, rfl⟩
    rw [seated, roster_of_session? hs]
    exact List.mem_map_of_mem (Session.mem_of_member? hm).1

/-- A member is recorded under the id of its connection. -/
theorem id_of_mem_roster (hl : l.Consistent drawn) {id : SessionId} {m : Member}
    (hm : m ∈ l.roster id) : m.id = (l.connection m.handle).id := by
  cases hfound : l.session? id with
  | none => simp [roster_of_none hfound] at hm
  | some s =>
    rw [roster_of_session? hfound] at hm
    exact (hl.sound s (mem_of_session? hfound).1).named m hm

/-- The members of a session have ids of their own. -/
theorem nodup_ids (hl : l.Consistent drawn) (id : SessionId) :
    ((l.roster id).map (·.id)).Nodup := by
  cases hfound : l.session? id with
  | none => simp [roster_of_none hfound]
  | some s =>
    rw [roster_of_session? hfound]
    exact (hl.sound s (mem_of_session? hfound).1).keys

/-- No connection is on a roster twice. -/
theorem nodup_seated (hl : l.Consistent drawn) (id : SessionId) : (l.seated id).Nodup :=
  Session.nodup_handle_of_named (hl.nodup_ids id) fun _ hm => hl.id_of_mem_roster hm

/-- Of two members of one session with the same id, or the same connection, each is the other. -/
theorem id_eq_iff_handle_eq (hl : l.Consistent drawn) {id : SessionId} {m m' : Member}
    (hm : m ∈ l.roster id) (hm' : m' ∈ l.roster id) : m.id = m'.id ↔ m.handle = m'.handle :=
  Session.id_eq_iff_handle_eq_of_named (hl.nodup_ids id) (fun _ hm => hl.id_of_mem_roster hm) hm hm'

/-- The next id is that of no session. -/
theorem session?_nextId (hl : l.Consistent drawn) : l.session? ⟨l.nextId⟩ = none := by
  rw [session?, List.find?_eq_none]
  intro s hs he
  have hfresh := hl.fresh s hs
  have hcounter := hl.counter
  rw [beq_iff_eq] at he
  rw [he] at hfresh
  dsimp only at hfresh
  omega

/-- Under the next id there are no members. -/
theorem roster_nextId (hl : l.Consistent drawn) : l.roster ⟨l.nextId⟩ = [] :=
  roster_of_none hl.session?_nextId

end Consistent

/-- A connection that named no session has become a member of one, and the other sessions are the
same. -/
structure Admits (l : Lobby) (id : SessionId) (h : Handle) (l' : Lobby) : Prop where
  joined : ∃ now, l'.roster id =
    l.roster id ++ [⟨(l.connection h).id, h, Session.loginOf (l.connection h), now⟩]
  others : ∀ id', id' ≠ id → l'.session? id' = l.session? id'
  free : (l.connection h).session = none
  connections : l'.connections = l.connections.set h { l.connection h with session := some id }

/-- What an attempt to join comes to: the connection is admitted to the session that is told of, or
all sessions are the same. -/
inductive JoinOutcome (l : Lobby) (h : Handle) : Except SessionError SessionSummary × Lobby → Prop
  | admitted {summary : SessionSummary} {l' : Lobby} (admits : Admits l summary.id h l') :
    JoinOutcome l h (.ok summary, l')
  | refused {e : SessionError} {l' : Lobby} (sessions : l'.session? = l.session?)
    (connections : l'.connections = l.connections) : JoinOutcome l h (.error e, l')

/-- Joining a session that is there. -/
theorem joinOutcome_joinSession {l : Lobby} {s : Session} (held : l.session? s.id = some s)
    (h : Handle) : JoinOutcome l h (l.joinSession s h) := by
  unfold joinSession
  split
  · exact .refused rfl rfl
  next s' cs joins =>
  obtain ⟨-, -, -, hfree, rfl, rfl⟩ := Session.join_eq_ok_iff.mp joins
  have hknown : (l.session? s.id).isSome = true := by
    rw [held]
    rfl
  refine .admitted ⟨⟨l.clock, ?_⟩, fun id' hne => ?_, hfree, by rw [connections_store]; rfl⟩
  · rw [roster_store (by exact hknown)]
    simp [Session.summary, roster_of_session? held, connection]
  · exact session?_store_of_ne (by simpa [Session.summary] using hne)

/-- Joining the session under an id. -/
theorem joinOutcome_join (l : Lobby) (id : SessionId) (h : Handle) :
    JoinOutcome l h (l.join id h) := by
  unfold join
  split
  · exact .refused rfl rfl
  · next s hs => exact joinOutcome_joinSession (by rw [(mem_of_session? hs).2, hs]) h

/-- Creating a session and joining it. -/
theorem joinOutcome_createAndJoin {l : Lobby} {drawn : Nat} (hl : l.Consistent drawn) (h : Handle)
    (options : SessionOptions) : JoinOutcome l h (l.createAndJoin h options) := by
  unfold createAndJoin
  split
  · exact .refused rfl rfl
  split
  · exact .refused rfl rfl
  next hfree _ _ _ hdraw =>
  obtain ⟨-, rfl, rfl⟩ := draw_eq_ok_iff.mp hdraw
  split
  · exact .refused rfl rfl
  next s cs joins =>
  obtain ⟨-, -, -, -, rfl, rfl⟩ := Session.join_eq_ok_iff.mp joins
  refine .admitted ⟨⟨l.clock, ?_⟩, fun id' hne => ?_, hfree, rfl⟩
  · rw [roster_insert]
    have hnew : l.roster ⟨l.nextId⟩ = [] := hl.roster_nextId
    simp [Session.summary, nextSession, hnew, connection, drawId]
  · exact session?_insert_of_ne (by simpa [Session.summary] using hne)

/-- Joining any session. -/
theorem joinOutcome_findOrCreateAndJoin {l : Lobby} {drawn : Nat} (hl : l.Consistent drawn)
    (h : Handle) : JoinOutcome l h (l.findOrCreateAndJoin h) := by
  rcases l.findOrCreateAndJoin_cases h with ⟨s, held, hjoin⟩ | hcreate
  · exact hjoin ▸ joinOutcome_joinSession held h
  · exact hcreate ▸ joinOutcome_createAndJoin hl h {}

/-- A connection has left the session that it named, which nobody else has joined or left, and the
other sessions are the same. -/
structure Dismisses (l : Lobby) (h : Handle) (d : Departure) (l' : Lobby) : Prop where
  member : ∃ m ∈ l.roster d.session, m.handle = h ∧ m.login = d.login
  left : l'.roster d.session = (l.roster d.session).filter (·.handle != h)
  others : ∀ id', id' ≠ d.session → l'.session? id' = l.session? id'
  connections : l'.connections = l.connections.update h (·.releaseSession d.session)

/-- What an attempt to leave comes to: the connection leaves the session that is told of, or it
named none. -/
inductive LeaveOutcome (l : Lobby) (h : Handle) : Except SessionError Departure × Lobby → Prop
  | dismissed {d : Departure} {l' : Lobby} (dismisses : Dismisses l h d l') :
    LeaveOutcome l h (.ok d, l')
  | refused {e : SessionError} (free : (l.connection h).session = none) :
    LeaveOutcome l h (.error e, l)

/-- Leaving the session that a connection names. -/
theorem leaveOutcome_leave {l : Lobby} {drawn : Nat} (hl : l.Consistent drawn) (h : Handle) :
    LeaveOutcome l h (l.leave h) := by
  unfold leave
  dsimp only
  split
  · next hfree => exact .refused hfree
  next id hnamed =>
  -- The session that a connection names is there, and has the connection as a member.
  obtain ⟨m, hm, hmh⟩ := List.mem_map.mp (hl.mem_seated_iff.mpr hnamed)
  subst hmh
  cases hfound : l.session? id with
  | none => simp [roster_of_none hfound] at hm
  | some s =>
    have hid := (mem_of_session? hfound).2
    subst hid
    have hsound := hl.sound s (mem_of_session? hfound).1
    have hms : m ∈ s.members := roster_of_session? hfound ▸ hm
    have hmember : s.member? (l.connection m.handle).id = some m := hsound.member?_eq_some hms
    have hleave : s.leave l.connections (l.connection m.handle).id = some (m.login,
        { s with
          members := s.members.filter (·.id != (l.connection m.handle).id)
          host := if s.host = some (l.connection m.handle).id then
            (Session.earliest? (s.members.filter (·.id != (l.connection m.handle).id))).map (·.id)
            else s.host },
        l.connections.update m.handle (·.releaseSession s.id)) :=
      Session.leave_eq_some_iff.mpr ⟨m, hmember, rfl, rfl, rfl⟩
    have hstays : s.members.filter (·.id != (l.connection m.handle).id) =
        s.members.filter (·.handle != m.handle) := by
      apply List.filter_congr
      intro m' hm'
      rw [← hl.id_of_mem_roster hm, Bool.eq_iff_iff, bne_iff_ne, bne_iff_ne]
      exact not_congr (hl.id_eq_iff_handle_eq (roster_of_session? hfound ▸ hm') hm)
    have hknown : (l.session? s.id).isSome = true := by
      rw [hfound]
      rfl
    rw [leaveReferred, referred?_of_session? hfound]
    dsimp only
    rw [hleave]
    refine .dismissed ⟨⟨m, hm, rfl, rfl⟩, ?_, fun id' hne => ?_, by rw [connections_store]⟩
    · rw [roster_store (by exact hknown), if_pos rfl, roster_of_session? hfound, ← hstays]
    · exact session?_store_of_ne hne

/-- Joining a session changes only the place of a connection. -/
theorem reseated_joinSession (l : Lobby) (s : Session) (h : Handle) :
    l.connections.Reseated (l.joinSession s h).2.connections := by
  unfold joinSession
  split
  · exact .refl _
  · next s' cs joins =>
    obtain ⟨-, -, -, -, -, rfl⟩ := Session.join_eq_ok_iff.mp joins
    rw [connections_store]
    exact Connections.reseated_set rfl

/-- Joining the session under an id changes only the place of a connection. -/
theorem reseated_join (l : Lobby) (id : SessionId) (h : Handle) :
    l.connections.Reseated (l.join id h).2.connections := by
  unfold join
  split
  · exact .refl _
  · exact l.reseated_joinSession _ h

/-- Creating a session and joining it changes only the place of a connection. -/
theorem reseated_createAndJoin (l : Lobby) (h : Handle) (options : SessionOptions) :
    l.connections.Reseated (l.createAndJoin h options).2.connections := by
  unfold createAndJoin
  split
  · exact .refl _
  split
  · exact .refl _
  next hdraw =>
  obtain ⟨-, rfl, rfl⟩ := draw_eq_ok_iff.mp hdraw
  split
  · exact .refl _
  · next s cs joins =>
    obtain ⟨-, -, -, -, -, rfl⟩ := Session.join_eq_ok_iff.mp joins
    exact Connections.reseated_set rfl

/-- Joining any session changes only the place of a connection. -/
theorem reseated_findOrCreateAndJoin (l : Lobby) (h : Handle) :
    l.connections.Reseated (l.findOrCreateAndJoin h).2.connections := by
  rcases l.findOrCreateAndJoin_cases h with ⟨s, -, hjoin⟩ | hcreate
  · exact hjoin ▸ l.reseated_joinSession s h
  · exact hcreate ▸ l.reseated_createAndJoin h {}

/-- Leaving a session changes only the places of connections. -/
theorem reseated_leave (l : Lobby) (h : Handle) :
    l.connections.Reseated (l.leave h).2.connections := by
  have hreleased (k : Handle) (id : SessionId) :
      l.connections.Reseated (l.connections.update k (·.releaseSession id)) :=
    Connections.reseated_set (Connection.reseated_releaseSession _ _)
  unfold leave
  dsimp only
  split
  · exact .refl _
  next id _ =>
  split
  · exact hreleased h id
  next s hs =>
  rw [leaveReferred, referred?_of_session? hs]
  dsimp only
  cases hleave : s.leave l.connections (l.connection h).id with
  | none => exact .refl _
  | some left =>
    obtain ⟨login, s', cs⟩ := left
    obtain ⟨m, -, -, -, rfl⟩ := Session.leave_eq_some_iff.mp hleave
    dsimp only
    rw [connections_store]
    exact hreleased m.handle s.id

/-- Members of the session under an id that have left, among some who have left sessions. -/
def loginsOf (departures : List Departure) (id : SessionId) : List String :=
  (departures.filter (·.session == id)).map (·.login)

/-- When time passes in one session only the places of connections change. -/
theorem reseated_tickReferred (l : Lobby) (id : SessionId) (delta : Duration) :
    l.connections.Reseated (l.tickReferred id delta).2.connections := by
  unfold tickReferred
  split
  · exact .refl _
  split
  · exact .refl _
  · next logins s' cs hticked =>
    rw [connections_store]
    exact Session.reseated_tick hticked

/-- When time passes in some sessions only the places of connections change. -/
theorem reseated_tickEach (l : Lobby) (delta : Duration) (ids : List SessionId) :
    l.connections.Reseated (l.tickEach delta ids).2.connections := by
  induction ids generalizing l with
  | nil => exact .refl _
  | cons id rest ih =>
    have hfirst := l.reseated_tickReferred id delta
    unfold tickEach
    split
    · exact ih l
    split
    · next e l₁ heq => rwa [heq] at hfirst
    · next logins l₁ heq =>
      rw [heq] at hfirst
      have hall := hfirst.trans (ih l₁)
      dsimp only
      split
      · next e l₂ heq' => rwa [heq'] at hall
      · next later l₂ heq' => rwa [heq'] at hall

/-- A pass of the scheduler changes only the places of connections. -/
theorem reseated_tickAll (l : Lobby) (delta : Duration) :
    l.connections.Reseated (l.tickAll delta).2.connections :=
  l.reseated_tickEach delta _

/-- Time passes in the session under an id that is there. -/
theorem tickReferred_spec {l l' : Lobby} {id : SessionId} {delta : Duration} {logins : List String}
    (keys : ((l.roster id).map (·.id)).Nodup) (known : (l.session? id).isSome = true)
    (ticked : l.tickReferred id delta = (.ok logins, l')) :
    (∀ id', l'.roster id' = if id' = id then
        (l.roster id).filter fun m => (l.connection m.handle).isOpen else l.roster id') ∧
      logins = ((l.roster id).filter fun m => !(l.connection m.handle).isOpen).map (·.login) := by
  obtain ⟨s, hs⟩ := Option.isSome_iff_exists.mp known
  obtain ⟨-, rfl⟩ := mem_of_session? hs
  rw [roster_of_session? hs] at keys ⊢
  rw [tickReferred, referred?_of_session? hs] at ticked
  dsimp only at ticked
  split at ticked
  · cases ticked
  next logins' s' cs hticked =>
  obtain ⟨rfl, rfl⟩ : _ ∧ _ := by simpa [eq_comm] using ticked
  obtain ⟨hid, hmembers, hlogins⟩ := Session.tick_spec keys hticked
  refine ⟨fun id' => ?_, hlogins⟩
  have hknown : (l.session? s'.id).isSome = true := by rwa [hid]
  rw [roster_store (by exact hknown), hid, hmembers]
  rfl

/-- Time passes in some sessions that are there. -/
theorem tickEach_spec {l l' : Lobby} {delta : Duration} {ids : List SessionId}
    {departures : List Departure} (keys : ∀ id, ((l.roster id).map (·.id)).Nodup)
    (known : ∀ id ∈ ids, (l.session? id).isSome = true) (distinct : ids.Nodup)
    (ticked : l.tickEach delta ids = (.ok departures, l')) :
    (∀ id, l'.roster id = if id ∈ ids then
        (l.roster id).filter fun m => (l.connection m.handle).isOpen else l.roster id) ∧
      ∀ id, loginsOf departures id = if id ∈ ids then
        ((l.roster id).filter fun m => !(l.connection m.handle).isOpen).map (·.login) else [] := by
  induction ids generalizing l departures with
  | nil =>
    obtain ⟨rfl, rfl⟩ : _ ∧ _ := by simpa [tickEach, eq_comm] using ticked
    exact ⟨fun id => by simp, fun id => by simp [loginsOf]⟩
  | cons first rest ih =>
    obtain ⟨hfresh, hdistinct⟩ := List.nodup_cons.mp distinct
    have hrest : ∀ id ∈ rest, (l.session? id).isSome = true :=
      fun id hid => known id (List.mem_cons_of_mem _ hid)
    have hfirst := known first List.mem_cons_self
    obtain ⟨s, hs⟩ := Option.isSome_iff_exists.mp hfirst
    have hopen := l.reseated_tickReferred first delta
    unfold tickEach at ticked
    split at ticked
    · next hempty =>
      -- Nobody is in the first session, so nobody leaves it.
      have hnone : l.roster first = [] := by
        rw [roster_of_session? hs]
        simpa [referred?_of_session? hs, Session.isEmpty] using hempty
      obtain ⟨hrosters, hlogins⟩ := ih keys hrest hdistinct ticked
      refine ⟨fun id => ?_, fun id => ?_⟩
      · by_cases he : id = first
        · subst he
          simp [hrosters, hnone]
        · simp [hrosters, he]
      · by_cases he : id = first
        · subst he
          simp [hlogins, hnone, hfresh]
        · simp [hlogins, he]
    · split at ticked
      · cases ticked
      next logins l₁ heq =>
      dsimp only at ticked
      split at ticked
      · cases ticked
      next later l₂ heq₂ =>
      obtain ⟨rfl, rfl⟩ : _ ∧ _ := by simpa [eq_comm] using ticked
      obtain ⟨hrosters₁, hlogins₁⟩ := tickReferred_spec (keys first) hfirst heq
      have hkeys₁ : ∀ id, ((l₁.roster id).map (·.id)).Nodup := by
        intro id
        rw [hrosters₁]
        split
        · exact (List.filter_sublist.map _).nodup (keys first)
        · exact keys id
      have hsessions : l₁.sessions.map (·.id) = l.sessions.map (·.id) := by
        have hkept := (quietMoves_tickReferred hfirst delta).2
        rwa [heq] at hkept
      have hknown₁ : ∀ id ∈ rest, (l₁.session? id).isSome = true := by
        intro id hid
        rw [session?_isSome_iff, hsessions]
        exact session?_isSome_iff.mp (hrest id hid)
      obtain ⟨hrosters₂, hlogins₂⟩ := ih hkeys₁ hknown₁ hdistinct heq₂
      rw [heq] at hopen
      have hopen (m : Member) : (l₁.connection m.handle).isOpen = (l.connection m.handle).isOpen :=
        (hopen m.handle).isOpen
      refine ⟨fun id => ?_, fun id => ?_⟩
      · by_cases he : id = first
        · subst he
          simp [hrosters₂, hrosters₁, hfresh]
        · simp [hrosters₂, hrosters₁, he, hopen]
      · rw [loginsOf, List.filter_append, List.map_append]
        have hlater : (later.filter (·.session == id)).map (·.login) = loginsOf later id := rfl
        rw [hlater, hlogins₂, List.filter_map]
        by_cases he : id = first
        · subst he
          simp [hfresh, hlogins₁, Function.comp_def]
        · simp [he, hrosters₁, hopen, Ne.symm he, Function.comp_def]

/-- A pass of the scheduler leaves on every roster exactly the members whose connections are open,
and gives the logins of the others under the ids of their sessions. -/
theorem tickAll_spec {l l' : Lobby} {drawn : Nat} (hl : l.Consistent drawn) {delta : Duration}
    {departures : List Departure} (ticked : l.tickAll delta = (.ok departures, l')) :
    (∀ id, l'.roster id = (l.roster id).filter fun m => (l.connection m.handle).isOpen) ∧
      ∀ id, loginsOf departures id =
        ((l.roster id).filter fun m => !(l.connection m.handle).isOpen).map (·.login) := by
  obtain ⟨hrosters, hlogins⟩ := tickEach_spec hl.nodup_ids
    (fun _ hid => session?_isSome_iff.mpr hid) hl.keys ticked
  have hnone {id : SessionId} (hunknown : id ∉ l.sessions.map (·.id)) : l.roster id = [] := by
    apply roster_of_none
    rw [← Option.not_isSome_iff_eq_none, session?_isSome_iff]
    exact hunknown
  refine ⟨fun id => ?_, fun id => ?_⟩
  · rw [hrosters]
    split
    · rfl
    · next hunknown => simp [hnone hunknown]
  · rw [hlogins]
    split
    · rfl
    · next hunknown => simp [hnone hunknown]

/-- What an attempt to change options comes to: they are those of the session that the connection
names from now on, of which it is a member and the host, or nothing has changed. -/
inductive OptionsOutcome (l : Lobby) (h : Handle) (options : SessionOptions) :
    Except SessionError SessionSummary × Lobby → Prop
  | changed {s : Session} (named : (l.connection h).session = some s.id)
    (held : l.session? s.id = some s) (member : s.hasMember (l.connection h).id = true)
    (host : s.host = some (l.connection h).id) :
    OptionsOutcome l h options
      (.ok (Session.summary { s with options }), l.store { s with options })
  | refused {e : SessionError} : OptionsOutcome l h options (.error e, l)

/-- Changing the options of the session that a connection names. -/
theorem optionsOutcome_setOptions (l : Lobby) (h : Handle) (options : SessionOptions) :
    OptionsOutcome l h options (l.setOptions h options) := by
  unfold setOptions
  dsimp only
  split
  · exact .refused
  next id hnamed =>
  split
  · exact .refused
  next s hs =>
  obtain ⟨-, rfl⟩ := mem_of_session? hs
  rw [setOptionsReferred, referred?_of_session? hs]
  dsimp only
  split
  · exact .refused
  · next s' changed =>
    obtain ⟨hmember, hhost, rfl⟩ := Session.setOptions_eq_ok_iff.mp changed
    exact .changed hnamed hs hmember hhost

/-- Changing options changes no connection. -/
theorem connections_setOptions (l : Lobby) (h : Handle) (options : SessionOptions) :
    (l.setOptions h options).2.connections = l.connections := by
  have houtcome := l.optionsOutcome_setOptions h options
  generalize l.setOptions h options = outcome at houtcome ⊢
  cases houtcome with
  | changed named held member host => exact connections_store _ _
  | refused => rfl

/-- Changing options changes the session that the connection names at most, and tells of it. -/
theorem setOptions_spec (l : Lobby) (h : Handle) (options : SessionOptions) :
    (∀ id, (l.connection h).session ≠ some id →
        (l.setOptions h options).2.session? id = l.session? id) ∧
      ∀ summary, (l.setOptions h options).1 = .ok summary →
        (l.connection h).session = some summary.id := by
  have houtcome := l.optionsOutcome_setOptions h options
  generalize l.setOptions h options = outcome at houtcome ⊢
  cases houtcome with
  | @changed s named held member host =>
    refine ⟨fun id hother => session?_store_of_ne ?_, fun summary told => ?_⟩
    · rintro rfl
      exact hother named
    · cases told
      exact named
  | refused => exact ⟨fun _ _ => rfl, fun _ told => by cases told⟩

/-- A connection is a member of the session that another one names. -/
def Fellow (l : Lobby) (h k : Handle) : Prop :=
  ∃ id, (l.connection h).session = some id ∧ k ∈ l.seated id

/-- What a connection does may concern another one: itself, or a fellow of it before or after. -/
def Concerned (h : Handle) (l l' : Lobby) (k : Handle) : Prop :=
  k = h ∨ l.Fellow h k ∨ l'.Fellow h k

/-- Nothing has changed but one connection and the sessions that it names, before or after. -/
structure ChangesOnly (h : Handle) (l l' : Lobby) : Prop where
  connections : ∀ k, k ≠ h → l'.connection k = l.connection k
  sessions : ∀ id, (l.connection h).session ≠ some id → (l'.connection h).session ≠ some id →
    l'.session? id = l.session? id

/-- Whoever leaves a session has named it. -/
theorem Dismisses.named {l l' : Lobby} {h : Handle} {d : Departure} {drawn : Nat}
    (dismisses : Dismisses l h d l') (hl : l.Consistent drawn) :
    (l.connection h).session = some d.session := by
  obtain ⟨m, hm, rfl, -⟩ := dismisses.member
  exact hl.mem_seated_iff.mp (List.mem_map_of_mem hm)

/-- Whoever has left a session is a member of none. -/
theorem Dismisses.not_mem_seated {l l' : Lobby} {h : Handle} {d : Departure} {drawn : Nat}
    (dismisses : Dismisses l h d l') (hl : l.Consistent drawn) (id : SessionId) :
    h ∉ l'.seated id := by
  intro hmember
  by_cases hid : id = d.session
  · subst hid
    rw [seated, dismisses.left] at hmember
    obtain ⟨m, hm, he⟩ := List.mem_map.mp hmember
    simpa [he] using (List.mem_filter.mp hm).2
  · rw [seated, roster_congr (dismisses.others id hid)] at hmember
    have hnamed := (hl.mem_seated_iff.mp hmember).symm.trans (dismisses.named hl)
    exact hid (Option.some.inj hnamed)

/-- Those who stay in a session were fellows of whoever has left it. -/
theorem Dismisses.fellow {l l' : Lobby} {h k : Handle} {d : Departure} {drawn : Nat}
    (dismisses : Dismisses l h d l') (hl : l.Consistent drawn) (stays : k ∈ l'.seated d.session) :
    l.Fellow h k := by
  refine ⟨d.session, dismisses.named hl, ?_⟩
  rw [seated, dismisses.left] at stays
  exact (List.filter_sublist.map _).subset stays

namespace ChangesOnly

variable {l l' : Lobby} {h : Handle}

/-- Nothing has changed. -/
theorem refl (h : Handle) (l : Lobby) : ChangesOnly h l l := ⟨fun _ _ => rfl, fun _ _ _ => rfl⟩

/-- An attempt to join changes only the connection that makes it, and the session that it joins. -/
theorem of_join {result : Except SessionError SessionSummary}
    (outcome : JoinOutcome l h (result, l')) : ChangesOnly h l l' := by
  cases outcome with
  | refused sessions connections =>
    refine ⟨fun k _ => ?_, fun id _ _ => congrFun sessions id⟩
    rw [connection, connections, connection]
  | @admitted summary _ admits =>
    have hconnection (k : Handle) : l'.connection k =
        if k = h then { l.connection h with session := some summary.id } else l.connection k := by
      rw [connection, admits.connections, Connections.get_set]
      rfl
    refine ⟨fun k hk => by rw [hconnection, if_neg hk], fun id _ hafter => ?_⟩
    apply admits.others
    rintro rfl
    exact hafter (by rw [hconnection, if_pos rfl])

/-- An attempt to leave changes only the connection that makes it, and the session that it leaves. -/
theorem of_leave {drawn : Nat} (hl : l.Consistent drawn) {result : Except SessionError Departure}
    (outcome : LeaveOutcome l h (result, l')) : ChangesOnly h l l' := by
  cases outcome with
  | refused free => exact .refl h l
  | dismissed dismisses =>
    refine ⟨fun k hk => ?_, fun id hbefore _ => ?_⟩
    · rw [connection, dismisses.connections, Connections.get_update, if_neg hk]
      rfl
    · apply dismisses.others
      rintro rfl
      exact hbefore (dismisses.named hl)

/-- Changing options changes only the session of the connection that does it. -/
theorem of_setOptions (l : Lobby) (h : Handle) (options : SessionOptions) :
    ChangesOnly h l (l.setOptions h options).2 where
  connections k _ := by rw [connection, connections_setOptions, connection]
  sessions id hbefore _ := (l.setOptions_spec h options).1 id hbefore

end ChangesOnly

end Lobby

end PlayServer
