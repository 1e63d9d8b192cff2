import PlayServer.Proofs.Lobby.Admission

/-!
# Lobbies that agree but for one connection

Two lobbies agree but for a connection if all else is the same in both: the other connections, the
sessions, the limits and the counters. If no session has this connection as a member, then nothing
that is done for another one tells the two lobbies apart: the result is the same, and they agree but
for the connection as before.

A connection is outside of a lobby if it is a member of no session and names none. Moves that do not
admit it leave it outside.
-/

namespace PlayServer

namespace Connections

/-- Two tables agree on all connections but one, which was opened in both. -/
structure SameBut (u : Handle) (cs ds : Connections) : Prop where
  size : ds.size = cs.size
  opened : u < cs.size
  others : ∀ k, k ≠ u → ds.get k = cs.get k
  started : ds.started.filter (· != u) = cs.started.filter (· != u)

namespace SameBut

variable {u k : Handle} {cs ds : Connections}

/-- A table agrees with itself. -/
theorem refl (opened : u < cs.size) : cs.SameBut u cs := ⟨rfl, opened, fun _ _ => rfl, rfl⟩

/-- Agreement is mutual. -/
theorem symm (h : cs.SameBut u ds) : ds.SameBut u cs :=
  ⟨h.size.symm, h.size ▸ h.opened, fun k hk => (h.others k hk).symm, h.started.symm⟩

/-- Agreement goes on. -/
theorem trans {es : Connections} (h : cs.SameBut u ds) (h' : ds.SameBut u es) : cs.SameBut u es :=
  ⟨h'.size.trans h.size, h.opened, fun k hk => (h'.others k hk).trans (h.others k hk),
    h'.started.trans h.started⟩

/-- The other connections may be changed in the same way. -/
theorem set (h : cs.SameBut u ds) (other : k ≠ u) (c : Connection) :
    (cs.set k c).SameBut u (ds.set k c) where
  size := by rw [size_set, size_set, h.size]
  opened := by
    rw [size_set]
    exact Nat.lt_of_lt_of_le h.opened (Nat.le_max_left _ _)
  others j hj := by rw [get_set, get_set, h.others j hj]
  started := by
    rw [started_set, started_set, startedWith, startedWith, h.others k other]
    split
    · rw [List.filter_append, List.filter_append, h.started]
    · exact h.started

/-- The connection itself may be changed. -/
theorem set_left (h : cs.SameBut u ds) (c : Connection) : (cs.set u c).SameBut u ds where
  size := by
    rw [size_set, h.size]
    exact (Nat.max_eq_left h.opened).symm
  opened := by
    rw [size_set]
    exact Nat.lt_of_lt_of_le h.opened (Nat.le_max_left _ _)
  others j hj := by rw [get_set, if_neg hj, h.others j hj]
  started := by
    rw [started_set, startedWith, h.started]
    split <;> simp

/-- The other connections may be changed in the same way. -/
theorem update (h : cs.SameBut u ds) (other : k ≠ u) (change : Connection → Connection) :
    (cs.update k change).SameBut u (ds.update k change) := by
  unfold Connections.update
  rw [h.others k other]
  exact h.set other _

/-- It does not matter which writers are started. -/
theorem with_started (h : cs.SameBut u ds) (started : List Handle) :
    ({ cs with started } : Connections).SameBut u { ds with started } :=
  ⟨h.size, h.opened, h.others, rfl⟩

end SameBut

end Connections

namespace Session

variable {u k : Handle} {cs ds : Connections}

/-- Whether another connection joins a session, and what becomes of the session, is the same. -/
theorem join_agree (h : cs.SameBut u ds) (other : k ≠ u) (s : Session) (now : Nat) :
    (∃ e, s.join cs k now = .error e ∧ s.join ds k now = .error e) ∨
      ∃ s' cs' ds', s.join cs k now = .ok (s', cs') ∧ s.join ds k now = .ok (s', ds') ∧
        cs'.SameBut u ds' := by
  unfold join
  rw [h.others k other]
  dsimp only
  split
  · exact .inl ⟨_, rfl, rfl⟩
  split
  · exact .inl ⟨_, rfl, rfl⟩
  split
  · exact .inl ⟨_, rfl, rfl⟩
  split
  · exact .inl ⟨_, rfl, rfl⟩
  · exact .inr ⟨_, _, _, rfl, rfl, h.set other _⟩

section Members

variable {s : Session}

/-- Who leaves a session, and what becomes of the session, is the same. -/
theorem leave_agree (h : cs.SameBut u ds) (others : ∀ m ∈ s.members, m.handle ≠ u)
    (id : ConnectionId) :
    (s.leave cs id = none ∧ s.leave ds id = none) ∨
      ∃ login s' cs' ds', s.leave cs id = some (login, s', cs') ∧
        s.leave ds id = some (login, s', ds') ∧ cs'.SameBut u ds' ∧
        s'.members ⊆ s.members := by
  unfold leave
  cases hm : s.member? id with
  | none => exact .inl ⟨rfl, rfl⟩
  | some m =>
    have hother := others m (mem_of_member? hm).1
    exact .inr ⟨_, _, _, _, rfl, rfl, h.update hother _, List.filter_subset_self _⟩

/-- Taking members out of a session has the same result. -/
theorem leaveEach_agree (h : cs.SameBut u ds) (others : ∀ m ∈ s.members, m.handle ≠ u)
    (ids : List ConnectionId) :
    (s.leaveEach ds ids).1 = (s.leaveEach cs ids).1 ∧
      (s.leaveEach ds ids).2.1 = (s.leaveEach cs ids).2.1 ∧
      (s.leaveEach cs ids).2.2.SameBut u (s.leaveEach ds ids).2.2 := by
  induction ids generalizing s cs ds with
  | nil => exact ⟨rfl, rfl, h⟩
  | cons id rest ih =>
    unfold leaveEach
    rcases leave_agree h others id with ⟨hcs, hds⟩ | ⟨login, s', cs', ds', hcs, hds, h', hsub⟩
    · rw [hcs, hds]
      exact ih h others
    · rw [hcs, hds]
      obtain ⟨hlogins, hsession, htables⟩ := ih h' fun m hm => others m (hsub hm)
      exact ⟨congrArg (login :: ·) hlogins, hsession, htables⟩

/-- Sending to other connections has the same result. -/
theorem sendEach_agree (h : cs.SameBut u ds) (payload : Bytes) {ms : List Member}
    (others : ∀ m ∈ ms, m.handle ≠ u) :
    (sendEach ds payload ms).1 = (sendEach cs payload ms).1 ∧
      (sendEach cs payload ms).2.SameBut u (sendEach ds payload ms).2 := by
  induction ms generalizing cs ds with
  | nil => exact ⟨rfl, h⟩
  | cons m rest ih =>
    obtain ⟨hm, hrest⟩ := List.forall_mem_cons.mp others
    unfold sendEach
    rw [h.others _ hm]
    obtain ⟨hreport, htables⟩ := ih (h.set hm ((cs.get m.handle).sendBytes payload).2) hrest
    dsimp only
    split
    · exact ⟨by rw [hreport], htables⟩
    · exact ⟨by rw [hreport], htables⟩

/-- When time passes in a session the same becomes of it. -/
theorem tick_agree (h : cs.SameBut u ds) (others : ∀ m ∈ s.members, m.handle ≠ u)
    (delta : Duration) :
    (∃ e, s.tick cs delta = .error e ∧ s.tick ds delta = .error e) ∨
      ∃ logins s' cs' ds', s.tick cs delta = .ok (logins, s', cs') ∧
        s.tick ds delta = .ok (logins, s', ds') ∧ cs'.SameBut u ds' := by
  have hgone : (s.members.filter fun m => !(ds.get m.handle).isOpen) =
      s.members.filter fun m => !(cs.get m.handle).isOpen := by
    apply List.filter_congr
    intro m hm
    rw [h.others _ (others m hm)]
  unfold tick
  rw [hgone]
  split
  · exact .inl ⟨_, rfl, rfl⟩
  · next elapsed _ =>
    have hadvanced : ∀ m ∈ ({ s with elapsed, tickCount := s.tickCount + 1 } : Session).members,
        m.handle ≠ u := others
    obtain ⟨hlogins, hsession, htables⟩ := leaveEach_agree h hadvanced
      ((s.members.filter fun m => !(cs.get m.handle).isOpen).map (·.id))
    refine .inr ⟨_, _, _, _, rfl, ?_, htables⟩
    rw [← hlogins, ← hsession]

end Members

end Session

namespace Lobby

/-- Two lobbies agree but for a connection. -/
structure Agree (u : Handle) (l m : Lobby) : Prop where
  rest : m = { l with connections := m.connections }
  connections : l.connections.SameBut u m.connections

/-- Two operations had the same result, and the lobbies agree but for a connection. -/
structure Alike {α : Type} (u : Handle) (x y : α × Lobby) : Prop where
  result : y.1 = x.1
  lobby : x.2.Agree u y.2

/-- Two operations that went alike gave the same result and lobbies that agree. -/
theorem Alike.exists_eq {α : Type} {u : Handle} {x y : α × Lobby} (h : Alike u x y) :
    ∃ result l m, x = (result, l) ∧ y = (result, m) ∧ l.Agree u m :=
  ⟨x.1, x.2, y.2, rfl, Prod.ext h.result rfl, h.lobby⟩

/-- Storing a session touches no connection. -/
theorem store_with_connections (l : Lobby) (ds : Connections) (s : Session) :
    ({ l with connections := ds } : Lobby).store s = { l.store s with connections := ds } := by
  have hfound : ({ l with connections := ds } : Lobby).session? s.id = l.session? s.id := rfl
  unfold store
  rw [hfound]
  split <;> rfl

namespace Agree

variable {u k : Handle} {l m : Lobby}

/-- Lobbies that agree differ in their tables of connections only. -/
theorem exists_connections (h : l.Agree u m) :
    ∃ ds, l.connections.SameBut u ds ∧ m = { l with connections := ds } :=
  ⟨m.connections, h.connections, h.rest⟩

/-- Agreement is mutual. -/
theorem symm (h : l.Agree u m) : m.Agree u l := by
  obtain ⟨ds, hds, rfl⟩ := h.exists_connections
  exact ⟨rfl, hds.symm⟩

/-- Agreement goes on. -/
theorem trans {n : Lobby} (h : l.Agree u m) (h' : m.Agree u n) : l.Agree u n := by
  obtain ⟨ds, hds, rfl⟩ := h.exists_connections
  obtain ⟨es, hes, rfl⟩ := h'.exists_connections
  exact ⟨rfl, hds.trans hes⟩

/-- Tables that agree make lobbies that agree. -/
theorem of_connections {cs ds : Connections} (h : cs.SameBut u ds) :
    ({ l with connections := cs } : Lobby).Agree u { l with connections := ds } :=
  ⟨rfl, h⟩

/-- The same session may be stored. -/
theorem store (h : l.Agree u m) (s : Session) : (l.store s).Agree u (m.store s) := by
  obtain ⟨ds, hds, rfl⟩ := h.exists_connections
  rw [store_with_connections l ds s]
  exact ⟨rfl, by rwa [connections_store]⟩

/-- Joining another connection to a session has the same result. -/
theorem joinSession (h : l.Agree u m) (other : k ≠ u) (s : Session) :
    Alike u (l.joinSession s k) (m.joinSession s k) := by
  obtain ⟨ds, hds, rfl⟩ := h.exists_connections
  unfold Lobby.joinSession
  rcases Session.join_agree hds other s l.clock with ⟨e, hl, hm⟩ | ⟨s', cs', ds', hl, hm, hds'⟩
  · rw [hl, show s.join ds k l.clock = _ from hm]
    exact ⟨rfl, h⟩
  · rw [hl, show s.join ds k l.clock = _ from hm]
    refine ⟨rfl, ?_⟩
    exact (of_connections (l := { l with clock := l.clock + 1 }) hds').store s'

/-- Joining another connection to a session that somebody refers to has the same result. -/
theorem joinReferred (h : l.Agree u m) (other : k ≠ u) (id : SessionId) :
    Alike u (l.joinReferred id k) (m.joinReferred id k) := by
  have hfound : m.referred? id = l.referred? id := by rw [h.rest]; rfl
  unfold Lobby.joinReferred
  rw [hfound]
  split
  · exact ⟨rfl, h⟩
  · exact h.joinSession other _

/-- Joining another connection to a session has the same result. -/
theorem join (h : l.Agree u m) (other : k ≠ u) (id : SessionId) :
    Alike u (l.join id k) (m.join id k) := by
  have hfound : m.session? id = l.session? id := by rw [h.rest]; rfl
  unfold Lobby.join
  rw [hfound]
  split
  · exact ⟨rfl, h⟩
  · exact h.joinSession other _

/-- The other connections are the same. -/
theorem connection (h : l.Agree u m) (other : k ≠ u) : m.connection k = l.connection k :=
  h.connections.others k other

/-- Another connection may be changed in the same way. -/
theorem updateConnection (h : l.Agree u m) (other : k ≠ u) (change : Connection → Connection) :
    (l.updateConnection k change).Agree u (m.updateConnection k change) := by
  obtain ⟨ds, hds, rfl⟩ := h.exists_connections
  exact of_connections (hds.update other change)

/-- The connection itself may be changed. -/
theorem updateConnection_left (h : l.Agree u m) (change : Connection → Connection) :
    (l.updateConnection u change).Agree u m := by
  obtain ⟨ds, hds, rfl⟩ := h.exists_connections
  exact of_connections (hds.set_left _)

/-- The next session is drawn alike. -/
theorem draw (h : l.Agree u m) (options : SessionOptions) :
    (∃ e, l.draw options = .error e ∧ m.draw options = .error e) ∨
      ∃ s l' m', l.draw options = .ok (s, l') ∧ m.draw options = .ok (s, m') ∧ l'.Agree u m' := by
  obtain ⟨ds, hds, rfl⟩ := h.exists_connections
  by_cases hfull : l.maxSessions ≤ l.count
  · exact .inl ⟨_, if_pos hfull, if_pos hfull⟩
  · exact .inr ⟨_, _, _, if_neg hfull, if_neg hfull, ⟨rfl, hds⟩⟩

/-- Creating a session for another connection has the same result. -/
theorem createAndJoin (h : l.Agree u m) (other : k ≠ u) (options : SessionOptions) :
    Alike u (l.createAndJoin k options) (m.createAndJoin k options) := by
  unfold Lobby.createAndJoin
  rw [h.connection other]
  split
  · exact ⟨rfl, h⟩
  rcases h.draw options with ⟨e, hl, hm⟩ | ⟨s, l', m', hl, hm, h'⟩
  · rw [hl, hm]
    exact ⟨rfl, h⟩
  · rw [hl, hm]
    obtain ⟨ds, hds, rfl⟩ := h'.exists_connections
    dsimp only
    rcases Session.join_agree hds other s l'.clock with
      ⟨e, hl', hm'⟩ | ⟨s', cs', ds', hl', hm', hds'⟩
    · rw [hl', hm']
      exact ⟨rfl, h'⟩
    · rw [hl', hm']
      exact ⟨rfl, rfl, hds'⟩

/-- A search for a session that takes another connection has the same result. -/
theorem joinFirst (h : l.Agree u m) (other : k ≠ u) (ids : List SessionId) :
    Alike u (l.joinFirst k ids) (m.joinFirst k ids) := by
  induction ids generalizing l m with
  | nil => exact ⟨rfl, h⟩
  | cons id rest ih =>
    obtain ⟨result, l', m', hl, hm, h'⟩ := (h.joinReferred other id).exists_eq
    unfold Lobby.joinFirst
    rw [hl, hm]
    cases result with
    | ok summary => exact ⟨rfl, h'⟩
    | error e =>
      dsimp only
      split
      · exact ih h'
      · exact ⟨rfl, h'⟩

/-- Joining another connection to any session has the same result. -/
theorem findOrCreateAndJoin (h : l.Agree u m) (other : k ≠ u) :
    Alike u (l.findOrCreateAndJoin k) (m.findOrCreateAndJoin k) := by
  have hids : m.inIdOrder = l.inIdOrder := by rw [h.rest]; rfl
  unfold Lobby.findOrCreateAndJoin
  rw [h.connection other, hids]
  split
  · exact ⟨rfl, h⟩
  obtain ⟨result, l', m', hl, hm, h'⟩ := (h.joinFirst other (l.inIdOrder.map (·.id))).exists_eq
  rw [hl, hm]
  cases result with
  | some result => exact ⟨rfl, h'⟩
  | none => exact h'.createAndJoin other {}

/-- Changing the options of a session for another connection has the same result. -/
theorem setOptions (h : l.Agree u m) (other : k ≠ u) (options : SessionOptions) :
    Alike u (l.setOptions k options) (m.setOptions k options) := by
  have hfound (id : SessionId) : m.session? id = l.session? id := by rw [h.rest]; rfl
  have hreferred (id : SessionId) : m.referred? id = l.referred? id := by rw [h.rest]; rfl
  unfold Lobby.setOptions
  rw [h.connection other]
  dsimp only
  split
  · exact ⟨rfl, h⟩
  next id _ =>
  rw [hfound]
  split
  · exact ⟨rfl, h⟩
  unfold setOptionsReferred
  rw [hreferred]
  split
  · exact ⟨rfl, h⟩
  split
  · exact ⟨rfl, h⟩
  · exact ⟨rfl, h.store _⟩

/-- Reclaiming the sessions without members has the same result. -/
theorem sweepEmpty (h : l.Agree u m) : l.sweepEmpty.2.Agree u m.sweepEmpty.2 := by
  obtain ⟨ds, hds, rfl⟩ := h.exists_connections
  exact ⟨rfl, hds⟩

/-- The sessions may be found in another order. -/
theorem reorder (h : l.Agree u m) (sessions : List Session) :
    (l.reorder sessions).Agree u (m.reorder sessions) := by
  obtain ⟨ds, hds, rfl⟩ := h.exists_connections
  unfold Lobby.reorder
  split
  · exact ⟨rfl, hds⟩
  · exact ⟨rfl, hds⟩

/-- The members of a session may be found in another order. -/
theorem reorderMembers (h : l.Agree u m) (id : SessionId) (members : List Member) :
    (l.reorderMembers id members).Agree u (m.reorderMembers id members) := by
  have hfound : m.session? id = l.session? id := by rw [h.rest]; rfl
  unfold Lobby.reorderMembers
  rw [hfound]
  split
  · exact h
  split
  · exact h.store _
  · exact h

end Agree

/-- A connection is a member of no session and names none. -/
structure Outside (l : Lobby) (u : Handle) : Prop where
  stranger : ∀ m, l.HasMember m → m.handle ≠ u
  free : (l.connection u).session = none

/-- Releasing a connection that names no session leaves it so. -/
theorem session_releaseSession {c : Connection} (free : c.session = none) (id : SessionId) :
    (c.releaseSession id).session = none := by
  unfold Connection.releaseSession
  split
  · rfl
  · exact free

/-- A move leaves a connection that names no session so, unless it admits that connection. -/
theorem Move.session_none {l l' : Lobby} {c : Change} (move : Move l c l') {u : Handle}
    (other : c.joiner? ≠ some u) (free : (l.connection u).session = none) :
    (l'.connection u).session = none := by
  unfold connection at free ⊢
  cases move with
  | @admitted s s' cs joiner held joins =>
    obtain ⟨-, -, -, -, -, rfl⟩ := Session.join_eq_ok_iff.mp joins
    have hne : u ≠ joiner := fun he => other (congrArg some he.symm)
    rw [connections_store, Connections.get_set, if_neg hne]
    exact free
  | dismissed held leaves =>
    obtain ⟨m, -, -, -, rfl⟩ := Session.leave_eq_some_iff.mp leaves
    rw [connections_store, Connections.get_update]
    split
    · next he => exact session_releaseSession (he ▸ free) _
    · exact free
  | reformed held options => rwa [connections_store]
  | advanced held elapsed => rwa [connections_store]
  | touched same => exact (same u).session.trans free
  | @released h id names gone =>
    change ((l.connections.update h (·.releaseSession id)).get u).session = none
    rw [Connections.get_update]
    split
    · next he => exact session_releaseSession (he ▸ free) _
    · exact free
  | drawn room => exact free
  | opened room options => exact free
  | reclaimed => exact free
  | reordered order => exact free
  | reorderedMembers held order => rwa [connections_store]

/-- Moves that do not admit a connection leave it outside. -/
theorem Outside.moves {who : Handle → Prop} {n : Nat} {l l' : Lobby} {u : Handle}
    (h : l.Outside u) (moves : Moves who l n l') (other : ¬ who u) : l'.Outside u where
  stranger m hm := by
    rcases moves.members hm with hold | ⟨hwho, -⟩
    · exact h.stranger m hold
    · exact fun he => other (he ▸ hwho)
  free := by
    have hfree := h.free
    induction moves with
    | refl => exact hfree
    | tail _ last admits ih => exact last.session_none (fun he => other (admits u he)) ih

/-- A connection stays outside while connections change, if it goes on naming no session. -/
theorem Outside.updateConnection {l : Lobby} {u k : Handle} (h : l.Outside u)
    {change : Connection → Connection} (free : k = u → (change (l.connection u)).session = none) :
    (l.updateConnection k change).Outside u where
  stranger := h.stranger
  free := by
    change ((l.connections.update k change).get u).session = none
    rw [Connections.get_update]
    split
    · next he => exact he ▸ free he.symm
    · exact h.free

/-- The members of a session that is there are others. -/
theorem Outside.ne_of_session? {l : Lobby} {u : Handle} (h : l.Outside u) {id : SessionId}
    {s : Session} (held : l.session? id = some s) : ∀ m ∈ s.members, m.handle ≠ u :=
  fun m hm => h.stranger m ⟨s, (mem_of_session? held).1, hm⟩

namespace Agree

variable {u k : Handle} {l m : Lobby}

/-- Taking another connection out of its session has the same result. -/
theorem leave (h : l.Agree u m) (outside : l.Outside u) (other : k ≠ u) :
    Alike u (l.leave k) (m.leave k) := by
  obtain ⟨ds, hds, rfl⟩ := h.exists_connections
  have hfound (id : SessionId) :
      ({ l with connections := ds } : Lobby).session? id = l.session? id := rfl
  unfold Lobby.leave
  rw [h.connection other]
  dsimp only
  split
  · exact ⟨rfl, h⟩
  next id _ =>
  rw [hfound]
  split
  · exact ⟨rfl, of_connections (hds.update other (·.releaseSession id))⟩
  next s held =>
  unfold leaveReferred
  rw [referred?_of_session? held, referred?_of_session? ((hfound id).trans held)]
  dsimp only
  rcases Session.leave_agree hds (outside.ne_of_session? held) (l.connection k).id with
    ⟨hl, hm⟩ | ⟨login, s', cs', ds', hl, hm, hds', -⟩
  · rw [hl, hm]
    exact ⟨rfl, rfl, hds⟩
  · rw [hl, hm]
    exact ⟨rfl, (of_connections hds').store s'⟩

/-- A broadcast has the same result. -/
theorem broadcast (h : l.Agree u m) (outside : l.Outside u) (id : SessionId) (p : Packet)
    (excluding : Option ConnectionId) :
    Alike u (l.broadcast id p excluding) (m.broadcast id p excluding) := by
  obtain ⟨ds, hds, rfl⟩ := h.exists_connections
  have hfound : ({ l with connections := ds } : Lobby).session? id = l.session? id := rfl
  unfold Lobby.broadcast
  rw [hfound]
  split
  · exact ⟨rfl, rfl, hds⟩
  next s held =>
  unfold broadcastReferred
  rw [referred?_of_session? held, referred?_of_session? (hfound.trans held)]
  have hothers : ∀ m ∈ s.members.filter (fun m => some m.id != excluding), m.handle ≠ u :=
    fun m hm => outside.ne_of_session? held m (List.mem_of_mem_filter hm)
  obtain ⟨hreport, htables⟩ := Session.sendEach_agree hds p.encode hothers
  exact ⟨congrArg Except.ok hreport, rfl, htables⟩

/-- When time passes in a session that is there the result is the same. -/
theorem tickReferred (h : l.Agree u m) (outside : l.Outside u) {id : SessionId}
    (known : (l.session? id).isSome = true) (delta : Duration) :
    Alike u (l.tickReferred id delta) (m.tickReferred id delta) := by
  obtain ⟨s, held⟩ := Option.isSome_iff_exists.mp known
  obtain ⟨ds, hds, rfl⟩ := h.exists_connections
  have hfound : ({ l with connections := ds } : Lobby).session? id = l.session? id := rfl
  unfold Lobby.tickReferred
  rw [referred?_of_session? held, referred?_of_session? (hfound.trans held)]
  dsimp only
  rcases Session.tick_agree hds (outside.ne_of_session? held) delta with
    ⟨e, hl, hm⟩ | ⟨logins, s', cs', ds', hl, hm, hds'⟩
  · rw [hl, hm]
    exact ⟨rfl, rfl, hds⟩
  · rw [hl, hm]
    exact ⟨rfl, (of_connections hds').store s'⟩

/-- When time passes in sessions that are there the result is the same. -/
theorem tickEach (h : l.Agree u m) (outside : l.Outside u) (delta : Duration)
    {ids : List SessionId} (known : ∀ id ∈ ids, (l.session? id).isSome = true) :
    Alike u (l.tickEach delta ids) (m.tickEach delta ids) := by
  induction ids generalizing l m with
  | nil => exact ⟨rfl, h⟩
  | cons id rest ih =>
    obtain ⟨hid, hrest⟩ := List.forall_mem_cons.mp known
    have hreferred {l m : Lobby} (h : l.Agree u m) : m.referred? id = l.referred? id := by
      rw [h.rest]
      rfl
    obtain ⟨result, l', m', hl, hm, h'⟩ := (h.tickReferred outside hid delta).exists_eq
    obtain ⟨hmoves, hkeys⟩ := quietMoves_tickReferred hid delta
    rw [hl] at hmoves hkeys
    unfold Lobby.tickEach
    rw [hreferred h]
    split
    · exact ih h outside hrest
    rw [hl, hm]
    cases result with
    | error e => exact ⟨rfl, h'⟩
    | ok logins =>
      have hknown : ∀ id ∈ rest, (l'.session? id).isSome = true := by
        intro id hid
        rw [session?_isSome_iff, show l'.sessions.map (·.id) = _ from hkeys]
        exact session?_isSome_iff.mp (hrest id hid)
      obtain ⟨later, l'', m'', hl', hm', h''⟩ :=
        (ih h' (outside.moves hmoves not_false) hknown).exists_eq
      dsimp only
      rw [hreferred h', hl', hm']
      cases later with
      | error e => exact ⟨rfl, h''⟩
      | ok later => exact ⟨rfl, h''⟩

/-- When time passes in all sessions the result is the same. -/
theorem tickAll (h : l.Agree u m) (outside : l.Outside u) (delta : Duration) :
    Alike u (l.tickAll delta) (m.tickAll delta) := by
  have hids : m.sessions = l.sessions := by rw [h.rest]
  unfold Lobby.tickAll
  rw [hids]
  exact h.tickEach outside delta fun _ hid => session?_isSome_iff.mpr hid

end Agree

end Lobby

end PlayServer
