import PlayServer.Proofs.Lobby.Pass
import PlayServer.Proofs.Lobby.Refusal

/-!
# Searching for a session

A player who asks for any session joins the open one with the smallest id, and a new one only when
there is none: `findOrCreateAndJoin_of_run`. The search tries the sessions one after the other, each
by an attempt to join it, and goes on when one is full. A full session is left as it is by the
attempt, and in a consistent lobby no session refuses a player who is free for any other reason, so
that the search ends at the first session with room.
-/

namespace PlayServer

namespace Connections

variable {cs : Connections}

/-- A connection that names a session was opened. -/
theorem mem_handles_of_session {h : Handle} {id : SessionId}
    (named : (cs.get h).session = some id) : h ∈ cs.handles := by
  by_contra hnever
  rw [get_eq_vacant hnever] at named
  cases named

/-- Where no two connections share an id, the id of a connection tells its handle. -/
theorem handle_eq_of_id (distinct : (cs.opened.map (·.id)).Nodup) {h k : Handle}
    (hh : h ∈ cs.handles) (hk : k ∈ cs.handles) (same : (cs.get h).id = (cs.get k).id) : h = k := by
  have hlt : h < cs.opened.length := List.mem_range.mp hh
  have hlt' : k < cs.opened.length := List.mem_range.mp hk
  have hget (j : Handle) (hj : j < cs.opened.length) : cs.get j = cs.opened[j] := by
    simp [get, List.getD_eq_getElem?_getD, List.getElem?_eq_getElem hj]
  rw [hget h hlt, hget k hlt'] at same
  have hsame : cs.opened[h] = cs.opened[k] :=
    List.inj_on_of_nodup_map distinct (List.getElem_mem hlt) (List.getElem_mem hlt') same
  exact (distinct.of_map _).getElem_inj_iff.mp hsame

end Connections

/-- A session once somebody has joined it, who is its host if it had none. -/
def Session.joinedBy (s : Session) (m : Member) : Session :=
  { s with members := s.members ++ [m], host := s.host <|> some m.id }

namespace Lobby

variable {l : Lobby} {h : Handle} {s : Session}

/-- The member that a connection would now become. -/
def entrant (l : Lobby) (h : Handle) : Member :=
  ⟨(l.connection h).id, h, Session.loginOf (l.connection h), l.clock⟩

/-- The connections once one of them belongs to a session. -/
def claimedBy (l : Lobby) (h : Handle) (id : SessionId) : Connections :=
  l.connections.set h { l.connection h with session := some id }

/-- In the order of their ids the sessions are the same. -/
theorem inIdOrder_perm (l : Lobby) : l.inIdOrder.Perm l.sessions := List.mergeSort_perm _ _

/-- In the order of their ids no session stands before one with a smaller id. -/
theorem inIdOrder_ordered (l : Lobby) :
    l.inIdOrder.Pairwise fun s t => s.id.value ≤ t.id.value := by
  simpa only [inIdOrder, decide_eq_true_eq] using
    @List.pairwise_mergeSort Session (fun s t => decide (s.id.value ≤ t.id.value))
      (fun _ _ _ h h' => by simpa using UInt32.le_trans (by simpa using h) (by simpa using h'))
      (fun s t => by simpa using UInt32.le_total s.id.value t.id.value) l.sessions

/-- The open session with the smallest id: there is room in it, and in none with a smaller id. -/
structure LowestOpen (l : Lobby) (s : Session) : Prop where
  held : s ∈ l.sessions
  room : s.isFull = false
  lowest : ∀ t ∈ l.sessions, t.isFull = false → s.id.value ≤ t.id.value

/-- If there is an open session there is one with the smallest id. -/
theorem exists_lowestOpen (hopen : ∃ s ∈ l.sessions, s.isFull = false) : ∃ s, l.LowestOpen s := by
  obtain ⟨s, hs, hroom⟩ := hopen
  obtain ⟨first, hfirst⟩ : ∃ first, l.inIdOrder.find? (!·.isFull) = some first := by
    apply Option.isSome_iff_exists.mp
    rw [List.find?_isSome]
    exact ⟨s, l.inIdOrder_perm.mem_iff.mpr hs, by simp [hroom]⟩
  obtain ⟨hopen, before, after, hsplit, hfull⟩ := List.find?_eq_some_iff_append.mp hfirst
  have hordered := l.inIdOrder_ordered
  rw [hsplit, List.pairwise_append, List.pairwise_cons] at hordered
  refine ⟨first, l.inIdOrder_perm.mem_iff.mp (by simp [hsplit]), by simpa using hopen, ?_⟩
  intro t ht hroom'
  have hmem : t ∈ before ++ first :: after := hsplit ▸ l.inIdOrder_perm.mem_iff.mpr ht
  rcases List.mem_append.mp hmem with hmem | hmem
  · simpa [hroom'] using hfull t hmem
  · rcases List.mem_cons.mp hmem with rfl | hmem
    · exact UInt32.le_refl _
    · exact hordered.2.1.1 t hmem

/-- In the order of ids only full sessions stand before the open one with the smallest id. -/
theorem LowestOpen.split (hk : l.KeysDistinct) (hs : l.LowestOpen s) :
    ∃ before after, l.inIdOrder = before ++ s :: after ∧
      ∀ t ∈ before, t ∈ l.sessions ∧ t.isFull = true := by
  obtain ⟨before, after, hsplit⟩ := List.append_of_mem (l.inIdOrder_perm.mem_iff.mpr hs.held)
  refine ⟨before, after, hsplit, fun t ht => ?_⟩
  have hmem : t ∈ l.sessions := l.inIdOrder_perm.mem_iff.mp (by simp [hsplit, ht])
  refine ⟨hmem, ?_⟩
  by_contra hopen
  have hordered := l.inIdOrder_ordered
  rw [hsplit, List.pairwise_append] at hordered
  have hle := hordered.2.2 t ht s List.mem_cons_self
  have hge := hs.lowest t hmem (by simpa using hopen)
  have hkeys : ((before ++ s :: after).map (·.id)).Nodup :=
    hsplit ▸ (l.inIdOrder_perm.map Session.id).nodup_iff.mpr hk
  apply (ids_ne_of_nodup hkeys).1 t ht
  exact congrArg SessionId.mk (UInt32.le_antisymm hle hge)

/-- The search goes past full sessions, and they are left as they were. -/
theorem joinFirst_append {before : List SessionId}
    (full : ∀ id ∈ before, ∃ max, l.joinReferred id h = (.error (.full max), l))
    (rest : List SessionId) :
    l.joinFirst h (before ++ rest) = l.joinFirst h rest := by
  induction before with
  | nil => rfl
  | cons id before ih =>
    obtain ⟨⟨max, hrefused⟩, hbefore⟩ := List.forall_mem_cons.mp full
    rw [List.cons_append, joinFirst, hrefused]
    exact ih hbefore

/-- The search ends at a session that takes the connection. -/
theorem joinFirst_cons {id : SessionId} {rest : List SessionId} {summary : SessionSummary}
    {l' : Lobby} (joins : l.joinReferred id h = (.ok summary, l')) :
    l.joinFirst h (id :: rest) = (some (.ok summary), l') := by
  rw [joinFirst, joins]

namespace Consistent

variable {drawn : Nat}

/-- A free player is a member of no session, under whatever id. -/
theorem hasMember_of_free (hl : l.Consistent drawn)
    (distinct : (l.connections.opened.map (·.id)).Nodup) (given : h ∈ l.connections.handles)
    (free : (l.connection h).session = none) (hs : s ∈ l.sessions) :
    s.hasMember (l.connection h).id = false := by
  by_contra hmember
  obtain ⟨m, hm⟩ : ∃ m, s.member? (l.connection h).id = some m :=
    Option.isSome_iff_exists.mp (by rwa [Session.hasMember, Bool.not_eq_false] at hmember)
  obtain ⟨hmem, hid⟩ := Session.mem_of_member? hm
  have hnamed := ((hl.sound s hs).associated m.handle).mpr ⟨m, hmem, rfl⟩
  have hsame : m.handle = h := by
    apply Connections.handle_eq_of_id distinct (Connections.mem_handles_of_session hnamed) given
    rw [← (hl.sound s hs).named m hmem, hid]
    rfl
  rw [hsame] at hnamed
  exact absurd (free.symm.trans hnamed) (by simp)

/-- A full session refuses a free player for want of room. -/
theorem joinReferred_of_full (hl : l.Consistent drawn)
    (distinct : (l.connections.opened.map (·.id)).Nodup) (given : h ∈ l.connections.handles)
    (free : (l.connection h).session = none) (hs : s ∈ l.sessions) (full : s.isFull = true) :
    l.joinReferred s.id h = (.error (.full s.maxPlayers), l) := by
  have hother : s.hasMember (l.connections.get h).id = false :=
    hl.hasMember_of_free distinct given free hs
  rw [joinReferred, referred?_of_session? (session?_eq_some hl.keys hs)]
  simp [joinSession, Session.join, (hl.sound s hs).live, hother, full]

/-- An open session takes a free player. -/
theorem joinReferred_of_room (hl : l.Consistent drawn)
    (distinct : (l.connections.opened.map (·.id)).Nodup) (given : h ∈ l.connections.handles)
    (free : (l.connection h).session = none) (hs : s ∈ l.sessions) (room : s.isFull = false) :
    l.joinReferred s.id h = (.ok (s.joinedBy (l.entrant h)).summary, { l with
      connections := l.claimedBy h s.id
      sessions := replace (s.joinedBy (l.entrant h)) l.sessions
      clock := l.clock + 1 }) := by
  have hheld := session?_eq_some hl.keys hs
  have hother := hl.hasMember_of_free distinct given free hs
  have joins : s.join l.connections h l.clock =
      .ok (s.joinedBy (l.entrant h), l.claimedBy h s.id) :=
    Session.join_eq_ok_iff.mpr ⟨(hl.sound s hs).live, hother, room, free, rfl, rfl⟩
  have hknown : (l.session? (s.joinedBy (l.entrant h)).id).isSome = true := by
    simp [Session.joinedBy, hheld]
  rw [joinReferred, referred?_of_session? hheld]
  simp only [joinSession, joins]
  exact congrArg (Prod.mk _) (store_eq_replace
    (l := { l with connections := l.claimedBy h s.id, clock := l.clock + 1 }) hknown)

/-- A free player is admitted to the open session with the smallest id. -/
theorem findOrCreateAndJoin_of_lowestOpen (hl : l.Consistent drawn)
    (distinct : (l.connections.opened.map (·.id)).Nodup) (given : h ∈ l.connections.handles)
    (free : (l.connection h).session = none) (hs : l.LowestOpen s) :
    l.findOrCreateAndJoin h = (.ok (s.joinedBy (l.entrant h)).summary, { l with
      connections := l.claimedBy h s.id
      sessions := replace (s.joinedBy (l.entrant h)) l.sessions
      clock := l.clock + 1 }) := by
  obtain ⟨before, after, hsplit, hfull⟩ := hs.split hl.keys
  have hpast : ∀ id ∈ before.map (·.id), ∃ max, l.joinReferred id h = (.error (.full max), l) := by
    intro id hid
    obtain ⟨t, ht, rfl⟩ := List.mem_map.mp hid
    obtain ⟨hmem, hfull⟩ := hfull t ht
    exact ⟨_, hl.joinReferred_of_full distinct given free hmem hfull⟩
  have hjoined := hl.joinReferred_of_room distinct given free hs.held hs.room
  simp only [findOrCreateAndJoin, free, hsplit, List.map_append, List.map_cons]
  rw [joinFirst_append hpast, joinFirst_cons hjoined]

/-- Where all sessions are full a free player asks for a new one. -/
theorem findOrCreateAndJoin_of_full (hl : l.Consistent drawn)
    (distinct : (l.connections.opened.map (·.id)).Nodup) (given : h ∈ l.connections.handles)
    (free : (l.connection h).session = none) (full : ∀ s ∈ l.sessions, s.isFull = true) :
    l.findOrCreateAndJoin h = l.createAndJoin h {} := by
  have hpast : ∀ id ∈ l.inIdOrder.map (·.id),
      ∃ max, l.joinReferred id h = (.error (.full max), l) := by
    intro id hid
    obtain ⟨t, ht, rfl⟩ := List.mem_map.mp hid
    have hmem := l.inIdOrder_perm.mem_iff.mp ht
    exact ⟨_, hl.joinReferred_of_full distinct given free hmem (full t hmem)⟩
  have hsearch : l.joinFirst h (l.inIdOrder.map (·.id)) = (none, l) := by
    have hnone := joinFirst_append hpast []
    rwa [List.append_nil] at hnone
  simp only [findOrCreateAndJoin, free, hsearch]

/-- While there is room for one more session a free player can have one, with nobody else in it. -/
theorem createAndJoin_eq (hl : l.Consistent drawn) (room : 0 < l.maxPlayers)
    (free : (l.connection h).session = none) (few : l.count < l.maxSessions)
    (options : SessionOptions) :
    l.createAndJoin h options =
      (.ok ((l.nextSession options).joinedBy (l.entrant h)).summary, { l with
        connections := l.claimedBy h ⟨l.nextId⟩
        sessions := l.sessions ++ [(l.nextSession options).joinedBy (l.entrant h)]
        nextId := l.nextId + 1
        clock := l.clock + 1 }) := by
  have hdraw : l.draw options = .ok (l.nextSession options, l.drawId) :=
    draw_eq_ok_iff.mpr ⟨few, rfl, rfl⟩
  have joins : (l.nextSession options).join l.connections h l.clock =
      .ok ((l.nextSession options).joinedBy (l.entrant h), l.claimedBy h ⟨l.nextId⟩) := by
    obtain ⟨s, cs, joins⟩ := joins_nextSession room options free
    obtain ⟨-, -, -, -, rfl, rfl⟩ := Session.join_eq_ok_iff.mp joins
    exact joins
  have hnew : l.sessions.filter (·.id != ⟨l.nextId⟩) = l.sessions := by
    apply List.filter_eq_self.mpr
    simpa [session?] using hl.session?_nextId
  simp only [createAndJoin, free, hdraw]
  simp only [drawId, joins]
  simp only [insert, Session.joinedBy, nextSession, hnew]

end Consistent

/-- What asking for any session comes to in every state of a run in which the counter of session ids
does not run out, in whatever order the sessions and their members are enumerated. Whoever names a
session already is told of it. Anybody else joins the open session with the smallest id, and no
session is created; where every session is full, a new one, whose only member and host it becomes,
with the first difficulty and mode; and where there may be no more of them either, it is told so.
Whoever is refused has changed nothing. -/
theorem findOrCreateAndJoin_of_run (maxPlayers maxSessions : Nat) (room : 0 < maxPlayers)
    (cs : Connections) (free : ∀ c ∈ cs.opened, c.session = none) (ops : List Operation)
    (drawn : (new maxPlayers maxSessions cs).idsDrawn ops < 2 ^ 32 - 1) {l : Lobby}
    (order : ((new maxPlayers maxSessions cs).run ops).Reordered l)
    (distinct : (l.connections.opened.map (·.id)).Nodup) {h : Handle}
    (given : h ∈ l.connections.handles) :
    let hasRoom := fun s : Session => s.members.length < maxPlayers
    (∀ id, (l.connection h).session = some id →
      l.findOrCreateAndJoin h = (.error (.inAnotherSession id), l)) ∧
    ((l.connection h).session = none →
      ((∃ s ∈ l.sessions, hasRoom s) →
        ∃ s ∈ l.sessions, hasRoom s ∧
          (∀ t ∈ l.sessions, hasRoom t → t ≠ s → s.id.value < t.id.value) ∧
          l.findOrCreateAndJoin h = (.ok (s.joinedBy (l.entrant h)).summary, { l with
            connections := l.claimedBy h s.id
            sessions := replace (s.joinedBy (l.entrant h)) l.sessions
            clock := l.clock + 1 })) ∧
      ((∀ s ∈ l.sessions, ¬ hasRoom s) → l.count < maxSessions →
        let created : Session :=
          { id := ⟨l.nextId⟩
            options := ⟨.normal, .campaign⟩
            maxPlayers
            members := [l.entrant h]
            host := some (l.connection h).id }
        l.session? ⟨l.nextId⟩ = none ∧
          l.findOrCreateAndJoin h = (.ok created.summary, { l with
            connections := l.claimedBy h ⟨l.nextId⟩
            sessions := l.sessions ++ [created]
            nextId := l.nextId + 1
            clock := l.clock + 1 })) ∧
      ((∀ s ∈ l.sessions, ¬ hasRoom s) → maxSessions ≤ l.count →
        l.findOrCreateAndJoin h = (.error (.tooManySessions maxSessions), l))) := by
  intro hasRoom
  obtain ⟨hrun, hplayers, hsessions⟩ :=
    (consistent_new maxPlayers maxSessions free).run ops (by omega)
  have hl := order.consistent hrun
  have hlimits : l.maxPlayers = maxPlayers ∧ l.maxSessions = maxSessions := by
    obtain ⟨_, _, -, -, rfl⟩ := order
    exact ⟨hplayers, hsessions⟩
  clear order hrun hplayers hsessions
  obtain ⟨rfl, rfl⟩ := hlimits
  have hfull {s : Session} (hs : s ∈ l.sessions) : s.isFull = false ↔ hasRoom s := by
    simp [Session.isFull, hasRoom, (hl.sound s hs).limit]
  refine ⟨fun id hnamed => by rw [findOrCreateAndJoin, hnamed], fun hfree => ⟨?_, ?_, ?_⟩⟩
  · rintro ⟨s, hs, hroom⟩
    obtain ⟨s, hs⟩ := exists_lowestOpen ⟨s, hs, (hfull hs).mpr hroom⟩
    refine ⟨s, hs.held, (hfull hs.held).mp hs.room, fun t ht hroom hne => ?_,
      hl.findOrCreateAndJoin_of_lowestOpen distinct given hfree hs⟩
    have hle := hs.lowest t ht ((hfull ht).mpr hroom)
    refine UInt32.lt_of_le_of_ne hle fun he => hne ?_
    exact List.inj_on_of_nodup_map hl.keys ht hs.held (congrArg SessionId.mk he.symm)
  · intro hall few created
    have hall' : ∀ s ∈ l.sessions, s.isFull = true := fun s hs => by
      simpa using mt (hfull hs).mp (hall s hs)
    refine ⟨hl.session?_nextId, ?_⟩
    rw [hl.findOrCreateAndJoin_of_full distinct given hfree hall',
      hl.createAndJoin_eq room hfree few]
    rfl
  · intro hall many
    have hall' : ∀ s ∈ l.sessions, s.isFull = true := fun s hs => by
      simpa using mt (hfull hs).mp (hall s hs)
    rw [hl.findOrCreateAndJoin_of_full distinct given hfree hall']
    simp [createAndJoin, hfree, draw, many]

/-- In a lobby whose sessions have room for one, a player opens a session, and two more are opened
that nobody is in. -/
def oneFullTwoEmpty : List Operation := [.createAndJoin 0 {}, .create {}, .create {}]

/-- The other player joins the second session, although the third one is enumerated first. -/
theorem findOrCreateAndJoin_of_run_oneFullTwoEmpty :
    let l := (new 1 16 twoConnections).run oneFullTwoEmpty
    let backwards := { l with sessions := l.sessions.reverse }
    (∀ c ∈ twoConnections.opened, c.session = none) ∧
      (new 1 16 twoConnections).idsDrawn oneFullTwoEmpty < 2 ^ 32 - 1 ∧
      l.Reordered backwards ∧ (backwards.connections.opened.map (·.id)).Nodup ∧
      1 ∈ backwards.connections.handles ∧
      ∃ summary l', backwards.findOrCreateAndJoin 1 = (.ok summary, l') ∧ summary.id = ⟨2⟩ ∧
        (l'.connection 1).session = some ⟨2⟩ := by
  intro l backwards
  have hfree : ∀ c ∈ twoConnections.opened, c.session = none := by decide
  have hdrawn : (new 1 16 twoConnections).idsDrawn oneFullTwoEmpty < 2 ^ 32 - 1 := by decide
  have horder : l.Reordered backwards :=
    ⟨_, _, l.sessions.reverse_perm, List.forall₂_same.mpr fun s _ => ⟨rfl, .refl _⟩, rfl⟩
  have hdistinct : (backwards.connections.opened.map (·.id)).Nodup := by decide
  have hgiven : 1 ∈ backwards.connections.handles := by decide
  have hsearch := (findOrCreateAndJoin_of_run 1 16 (by decide) twoConnections hfree oneFullTwoEmpty
    hdrawn horder hdistinct hgiven).2 (by decide)
  obtain ⟨s, hs, hroom, hlowest, hfound⟩ := hsearch.1 (by decide)
  have hsecond : ∀ s ∈ backwards.sessions, s.members.length < 1 →
      (∀ t ∈ backwards.sessions, t.members.length < 1 → t ≠ s → s.id.value < t.id.value) →
      s.id = ⟨2⟩ := by decide
  have hid := hsecond s hs hroom hlowest
  refine ⟨hfree, hdrawn, horder, hdistinct, hgiven, _, _, hfound, hid, ?_⟩
  simp [connection, claimedBy, Connections.get_set, hid]

end Lobby

end PlayServer
