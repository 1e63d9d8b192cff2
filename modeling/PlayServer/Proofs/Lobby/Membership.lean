import PlayServer.Proofs.Lobby.Run
import Mathlib.Data.List.Flatten
import Mathlib.Algebra.Order.Ring.Nat

/-!
# Membership

A connection says which session it belongs to, and a session says who its members are. The two are
kept by different objects and agree in every state of a run, as long as the 32-bit counter of
session ids does not run out: `membership_of_run`.

`Session.Sound` is the part of the invariant about one session and the connections,
`Lobby.Consistent` the whole of it. A session that leaves the table has no members, so that no
connection names it afterwards; a session that is added has an id that no other one had.
-/

namespace PlayServer

/-- A session of the table agrees with the connections: its members are exactly the connections that
name it, each under its own id. -/
structure Session.Sound (s : Session) (maxPlayers : Nat) (cs : Connections) : Prop where
  live : s.isClosed = false
  limit : s.maxPlayers = maxPlayers
  room : s.members.length ≤ maxPlayers
  keys : (s.members.map (·.id)).Nodup
  named : ∀ m ∈ s.members, m.id = (cs.get m.handle).id
  associated : ∀ h, (cs.get h).session = some s.id ↔ ∃ m ∈ s.members, m.handle = h

/-- Half of this, without the limits: every member of a session stands for a connection that names
this session, and is recorded under the id of this connection. -/
structure Session.Occupied (s : Session) (cs : Connections) : Prop where
  keys : (s.members.map (·.id)).Nodup
  named : ∀ m ∈ s.members, m.id = (cs.get m.handle).id
  claimed : ∀ m ∈ s.members, (cs.get m.handle).session = some s.id

namespace Session

variable {s s' : Session} {maxPlayers : Nat} {cs cs' : Connections}

/-- Where a session and the connections agree, its members stand for connections that name it. -/
theorem Sound.occupied (hs : s.Sound maxPlayers cs) : s.Occupied cs where
  keys := hs.keys
  named := hs.named
  claimed m hm := (hs.associated m.handle).mpr ⟨m, hm, rfl⟩

/-- Agreement depends on the ids of the connections and on which of them name the session. -/
theorem Sound.of_connections (hs : s.Sound maxPlayers cs)
    (ids : ∀ h, (cs'.get h).id = (cs.get h).id)
    (sessions : ∀ h, (cs'.get h).session = some s.id ↔ (cs.get h).session = some s.id) :
    s.Sound maxPlayers cs' where
  live := hs.live
  limit := hs.limit
  room := hs.room
  keys := hs.keys
  named m hm := (hs.named m hm).trans (ids m.handle).symm
  associated h := (sessions h).trans (hs.associated h)

/-- Agreement does not depend on options, times, the host or the order of the members. -/
theorem Sound.of_perm (hs : s.Sound maxPlayers cs) (hid : s'.id = s.id)
    (hclosed : s'.isClosed = s.isClosed) (hlimit : s'.maxPlayers = s.maxPlayers)
    (hmembers : s'.members.Perm s.members) : s'.Sound maxPlayers cs where
  live := hclosed.trans hs.live
  limit := hlimit.trans hs.limit
  room := hmembers.length_eq ▸ hs.room
  keys := (hmembers.map (·.id)).nodup_iff.mpr hs.keys
  named m hm := hs.named m (hmembers.mem_iff.mp hm)
  associated h := by
    rw [hid, hs.associated h]
    simp only [hmembers.mem_iff]

/-- A member of a session is found under the id of its connection. -/
theorem Sound.member?_eq_some {m : Member} (hs : s.Sound maxPlayers cs) (hm : m ∈ s.members) :
    s.member? (cs.get m.handle).id = some m :=
  hs.named m hm ▸ Session.member?_eq_some hs.keys hm

/-- A new member claims its place, and no other connection is concerned. -/
theorem Sound.join {h : Handle} {now : Nat} (hs : s.Sound maxPlayers cs)
    (joins : s.join cs h now = .ok (s', cs')) :
    s'.Sound maxPlayers cs' ∧ (∀ h', (cs'.get h').id = (cs.get h').id) ∧
      ∀ h' id, id ≠ s.id → ((cs'.get h').session = some id ↔ (cs.get h').session = some id) := by
  obtain ⟨hlive, habsent, hroom, hfree, rfl, rfl⟩ := join_eq_ok_iff.mp joins
  have hids (h' : Handle) :
      ((cs.set h { cs.get h with session := some s.id }).get h').id = (cs.get h').id := by
    rw [Connections.get_set]
    split
    · next he => simp [he]
    · rfl
  have hnew : ∀ m ∈ s.members, m.id ≠ (cs.get h).id := by
    simpa [hasMember, member?] using habsent
  refine ⟨⟨hlive, hs.limit, ?_, ?_, ?_, ?_⟩, hids, ?_⟩
  · have hlimit := hs.limit
    simp only [isFull, decide_eq_false_iff_not] at hroom
    simp only [List.length_append, List.length_singleton]
    omega
  · simp only [List.map_append, List.map_cons, List.map_nil]
    apply List.Nodup.append hs.keys (by simp)
    simpa [List.disjoint_singleton] using hnew
  · intro m hm
    rw [hids]
    rcases List.mem_append.mp hm with hm | hm
    · exact hs.named m hm
    · obtain rfl := List.mem_singleton.mp hm
      rfl
  · intro h'
    rw [Connections.get_set]
    by_cases he : h' = h
    · simp [he]
    · simp [he, hs.associated h', Ne.symm he]
  · intro h' id hid
    rw [Connections.get_set]
    by_cases he : h' = h
    · simp [he, hfree, Ne.symm hid]
    · simp [he]

/-- A member that leaves gives up its place, and no other connection is concerned. -/
theorem Sound.leave {id : ConnectionId} {login : String} (hs : s.Sound maxPlayers cs)
    (leaves : s.leave cs id = some (login, s', cs')) :
    s'.Sound maxPlayers cs' ∧ (∀ h', (cs'.get h').id = (cs.get h').id) ∧
      ∀ h' id, id ≠ s.id → ((cs'.get h').session = some id ↔ (cs.get h').session = some id) := by
  obtain ⟨m, hm, -, rfl, rfl⟩ := leave_eq_some_iff.mp leaves
  obtain ⟨hmem, rfl⟩ := mem_of_member? hm
  have hown : (cs.get m.handle).session = some s.id := (hs.associated m.handle).mpr ⟨m, hmem, rfl⟩
  have hget (h' : Handle) : (cs.update m.handle (·.releaseSession s.id)).get h' =
      if h' = m.handle then { cs.get m.handle with session := none } else cs.get h' := by
    simp [Connections.get_update, Connection.releaseSession, hown]
  have hids (h' : Handle) :
      ((cs.update m.handle (·.releaseSession s.id)).get h').id = (cs.get h').id := by
    rw [hget]
    split
    · next he => rw [he]
    · rfl
  -- A handle stands under one id only, so whoever stays has another handle than the one that left.
  have hstays {m' : Member} (hm' : m' ∈ s.members) : m'.id ≠ m.id ↔ m'.handle ≠ m.handle := by
    refine not_congr ⟨fun he => ?_, fun he => ?_⟩
    · rw [List.inj_on_of_nodup_map hs.keys hm' hmem he]
    · rw [hs.named m' hm', hs.named m hmem, he]
  refine ⟨⟨hs.live, hs.limit, ?_, ?_, ?_, ?_⟩, hids, ?_⟩
  · exact Nat.le_trans (List.length_filter_le _ _) hs.room
  · exact (List.filter_sublist.map _).nodup hs.keys
  · intro m' hm'
    rw [hids]
    exact hs.named m' (List.mem_of_mem_filter hm')
  · intro h'
    simp only [hget, List.mem_filter, bne_iff_ne, ne_eq]
    by_cases he : h' = m.handle
    · simp only [he, if_true, reduceCtorEq, false_iff, not_exists, not_and]
      rintro m' ⟨hm', hne⟩
      exact (hstays hm').mp hne
    · rw [if_neg he, hs.associated h']
      refine exists_congr fun m' => ⟨fun ⟨hm', hh⟩ => ⟨⟨hm', ?_⟩, hh⟩, fun ⟨hm', hh⟩ => ⟨hm'.1, hh⟩⟩
      exact (hstays hm').mpr (hh ▸ he)
  · intro h' id hid
    rw [hget]
    by_cases he : h' = m.handle
    · simp [he, hown, Ne.symm hid]
    · simp [he]

end Session

namespace Lobby

/-- Members that stand for connections which name their sessions all stand for different ones. -/
theorem nodup_handles {l : Lobby} (hk : l.KeysDistinct)
    (occupied : ∀ s ∈ l.sessions, s.Occupied l.connections) :
    ((l.sessions.flatMap (·.members)).map (·.handle)).Nodup := by
  rw [List.map_flatMap, List.nodup_flatMap]
  constructor
  · intro s hs
    exact Session.nodup_handle_of_named (occupied s hs).keys (occupied s hs).named
  · refine (List.pairwise_map.mp hk).imp_of_mem fun {s t} hs ht hne h hsm htm => ?_
    obtain ⟨m, hm, rfl⟩ := List.mem_map.mp hsm
    obtain ⟨m', hm', he⟩ := List.mem_map.mp htm
    have hnamed := (occupied s hs).claimed m hm
    rw [← he, (occupied t ht).claimed m' hm'] at hnamed
    exact hne (Option.some.inj hnamed).symm

/-- The invariant of a lobby that has drawn so many session ids. -/
structure Consistent (drawn : Nat) (l : Lobby) : Prop where
  keys : l.KeysDistinct
  count : l.sessions.length ≤ l.maxSessions
  counter : l.nextId.toNat = drawn + 1
  fresh : ∀ s ∈ l.sessions, s.id.value.toNat ≤ drawn
  sound : ∀ s ∈ l.sessions, s.Sound l.maxPlayers l.connections
  known : ∀ h id, (l.connection h).session = some id → id ∈ l.sessions.map (·.id)

namespace Consistent

variable {l l' : Lobby} {drawn : Nat}

/-- A lobby in which one session and the connections that name it have changed together is
consistent if the session agrees with the connections again. -/
theorem store {s s' : Session} {cs : Connections} (hl : l.Consistent drawn)
    (held : l.session? s.id = some s) (hid : s'.id = s.id) (hs' : s'.Sound l.maxPlayers cs)
    (ids : ∀ h, (cs.get h).id = (l.connection h).id)
    (others : ∀ h id, id ≠ s.id →
      ((cs.get h).session = some id ↔ (l.connection h).session = some id)) (clock : Nat) :
    ({ l with connections := cs, clock }.store s').Consistent drawn := by
  have hknown : (l.session? s'.id).isSome = true := by simp [hid, held]
  have hmem {t : Session} :
      t ∈ replace s' l.sessions ↔ t = s' ∨ (t ∈ l.sessions ∧ t.id ≠ s'.id) :=
    mem_replace (session?_isSome_iff.mp hknown)
  rw [store_eq_replace (l := { l with connections := cs, clock }) hknown]
  refine ⟨?_, ?_, hl.counter, ?_, ?_, ?_⟩
  · simpa [KeysDistinct] using hl.keys
  · simpa [replace] using hl.count
  · intro t ht
    rcases hmem.mp ht with rfl | ⟨ht, -⟩
    · exact hid ▸ hl.fresh s (mem_of_session? held).1
    · exact hl.fresh t ht
  · intro t ht
    rcases hmem.mp ht with rfl | ⟨ht, hne⟩
    · exact hs'
    · exact (hl.sound t ht).of_connections ids fun h => others h t.id (hid ▸ hne)
  · intro h id hsession
    rw [map_id_replace]
    by_cases he : id = s.id
    · exact he ▸ List.mem_map_of_mem (mem_of_session? held).1
    · exact hl.known h id ((others h id he).mp hsession)

/-- A session may change in all but its id and its members. -/
theorem restore {s : Session} (hl : l.Consistent drawn) (held : l.session? s.id = some s)
    (s' : Session) (hid : s'.id = s.id) (hclosed : s'.isClosed = s.isClosed)
    (hlimit : s'.maxPlayers = s.maxPlayers) (hmembers : s'.members.Perm s.members) :
    (l.store s').Consistent drawn :=
  hl.store held hid
    ((hl.sound s (mem_of_session? held).1).of_perm hid hclosed hlimit hmembers)
    (fun _ => rfl) (fun _ _ _ => Iff.rfl) l.clock

/-- A session without members under an id that was never drawn fits in. -/
theorem opened (hl : l.Consistent drawn) (room : l.count < l.maxSessions)
    (hdrawn : drawn + 1 < 2 ^ 32 - 1) (options : SessionOptions) :
    (l.drawId.insert (l.nextSession options)).Consistent (drawn + 1) := by
  have hcounter := hl.counter
  have hnew : ∀ t ∈ l.sessions, t.id ≠ (l.nextSession options).id := by
    intro t ht he
    have hfresh := hl.fresh t ht
    rw [he] at hfresh
    simp only [nextSession] at hfresh
    omega
  have hsessions : (l.drawId.insert (l.nextSession options)).sessions =
      l.sessions ++ [l.nextSession options] := by
    have hall : l.sessions.filter (fun t => t.id != (l.nextSession options).id) = l.sessions :=
      List.filter_eq_self.mpr fun t ht => by simpa using hnew t ht
    simp [insert, drawId, hall]
  refine ⟨?_, ?_, ?_, ?_, ?_, ?_⟩
  · simp only [KeysDistinct, hsessions, List.map_append, List.map_cons, List.map_nil]
    apply List.Nodup.append hl.keys (by simp)
    simpa [List.disjoint_singleton] using hnew
  · rw [hsessions, List.length_append, List.length_singleton]
    exact room
  · simp only [insert, drawId, UInt32.toNat_add, UInt32.toNat_one]
    omega
  · rw [hsessions]
    intro t ht
    rcases List.mem_append.mp ht with ht | ht
    · exact Nat.le_succ_of_le (hl.fresh t ht)
    · obtain rfl := List.mem_singleton.mp ht
      exact Nat.le_of_eq hcounter
  · rw [hsessions]
    intro t ht
    rcases List.mem_append.mp ht with ht | ht
    · exact hl.sound t ht
    · obtain rfl := List.mem_singleton.mp ht
      refine ⟨rfl, rfl, Nat.zero_le _, List.nodup_nil, by simp [nextSession], fun h => ?_⟩
      -- No connection names a session that was not there before.
      have hnobody : (l.connection h).session ≠ some (l.nextSession options).id := by
        intro hnamed
        obtain ⟨t, ht, he⟩ := List.mem_map.mp (hl.known h _ hnamed)
        exact hnew t ht he
      refine ⟨fun hnamed => absurd hnamed hnobody, ?_⟩
      rintro ⟨m, hm, -⟩
      exact absurd hm List.not_mem_nil
  · intro h id hsession
    rw [hsessions, List.map_append]
    exact List.mem_append_left _ (hl.known h id hsession)

/-- Whoever names a session keeps it from being reclaimed. -/
theorem reclaimed (hl : l.Consistent drawn) : l.sweepEmpty.2.Consistent drawn := by
  have hsub : (l.sessions.filter (! ·.isEmpty)).Sublist l.sessions := List.filter_sublist
  refine ⟨(hsub.map _).nodup hl.keys, Nat.le_trans hsub.length_le hl.count, hl.counter,
    fun s hs => hl.fresh s (hsub.subset hs), fun s hs => hl.sound s (hsub.subset hs), ?_⟩
  intro h id hsession
  obtain ⟨s, hs, rfl⟩ := List.mem_map.mp (hl.known h id hsession)
  obtain ⟨m, hm, -⟩ := ((hl.sound s hs).associated h).mp hsession
  have hnonempty : s.isEmpty = false := by
    simpa [Session.isEmpty] using List.ne_nil_of_mem hm
  exact List.mem_map_of_mem (List.mem_filter.mpr ⟨hs, by simp [hnonempty]⟩)

/-- Every move keeps a lobby consistent. -/
theorem move {c : Change} (hl : l.Consistent drawn) (hm : Move l c l')
    (hdrawn : drawn + c.draws < 2 ^ 32 - 1) : l'.Consistent (drawn + c.draws) := by
  cases hm with
  | admitted held joins =>
    obtain ⟨hs', hids, hothers⟩ := (hl.sound _ (mem_of_session? held).1).join joins
    have hid := (Session.join_eq_ok_iff.mp joins).2.2.2.2.1
    exact hl.store held (by rw [hid]) hs' hids hothers _
  | dismissed held leaves =>
    obtain ⟨hs', hids, hothers⟩ := (hl.sound _ (mem_of_session? held).1).leave leaves
    exact hl.store held (Session.id_of_leave leaves) hs' hids hothers _
  | @reformed s held options =>
    exact hl.restore held { s with options } rfl rfl rfl (.refl _)
  | @advanced s held elapsed =>
    exact hl.restore held { s with elapsed, tickCount := s.tickCount + 1 } rfl rfl rfl (.refl _)
  | @reorderedMembers s members held order =>
    exact hl.restore held { s with members } rfl rfl rfl order
  | touched same =>
    refine ⟨hl.keys, hl.count, hl.counter, hl.fresh, fun s hs => ?_, fun h id hsession => ?_⟩
    · exact (hl.sound s hs).of_connections (fun h => (same h).id) fun h => by rw [(same h).session]
    · exact hl.known h id ((same h).session ▸ hsession)
  | released names gone =>
    -- A connection never names a session that is not there.
    have hthere := session?_isSome_iff.mpr (hl.known _ _ names)
    simp [gone] at hthere
  | drawn room =>
    have hcounter := hl.counter
    refine ⟨hl.keys, hl.count, ?_, fun s hs => Nat.le_succ_of_le (hl.fresh s hs), hl.sound,
      hl.known⟩
    simp only [Change.draws] at hdrawn
    simp only [drawId, UInt32.toNat_add, UInt32.toNat_one, Change.draws]
    omega
  | opened room options => exact hl.opened room hdrawn options
  | reclaimed => exact hl.reclaimed
  | reordered order =>
    exact ⟨(order.map _).nodup_iff.mpr hl.keys, order.length_eq ▸ hl.count, hl.counter,
      fun s hs => hl.fresh s (order.mem_iff.mp hs), fun s hs => hl.sound s (order.mem_iff.mp hs),
      fun h id hsession => ((order.map _).mem_iff).mpr (hl.known h id hsession)⟩

/-- Moves keep a lobby consistent. -/
theorem moves {who : Handle → Prop} {n : Nat} (hl : l.Consistent drawn) (hm : Moves who l n l')
    (hdrawn : drawn + n < 2 ^ 32 - 1) : l'.Consistent (drawn + n) := by
  induction hm with
  | refl => exact hl
  | tail _ last _ ih =>
    rw [← Nat.add_assoc] at hdrawn ⊢
    exact (ih (by omega)).move last hdrawn

/-- Every member of every session is one connection that names a session, and the other way
round. -/
theorem playerCount_eq (hl : l.Consistent drawn) :
    l.playerCount =
      (l.connections.handles.filter fun h => (l.connection h).session.isSome).length := by
  have hnodup : ((l.sessions.flatMap (·.members)).map (·.handle)).Nodup :=
    nodup_handles hl.keys fun s hs => (hl.sound s hs).occupied
  have hperm : ((l.sessions.flatMap (·.members)).map (·.handle)).Perm
      (l.connections.handles.filter fun h => (l.connection h).session.isSome) := by
    refine (List.perm_ext_iff_of_nodup hnodup (List.nodup_range.filter _)).mpr fun h => ?_
    simp only [List.mem_map, List.mem_flatMap, List.mem_filter]
    constructor
    · rintro ⟨m, ⟨s, hs, hm⟩, rfl⟩
      have hnamed := ((hl.sound s hs).associated m.handle).mpr ⟨m, hm, rfl⟩
      refine ⟨?_, by simp [connection, hnamed]⟩
      by_contra hnever
      rw [Connections.get_eq_vacant hnever] at hnamed
      simp [Connections.vacant, Connection.unused] at hnamed
    · rintro ⟨-, hsome⟩
      obtain ⟨id, hid⟩ := Option.isSome_iff_exists.mp hsome
      obtain ⟨s, hs, rfl⟩ := List.mem_map.mp (hl.known h id hid)
      obtain ⟨m, hm, hmh⟩ := ((hl.sound s hs).associated h).mp hid
      exact ⟨m, ⟨s, hs, hm⟩, hmh⟩
  rw [playerCount, ← hperm.length_eq, List.length_map]

/-- A run keeps a lobby consistent and its limits what they are. -/
theorem run (hl : l.Consistent drawn) (ops : List Operation)
    (hdrawn : drawn + l.idsDrawn ops < 2 ^ 32 - 1) :
    (l.run ops).Consistent (drawn + l.idsDrawn ops) ∧
      (l.run ops).maxPlayers = l.maxPlayers ∧ (l.run ops).maxSessions = l.maxSessions := by
  have hmoves := moves_run hl.keys ops
  obtain ⟨-, hplayers, hsessions⟩ := hmoves.limits
  exact ⟨hl.moves hmoves hdrawn, hplayers, hsessions⟩

end Consistent

/-- A lobby without sessions, over some connections. -/
def new (maxPlayers maxSessions : Nat) (connections : Connections) : Lobby where
  maxPlayers
  maxSessions
  connections

/-- A lobby without sessions has no two with the same id. -/
theorem keysDistinct_new (maxPlayers maxSessions : Nat) (cs : Connections) :
    (new maxPlayers maxSessions cs).KeysDistinct := List.nodup_nil

/-- A lobby without sessions is consistent if no connection names one. -/
theorem consistent_new (maxPlayers maxSessions : Nat) {cs : Connections}
    (free : ∀ c ∈ cs.opened, c.session = none) : (new maxPlayers maxSessions cs).Consistent 0 := by
  refine ⟨keysDistinct_new _ _ _, Nat.zero_le _, rfl, by simp [new], by simp [new],
    fun h id hsession => ?_⟩
  have hnone : (cs.get h).session = none := Connections.forall_get free (fun _ => rfl) h
  have hsome : (cs.get h).session = some id := hsession
  simp [hnone] at hsome

/-- The association between connections and sessions holds in every state of every run in which the
counter of session ids does not run out: a connection names a session exactly when the table holds
that session and its members bind the id of the connection to this connection; sessions and the
table stay within their limits; every session stands under its own id, which was drawn before, and
is not closed; and the players counted are the connections that name a session. -/
theorem membership_of_run (maxPlayers maxSessions : Nat) (cs : Connections)
    (free : ∀ c ∈ cs.opened, c.session = none) (ops : List Operation)
    (drawn : (new maxPlayers maxSessions cs).idsDrawn ops < 2 ^ 32 - 1) :
    let l := (new maxPlayers maxSessions cs).run ops
    (∀ h id, (l.connection h).session = some id ↔
      ∃ s m, l.session? id = some s ∧ s.member? (l.connection h).id = some m ∧ m.handle = h) ∧
    ((∀ s ∈ l.sessions, s.members.length ≤ maxPlayers) ∧ l.count ≤ maxSessions) ∧
    (∀ s ∈ l.sessions, l.session? s.id = some s ∧ s.id.value < l.nextId ∧ s.isClosed = false) ∧
    l.playerCount =
      (l.connections.handles.filter fun h => (l.connection h).session.isSome).length := by
  intro l
  obtain ⟨hl, hplayers, hsessions⟩ :=
    (consistent_new maxPlayers maxSessions free).run ops (by omega)
  refine ⟨fun h id => ⟨fun hnamed => ?_, ?_⟩, ⟨fun s hs => ?_, ?_⟩, fun s hs => ⟨?_, ?_, ?_⟩,
    hl.playerCount_eq⟩
  · obtain ⟨s, hs, rfl⟩ := List.mem_map.mp (hl.known h id hnamed)
    obtain ⟨m, hm, rfl⟩ := ((hl.sound s hs).associated h).mp hnamed
    exact ⟨s, m, session?_eq_some hl.keys hs, (hl.sound s hs).member?_eq_some hm, rfl⟩
  · rintro ⟨s, m, hs, hm, rfl⟩
    obtain ⟨hmem, rfl⟩ := mem_of_session? hs
    exact ((hl.sound s hmem).associated m.handle).mpr ⟨m, (Session.mem_of_member? hm).1, rfl⟩
  · exact Nat.le_trans (hl.sound s hs).room (Nat.le_of_eq hplayers)
  · exact Nat.le_trans hl.count (Nat.le_of_eq hsessions)
  · exact session?_eq_some hl.keys hs
  · rw [UInt32.lt_iff_toNat_lt, hl.counter]
    exact Nat.lt_succ_of_le (hl.fresh s hs)
  · exact (hl.sound s hs).live

/-- Two connections, as they are when they open. -/
def twoConnections : Connections where
  opened := [{ id := ⟨1⟩, address := default }, { id := ⟨2⟩, address := default }]

/-- One player opens a session, another joins it, and the first one disconnects. -/
def hostDisconnects : List Operation :=
  [.createAndJoin 0 {}, .join ⟨1⟩ 1, .close 0, .tickAll .zero, .sweepEmpty]

/-- Once the host has been taken out, the other player still names the session, which is there. -/
theorem membership_of_run_hostDisconnects :
    (∀ c ∈ twoConnections.opened, c.session = none) ∧
      (new 4 16 twoConnections).idsDrawn hostDisconnects < 2 ^ 32 - 1 ∧
      (((new 4 16 twoConnections).run hostDisconnects).connection 1).session = some ⟨1⟩ ∧
      ∃ s m, ((new 4 16 twoConnections).run hostDisconnects).session? ⟨1⟩ = some s ∧
        s.member? (((new 4 16 twoConnections).run hostDisconnects).connection 1).id = some m ∧
        m.handle = 1 := by
  have hfree : ∀ c ∈ twoConnections.opened, c.session = none := by decide
  have hdrawn : (new 4 16 twoConnections).idsDrawn hostDisconnects < 2 ^ 32 - 1 := by decide
  have hnamed : (((new 4 16 twoConnections).run hostDisconnects).connection 1).session =
      some ⟨1⟩ := by decide
  have hrun := membership_of_run 4 16 twoConnections hfree hostDisconnects hdrawn
  exact ⟨hfree, hdrawn, hnamed, (hrun.1 1 ⟨1⟩).mp hnamed⟩

end Lobby

end PlayServer
