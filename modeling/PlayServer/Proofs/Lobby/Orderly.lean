import PlayServer.Proofs.Lobby.Host
import PlayServer.Proofs.Lobby.Roster

/-!
# What many sessions leave intact

Once the 32-bit counter of session ids has run out, ids are drawn again, and a connection may name a
session that has been replaced by another one. What is left of the association between connections
and sessions is one half of it: the members of a session of the table are connections that name this
session. With the host and the ids this is an invariant of runs of any length: `orderly_run`.
-/

namespace PlayServer

/-- A connection that changes its place keeps its id. -/
theorem Connection.Reseated.id {c c' : Connection} (h : c.Reseated c') : c'.id = c.id := by
  rw [h]

/-- Releasing one connection makes it change its place at most. -/
theorem Connections.reseated_release (cs : Connections) (h : Handle) (id : SessionId) :
    cs.Reseated (cs.update h (·.releaseSession id)) :=
  reseated_set ((cs.get h).reseated_releaseSession id)

namespace Session.Occupied

variable {s s' : Session} {cs cs' : Connections}

/-- It depends on the members alone, on the ids of their connections and on what these name. -/
theorem of_connections (hs : s.Occupied cs) (ids : ∀ h, (cs'.get h).id = (cs.get h).id)
    (keeps : ∀ h, (cs.get h).session = some s.id → (cs'.get h).session = some s.id) :
    s.Occupied cs' where
  keys := hs.keys
  named m hm := (hs.named m hm).trans (ids m.handle).symm
  claimed m hm := keeps m.handle (hs.claimed m hm)

/-- It does not depend on options, times, the host or the order of the members. -/
theorem of_perm (hs : s.Occupied cs) (hid : s'.id = s.id)
    (hmembers : s'.members.Perm s.members) : s'.Occupied cs where
  keys := (hmembers.map (·.id)).nodup_iff.mpr hs.keys
  named m hm := hs.named m (hmembers.mem_iff.mp hm)
  claimed m hm := hid ▸ hs.claimed m (hmembers.mem_iff.mp hm)

/-- The connection of a member was opened. -/
theorem opened (hs : s.Occupied cs) {m : Member} (hm : m ∈ s.members) : m.handle < cs.size := by
  have hnamed := hs.claimed m hm
  by_contra hnever
  rw [Connections.get_eq_vacant (by simpa [Connections.handles] using hnever)] at hnamed
  cases hnamed

/-- A new member names the session, and whoever named one before names it still. -/
theorem join {h : Handle} {now : Nat} (hs : s.Occupied cs)
    (joins : s.join cs h now = .ok (s', cs')) :
    s'.Occupied cs' ∧ (∀ k, (cs'.get k).id = (cs.get k).id) ∧
      ∀ k id, (cs.get k).session = some id → (cs'.get k).session = some id := by
  obtain ⟨-, habsent, -, hfree, rfl, rfl⟩ := join_eq_ok_iff.mp joins
  have hreseated : cs.Reseated (cs.set h { cs.get h with session := some s.id }) :=
    Connections.reseated_set rfl
  have hids (k : Handle) := (hreseated k).id
  have hkeeps (k : Handle) (id : SessionId) (named : (cs.get k).session = some id) :
      ((cs.set h { cs.get h with session := some s.id }).get k).session = some id := by
    rw [Connections.get_set, if_neg]
    · exact named
    · rintro rfl
      rw [hfree] at named
      cases named
  have hnew : ∀ m ∈ s.members, m.id ≠ (cs.get h).id := by
    simpa [hasMember, member?] using habsent
  have hold := hs.of_connections hids fun k => hkeeps k s.id
  refine ⟨⟨?_, fun m hm => ?_, fun m hm => ?_⟩, hids, hkeeps⟩
  · rw [List.map_append, List.map_singleton]
    apply hs.keys.append (List.nodup_singleton _)
    simpa [List.disjoint_singleton] using hnew
  · rcases List.mem_append.mp hm with hm | hm
    · exact hold.named m hm
    · obtain rfl := List.mem_singleton.mp hm
      exact (hids h).symm
  · rcases List.mem_append.mp hm with hm | hm
    · exact hold.claimed m hm
    · obtain rfl := List.mem_singleton.mp hm
      rw [Connections.get_set, if_pos rfl]

/-- When a member leaves, the others go on naming the session, and whoever named another one goes on
naming that. -/
theorem leave {id : ConnectionId} {login : String} (hs : s.Occupied cs)
    (leaves : s.leave cs id = some (login, s', cs')) :
    s'.Occupied cs' ∧ (∀ k, (cs'.get k).id = (cs.get k).id) ∧
      ∀ k other, other ≠ s.id → (cs.get k).session = some other →
        (cs'.get k).session = some other := by
  obtain ⟨m, hm, -, rfl, rfl⟩ := leave_eq_some_iff.mp leaves
  obtain ⟨hmem, rfl⟩ := mem_of_member? hm
  have hids (k : Handle) := (cs.reseated_release m.handle s.id k).id
  have hothers {k : Handle} (hk : k ≠ m.handle) :
      (cs.update m.handle (·.releaseSession s.id)).get k = cs.get k := by
    rw [Connections.get_update, if_neg hk]
  -- Whoever stays has another id than the one that leaves, and so another handle.
  have hstays {m' : Member} (hm' : m' ∈ s.members) (hne : m'.id ≠ m.id) :
      m'.handle ≠ m.handle := by
    intro he
    rw [hs.named m' hm', hs.named m hmem, he] at hne
    exact hne rfl
  refine ⟨⟨(List.filter_sublist.map _).nodup hs.keys, fun m' hm' => ?_, fun m' hm' => ?_⟩, hids,
    fun k other hne named => ?_⟩
  · rw [hids]
    exact hs.named m' (List.mem_of_mem_filter hm')
  · obtain ⟨hm', hne⟩ := List.mem_filter.mp hm'
    rw [hothers (hstays hm' (by simpa using hne))]
    exact hs.claimed m' hm'
  · have hk : k ≠ m.handle := by
      rintro rfl
      rw [hs.claimed m hmem] at named
      exact hne (Option.some.inj named).symm
    rw [hothers hk]
    exact named

end Session.Occupied

namespace Lobby

/-- The invariant of a lobby whose session ids may have been drawn more than once. -/
structure Orderly (l : Lobby) : Prop where
  keys : l.KeysDistinct
  hosted : l.Hosted
  occupied : ∀ s ∈ l.sessions, s.Occupied l.connections

/-- The sessions are the same, and every connection has its id and names the session that it
named. -/
structure SameSeats (l l' : Lobby) : Prop where
  sessions : l' = { l with connections := l'.connections }
  ids : ∀ k, (l'.connection k).id = (l.connection k).id
  seats : ∀ k, (l'.connection k).session = (l.connection k).session

/-- Nobody has moved. -/
theorem SameSeats.refl (l : Lobby) : l.SameSeats l := ⟨rfl, fun _ => rfl, fun _ => rfl⟩

namespace Orderly

variable {l l' : Lobby}

/-- A lobby in which one session and the connections that name it have changed together is orderly
if the session and its members agree again. -/
theorem store {s s' : Session} {cs : Connections} (hl : l.Orderly)
    (held : l.session? s.id = some s) (hid : s'.id = s.id) (hs' : s'.Occupied cs)
    (ids : ∀ h, (cs.get h).id = (l.connection h).id)
    (others : ∀ h id, id ≠ s.id → (l.connection h).session = some id →
      (cs.get h).session = some id) (clock : Nat) (t : Session)
    (ht : t ∈ ({ l with connections := cs, clock }.store s').sessions) : t.Occupied cs := by
  have hknown : (l.session? s'.id).isSome = true := by simp [hid, held]
  rw [store_eq_replace (l := { l with connections := cs, clock }) hknown] at ht
  rcases (mem_replace (session?_isSome_iff.mp hknown)).mp ht with rfl | ⟨ht, hne⟩
  · exact hs'
  · exact (hl.occupied t ht).of_connections ids fun h => others h t.id (hid ▸ hne)

/-- Every move keeps a lobby orderly. -/
theorem move {c : Change} (hl : l.Orderly) (move : Move l c l') : l'.Orderly := by
  refine ⟨hl.keys.move move, hl.hosted.move move, ?_⟩
  have restore {s s' : Session} (held : l.session? s.id = some s) (hid : s'.id = s.id)
      (hmembers : s'.members.Perm s.members) :
      ∀ t ∈ (l.store s').sessions, t.Occupied (l.store s').connections := by
    rw [connections_store]
    have hs' := (hl.occupied s (mem_of_session? held).1).of_perm hid hmembers
    exact fun t ht => hl.store held hid hs' (fun _ => rfl) (fun _ _ _ named => named) l.clock t ht
  cases move with
  | @admitted s s' cs h held joins =>
    obtain ⟨hs', hids, hkeeps⟩ := (hl.occupied _ (mem_of_session? held).1).join joins
    have hid := (Session.join_eq_ok_iff.mp joins).2.2.2.2.1
    rw [connections_store]
    exact hl.store held (by rw [hid]) hs' hids (fun k id _ => hkeeps k id) _
  | dismissed held leaves =>
    obtain ⟨hs', hids, hothers⟩ := (hl.occupied _ (mem_of_session? held).1).leave leaves
    rw [connections_store]
    exact hl.store held (Session.id_of_leave leaves) hs' hids hothers _
  | reformed held options => exact restore held rfl (.refl _)
  | advanced held elapsed => exact restore held rfl (.refl _)
  | reorderedMembers held order => exact restore held rfl order
  | touched same =>
    exact fun s hs => (hl.occupied s hs).of_connections (fun k => (same k).id)
      fun k named => (same k).session.trans named
  | @released h id names gone =>
    intro s hs
    -- Whoever is released names a session that is not there, and so is no member of one that is.
    have hother : s.id ≠ id := by
      rintro rfl
      rw [session?_eq_some hl.keys hs] at gone
      cases gone
    refine (hl.occupied s hs).of_connections
      (fun k => (l.connections.reseated_release h id k).id) fun k named => ?_
    change ((l.connections.update h (·.releaseSession id)).get k).session = _
    rw [Connections.get_update, if_neg]
    · exact named
    · rintro rfl
      exact hother (Option.some.inj (named.symm.trans names))
  | drawn room => exact hl.occupied
  | opened room options =>
    intro s hs
    rcases List.mem_append.mp hs with hold | hnew
    · exact hl.occupied s (List.mem_of_mem_filter hold)
    · obtain rfl := List.mem_singleton.mp hnew
      exact ⟨List.nodup_nil, fun m hm => absurd hm List.not_mem_nil,
        fun m hm => absurd hm List.not_mem_nil⟩
  | reclaimed => exact fun s hs => hl.occupied s (List.mem_of_mem_filter hs)
  | reordered order => exact fun s hs => hl.occupied s (order.mem_iff.mp hs)

/-- Moves keep a lobby orderly. -/
theorem moves {who : Handle → Prop} {n : Nat} (hl : l.Orderly) (moves : Moves who l n l') :
    l'.Orderly := by
  induction moves with
  | refl => exact hl
  | tail _ last _ ih => exact ih.move last

/-- A lobby in which nobody has moved stays orderly. -/
theorem of_sameSeats (hl : l.Orderly) (same : l.SameSeats l') : l'.Orderly := by
  obtain ⟨hsessions, hids, hseats⟩ := same
  rw [hsessions]
  exact ⟨hl.keys, hl.hosted, fun s hs => (hl.occupied s hs).of_connections hids
    fun k named => (hseats k).trans named⟩

end Orderly

/-- A lobby without sessions is orderly. -/
theorem orderly_new (maxPlayers maxSessions : Nat) (cs : Connections) :
    (new maxPlayers maxSessions cs).Orderly :=
  ⟨keysDistinct_new _ _ _, fun _ hs => absurd hs List.not_mem_nil,
    fun _ hs => absurd hs List.not_mem_nil⟩

/-- A run of any length keeps a lobby orderly. -/
theorem orderly_run (maxPlayers maxSessions : Nat) (cs : Connections) (ops : List Operation) :
    ((new maxPlayers maxSessions cs).run ops).Orderly :=
  (orderly_new _ _ _).moves (moves_run (keysDistinct_new _ _ _) ops)

end Lobby

end PlayServer
