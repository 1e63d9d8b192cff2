import PlayServer.Proofs.Lobby.Roster

/-!
# Reclaimed sessions

Somebody may still refer to a session that has been reclaimed. Such a session is closed and has no
members, and its id is that of no other session: `Lobby.Reclaimed`. So nothing that is done through
a reference to it changes the lobby, and whoever tries to join it is told that it is not there.

`Lobby.Known` sessions are those that are in the table or have been reclaimed. A session that is
known stays known, and one that has been reclaimed stays so.
-/

namespace PlayServer.Lobby

/-- The ids of the reclaimed sessions. -/
def reclaimedIds (l : Lobby) : List SessionId := l.retired.map (·.id)

/-- The session under an id is in the table or has been reclaimed. -/
def Known (l : Lobby) (id : SessionId) : Prop :=
  id ∈ l.sessions.map (·.id) ∨ id ∈ l.reclaimedIds

/-- Every reclaimed session is closed and has no members, and its id, one of those drawn, is that of
no session in the table. -/
structure Reclaimed (drawn : Nat) (l : Lobby) : Prop where
  closed : ∀ s ∈ l.retired, s.isClosed = true
  deserted : ∀ s ∈ l.retired, s.isEmpty = true
  fresh : ∀ s ∈ l.retired, s.id.value.toNat ≤ drawn
  gone : ∀ s ∈ l.retired, s.id ∉ l.sessions.map (·.id)

variable {l l' : Lobby} {drawn : Nat}

namespace Reclaimed

/-- A reclaimed session is not in the table. -/
theorem session?_eq_none (hr : l.Reclaimed drawn) {id : SessionId} (hid : id ∈ l.reclaimedIds) :
    l.session? id = none := by
  obtain ⟨s, hs, rfl⟩ := List.mem_map.mp hid
  rw [← Option.not_isSome_iff_eq_none, session?_isSome_iff]
  exact hr.gone s hs

/-- What somebody refers to that is not in the table, is closed and has no members. -/
theorem referred?_eq (hr : l.Reclaimed drawn) {id : SessionId} (gone : l.session? id = none) :
    l.referred? id = none ∨
      ∃ s, l.referred? id = some s ∧ s.id = id ∧ s.isClosed = true ∧ s.isEmpty = true := by
  rw [referred?, gone]
  cases hfound : l.retired.find? (·.id == id) with
  | none => exact .inl rfl
  | some s =>
    have hs := List.mem_of_find?_eq_some hfound
    exact .inr ⟨s, rfl, by simpa using List.find?_some hfound, hr.closed s hs, hr.deserted s hs⟩

/-- Whoever joins a session that is gone is told so, and nothing happens. -/
theorem joinReferred_of_gone (hr : l.Reclaimed drawn) {id : SessionId}
    (gone : l.session? id = none) (h : Handle) : l.joinReferred id h = (.error (.notFound id), l) := by
  rw [joinReferred]
  obtain hnone | ⟨s, hs, rfl, hclosed, -⟩ := hr.referred?_eq gone
  · rw [hnone]
  · rw [hs]
    simp [joinSession, Session.join, hclosed]

/-- Nobody leaves a session that is gone. -/
theorem leaveReferred_of_gone (hr : l.Reclaimed drawn) {id : SessionId}
    (gone : l.session? id = none) (member : ConnectionId) : l.leaveReferred id member = (none, l) := by
  rw [leaveReferred]
  obtain hnone | ⟨s, hs, -, -, hempty⟩ := hr.referred?_eq gone
  · rw [hnone]
  · have hnobody : s.members = [] := List.isEmpty_iff.mp hempty
    rw [hs]
    simp [Session.leave, Session.member?, hnobody]

/-- A session that is gone has no members. -/
theorem isEmpty_of_gone (hr : l.Reclaimed drawn) {id : SessionId} (gone : l.session? id = none) :
    ((l.referred? id).map (·.isEmpty)).getD true = true := by
  obtain hnone | ⟨s, hs, -, -, hempty⟩ := hr.referred?_eq gone
  · rw [hnone]
    rfl
  · rw [hs]
    exact hempty

end Reclaimed

/-- Storing a session of the table leaves the reclaimed ones alone. -/
theorem retired_store {s s' : Session} (held : l.session? s.id = some s) (hid : s'.id = s.id) :
    (l.store s').retired = l.retired := by
  rw [store_eq_replace (by simp [hid, held])]

namespace Reclaimed

/-- What is said of the reclaimed sessions stays true while they and the ids in the table are the
same. -/
theorem of_same (hr : l.Reclaimed drawn) {drawn' : Nat} (hle : drawn ≤ drawn')
    (retired : l'.retired = l.retired)
    (ids : ∀ id, id ∈ l'.sessions.map (·.id) → id ∈ l.sessions.map (·.id)) :
    l'.Reclaimed drawn' where
  closed := by rw [retired]; exact hr.closed
  deserted := by rw [retired]; exact hr.deserted
  fresh := by rw [retired]; exact fun s hs => Nat.le_trans (hr.fresh s hs) hle
  gone := by rw [retired]; exact fun s hs hid => hr.gone s hs (ids _ hid)

/-- Storing a session of the table changes nothing about the reclaimed ones. -/
theorem store (hr : l.Reclaimed drawn) {s s' : Session} (held : l.session? s.id = some s)
    (hid : s'.id = s.id) : (l.store s').Reclaimed drawn := by
  apply hr.of_same (Nat.le_refl _) (retired_store held hid)
  intro id h
  rwa [map_id_store] at h

/-- Every move keeps the reclaimed sessions what they are. -/
theorem move {c : Change} (hr : l.Reclaimed drawn) (hl : l.Consistent drawn) (move : Move l c l')
    (room : drawn + c.draws < 2 ^ 32 - 1) : l'.Reclaimed (drawn + c.draws) := by
  have elsewhere {cs : Connections} {clock : Nat} :
      Reclaimed drawn { l with connections := cs, clock } :=
    hr.of_same (Nat.le_refl _) rfl fun _ => id
  cases move with
  | @admitted s s' cs h held joins =>
    have hid := (Session.join_eq_ok_iff.mp joins).2.2.2.2.1
    exact elsewhere.store (l := { l with connections := cs, clock := l.clock + 1 }) held (by rw [hid])
  | @dismissed s s' cs id login held leaves =>
    exact elsewhere.store (l := { l with connections := cs }) held (Session.id_of_leave leaves)
  | reformed held options => exact hr.store held rfl
  | advanced held elapsed => exact hr.store held rfl
  | reorderedMembers held order => exact hr.store held rfl
  | touched same => exact elsewhere
  | released names gone => exact elsewhere
  | drawn room => exact hr.of_same (Nat.le_succ _) rfl fun _ => id
  | opened hroom options =>
    have hdrawn : l.drawId.Reclaimed (drawn + 1) := hr.of_same (Nat.le_succ _) rfl fun _ => id
    refine ⟨hdrawn.closed, hdrawn.deserted, hdrawn.fresh, fun s hs hid => ?_⟩
    rw [insert, List.map_append, List.map_singleton] at hid
    rcases List.mem_append.mp hid with hold | hnew
    · exact hdrawn.gone s hs ((List.filter_sublist.map _).subset hold)
    · -- The id that is drawn comes after those of the reclaimed sessions.
      have hlast := hr.fresh s hs
      have hcounter := hl.counter
      rw [List.mem_singleton.mp hnew] at hlast
      change l.nextId.toNat ≤ drawn at hlast
      omega
  | reclaimed =>
    have hkept {id : SessionId} (hid : id ∈ (l.sessions.filter (! ·.isEmpty)).map (·.id)) :
        id ∈ l.sessions.map (·.id) := (List.filter_sublist.map _).subset hid
    have split {s : Session} (hs : s ∈ l.sweepEmpty.2.retired) : s ∈ l.retired ∨
        ∃ t ∈ l.sessions, t.isEmpty = true ∧ s = { t with isClosed := true } := by
      refine (List.mem_append.mp hs).imp id fun hs => ?_
      obtain ⟨t, ht, rfl⟩ := List.mem_map.mp hs
      exact ⟨t, (List.mem_filter.mp ht).1, (List.mem_filter.mp ht).2, rfl⟩
    refine ⟨fun s hs => ?_, fun s hs => ?_, fun s hs => ?_, fun s hs hid => ?_⟩
    · obtain hs | ⟨t, -, -, rfl⟩ := split hs
      · exact hr.closed s hs
      · rfl
    · obtain hs | ⟨t, -, hempty, rfl⟩ := split hs
      · exact hr.deserted s hs
      · exact hempty
    · obtain hs | ⟨t, ht, -, rfl⟩ := split hs
      · exact hr.fresh s hs
      · exact hl.fresh t ht
    · obtain hs | ⟨t, ht, hempty, rfl⟩ := split hs
      · exact hr.gone s hs (hkept hid)
      · -- The session that stays under this id is the one that is reclaimed.
        obtain ⟨u, hu, he⟩ := List.mem_map.mp hid
        obtain ⟨hu, hoccupied⟩ := List.mem_filter.mp hu
        obtain rfl := List.inj_on_of_nodup_map hl.keys hu ht he
        simp [hempty] at hoccupied
  | reordered order =>
    exact hr.of_same (Nat.le_refl _) rfl fun id hid => (order.map _).mem_iff.mp hid

/-- Moves keep the reclaimed sessions what they are. -/
theorem moves {who : Handle → Prop} {n : Nat} (hr : l.Reclaimed drawn) (hl : l.Consistent drawn)
    (moves : Moves who l n l') (room : drawn + n < 2 ^ 32 - 1) : l'.Reclaimed (drawn + n) := by
  induction moves with
  | refl => exact hr
  | tail before last _ ih =>
    rw [← Nat.add_assoc] at room ⊢
    exact (ih (by omega)).move (hl.moves before (by omega)) last room

end Reclaimed

/-- A move brings none of the reclaimed sessions back. -/
theorem Move.retired {c : Change} (move : Move l c l') : l.retired <+: l'.retired := by
  have stored {s s' : Session} (held : l.session? s.id = some s) (hid : s'.id = s.id)
      (cs : Connections) (clock : Nat) :
      l.retired <+: ({ l with connections := cs, clock }.store s').retired := by
    have hsame : ({ l with connections := cs, clock }.store s').retired = l.retired :=
      retired_store (l := { l with connections := cs, clock }) held hid
    exact ⟨[], by rw [hsame, List.append_nil]⟩
  cases move with
  | admitted held joins =>
    have hid := (Session.join_eq_ok_iff.mp joins).2.2.2.2.1
    exact stored held (by rw [hid]) _ _
  | dismissed held leaves => exact stored held (Session.id_of_leave leaves) _ _
  | @reformed s held options =>
    have hid : ({ s with options } : Session).id = s.id := rfl
    exact stored held hid _ _
  | @advanced s held elapsed =>
    have hid : ({ s with elapsed, tickCount := s.tickCount + 1 } : Session).id = s.id := rfl
    exact stored held hid _ _
  | @reorderedMembers s members held order =>
    have hid : ({ s with members } : Session).id = s.id := rfl
    exact stored held hid _ _
  | touched same => exact List.prefix_rfl
  | released names gone => exact List.prefix_rfl
  | drawn room => exact List.prefix_rfl
  | opened room options => exact List.prefix_rfl
  | reclaimed => exact List.prefix_append _ _
  | reordered order => exact List.prefix_rfl

/-- A session that has been reclaimed stays so. -/
theorem Move.reclaimedIds {c : Change} (move : Move l c l') {id : SessionId}
    (hid : id ∈ l.reclaimedIds) : id ∈ l'.reclaimedIds :=
  (move.retired.sublist.map _).subset hid

/-- A session that is known stays known. -/
theorem Move.known {c : Change} (move : Move l c l') {id : SessionId} (hid : l.Known id) :
    l'.Known id := by
  refine hid.elim (fun hid => ?_) fun hid => .inr (move.reclaimedIds hid)
  cases move with
  | admitted held joins => exact .inl (by rwa [map_id_store])
  | dismissed held leaves => exact .inl (by rwa [map_id_store])
  | reformed held options => exact .inl (by rwa [map_id_store])
  | advanced held elapsed => exact .inl (by rwa [map_id_store])
  | reorderedMembers held order => exact .inl (by rwa [map_id_store])
  | touched same => exact .inl hid
  | released names gone => exact .inl hid
  | drawn room => exact .inl hid
  | opened room options =>
    obtain ⟨s, hs, rfl⟩ := List.mem_map.mp hid
    refine .inl (List.mem_map.mpr ?_)
    by_cases hsame : s.id = (l.nextSession options).id
    · exact ⟨l.nextSession options, List.mem_append_right _ (List.mem_singleton_self _), hsame.symm⟩
    · exact ⟨s, List.mem_append_left _ (List.mem_filter.mpr ⟨hs, by simpa using hsame⟩), rfl⟩
  | reclaimed =>
    obtain ⟨s, hs, rfl⟩ := List.mem_map.mp hid
    cases hempty : s.isEmpty with
    | false => exact .inl (List.mem_map_of_mem (List.mem_filter.mpr ⟨hs, by simp [hempty]⟩))
    | true =>
      refine .inr (List.mem_map.mpr ⟨{ s with isClosed := true }, List.mem_append_right _ ?_, rfl⟩)
      exact List.mem_map_of_mem (List.mem_filter.mpr ⟨hs, hempty⟩)
  | reordered order => exact .inl ((order.map _).mem_iff.mpr hid)

/-- Moves leave reclaimed what has been reclaimed, and known what is known. -/
theorem Moves.known {who : Handle → Prop} {n : Nat} (moves : Moves who l n l') {id : SessionId} :
    (id ∈ l.reclaimedIds → id ∈ l'.reclaimedIds) ∧ (l.Known id → l'.Known id) := by
  induction moves with
  | refl => exact ⟨fun hid => hid, fun hid => hid⟩
  | tail _ last _ ih =>
    exact ⟨fun hid => last.reclaimedIds (ih.1 hid), fun hid => last.known (ih.2 hid)⟩

end PlayServer.Lobby
