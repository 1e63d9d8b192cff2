import PlayServer.Proofs.Lobby.Roster

/-!
# Places

`Lobby.places` lists all members of all sessions, each by its session and its connection. What lies
between two states of a lobby is seen from the places that were taken and those that were vacated,
and these add up: whoever has joined has left or is still there.
-/

namespace PlayServer.Lobby

/-- The places that are taken: sessions with the connections of their members. -/
def places (l : Lobby) : List (SessionId × Handle) :=
  l.sessions.flatMap fun s => (l.seated s.id).map (s.id, ·)

/-- The places that are taken no longer. -/
def vacated (l l' : Lobby) : List (SessionId × Handle) := l.places.filter (· ∉ l'.places)

/-- The places that were not taken before. -/
def taken (l l' : Lobby) : List (SessionId × Handle) := l'.vacated l

section

variable {l l' : Lobby} {drawn drawn' : Nat}

/-- A connection has the place in the session that it names. -/
theorem Consistent.mem_places_iff (hl : l.Consistent drawn) {id : SessionId} {h : Handle} :
    (id, h) ∈ l.places ↔ (l.connection h).session = some id := by
  rw [← hl.mem_seated_iff, places, List.mem_flatMap]
  constructor
  · rintro ⟨s, -, hplace⟩
    obtain ⟨k, hk, he⟩ := List.mem_map.mp hplace
    obtain ⟨rfl, rfl⟩ := Prod.mk.inj he
    exact hk
  · intro hseated
    cases hfound : l.session? id with
    | none => simp [seated, roster_of_none hfound] at hseated
    | some s =>
      obtain ⟨hs, rfl⟩ := mem_of_session? hfound
      exact ⟨s, hs, List.mem_map_of_mem hseated⟩

/-- No place is listed twice. -/
theorem Consistent.nodup_places (hl : l.Consistent drawn) : l.places.Nodup := by
  rw [places, List.nodup_flatMap]
  constructor
  · intro s _
    exact (hl.nodup_seated s.id).map fun _ _ he => (Prod.mk.inj he).2
  · have hkeys : l.sessions.Pairwise fun s s' => s.id ≠ s'.id := List.pairwise_map.mp hl.keys
    refine hkeys.imp fun {s s'} hne => ?_
    intro place hs hs'
    obtain ⟨k, -, rfl⟩ := List.mem_map.mp hs
    obtain ⟨k', -, he⟩ := List.mem_map.mp hs'
    exact hne (Prod.mk.inj he).1.symm

/-- A place was vacated by a connection that named the session and does so no longer. -/
theorem mem_vacated_iff (hl : l.Consistent drawn) (hl' : l'.Consistent drawn') {id : SessionId}
    {h : Handle} : (id, h) ∈ l.vacated l' ↔
      (l.connection h).session = some id ∧ (l'.connection h).session ≠ some id := by
  rw [vacated, List.mem_filter, hl.mem_places_iff, decide_eq_true_iff, hl'.mem_places_iff]

/-- Nobody has left where every connection names the session that it named. -/
theorem vacated_eq_nil (hl : l.Consistent drawn) (hl' : l'.Consistent drawn')
    (stays : ∀ h id, (l.connection h).session = some id → (l'.connection h).session = some id) :
    l.vacated l' = [] := by
  rw [List.eq_nil_iff_forall_not_mem]
  rintro ⟨id, h⟩ hvacated
  obtain ⟨hbefore, hafter⟩ := (mem_vacated_iff hl hl').mp hvacated
  exact hafter (stays h id hbefore)

/-- One connection has left the session that it named, and nobody else has moved. -/
theorem vacated_eq_singleton (hl : l.Consistent drawn) (hl' : l'.Consistent drawn')
    {id : SessionId} {h : Handle} (named : (l.connection h).session = some id)
    (released : (l'.connection h).session = none)
    (others : ∀ k, k ≠ h → (l'.connection k).session = (l.connection k).session) :
    l.vacated l' = [(id, h)] ∧ l'.vacated l = [] := by
  constructor
  · have hone : l.vacated l' = l.places.filter (· = (id, h)) := by
      apply List.filter_congr
      rintro ⟨id', k⟩ hplace
      rw [hl.mem_places_iff] at hplace
      rw [decide_eq_decide, hl'.mem_places_iff]
      by_cases hk : k = h
      · subst hk
        obtain rfl : id = id' := Option.some.inj (named.symm.trans hplace)
        simp [released]
      · simp [others k hk, hplace, hk]
    rw [hone, List.filter_eq, hl.nodup_places.count, if_pos (hl.mem_places_iff.mpr named)]
    rfl
  · apply vacated_eq_nil hl' hl
    intro k id' hafter
    have hk : k ≠ h := by
      rintro rfl
      simp [released] at hafter
    rw [← others k hk, hafter]

/-- Whoever is or was there has stayed, has left or has come. -/
theorem length_places_add (hl : l.Consistent drawn) (hl' : l'.Consistent drawn') :
    l'.places.length + (l.vacated l').length = l.places.length + (l.taken l').length := by
  have hstay : (l'.places.filter (· ∈ l.places)).Perm (l.places.filter (· ∈ l'.places)) := by
    apply (List.perm_ext_iff_of_nodup (hl'.nodup_places.filter _) (hl.nodup_places.filter _)).mpr
    intro place
    simp only [List.mem_filter, decide_eq_true_iff]
    exact and_comm
  have split (places places' : List (SessionId × Handle)) : places.length =
      (places.filter (· ∈ places')).length + (places.filter (· ∉ places')).length := by
    rw [List.length_eq_countP_add_countP (· ∈ places'), List.countP_eq_length_filter,
      List.countP_eq_length_filter]
    simp
  have hbefore := split l.places l'.places
  have hafter := split l'.places l.places
  rw [hstay.length_eq] at hafter
  rw [taken, vacated, vacated]
  omega

/-- Whoever joins a session takes the place in it, and nobody leaves. -/
theorem Admits.taken_eq {id : SessionId} {h : Handle} (admits : Admits l id h l')
    (hl : l.Consistent drawn) (hl' : l'.Consistent drawn') :
    l.taken l' = [(id, h)] ∧ l.vacated l' = [] := by
  have hget (k : Handle) : l'.connection k =
      if k = h then { l.connection h with session := some id } else l.connection k := by
    rw [connection, admits.connections, Connections.get_set]
    rfl
  refine vacated_eq_singleton hl' hl ?_ admits.free fun k hk => ?_
  · rw [hget, if_pos rfl]
  · rw [hget, if_neg hk]

/-- Whoever leaves a session vacates the place in it, and nobody joins. -/
theorem Dismisses.vacated_eq {h : Handle} {d : Departure} (dismisses : Dismisses l h d l')
    (hl : l.Consistent drawn) (hl' : l'.Consistent drawn') :
    l.vacated l' = [(d.session, h)] ∧ l.taken l' = [] := by
  have hnamed := dismisses.named hl
  have hget (k : Handle) : l'.connection k =
      if k = h then (l.connection h).releaseSession d.session else l.connection k := by
    rw [connection, dismisses.connections, Connections.get_update]
    rfl
  refine vacated_eq_singleton hl hl' hnamed ?_ fun k hk => ?_
  · rw [hget, if_pos rfl, Connection.releaseSession, if_pos hnamed]
  · rw [hget, if_neg hk]

end

end PlayServer.Lobby
