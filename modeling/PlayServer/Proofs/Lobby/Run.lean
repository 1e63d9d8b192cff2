import PlayServer.Proofs.Lobby.Move

/-!
# Runs of a lobby

`Lobby.perform` carries out one operation with any arguments; `Lobby.run` carries out a list of
them. Two kinds of operation stand for what happens by itself: a connection closes, and the tables
of sessions and of members, which are enumerated in no order of their own, are found in another
order than before.

`moves_perform` says that every operation is a sequence of moves that draws at most one session id.
-/

namespace PlayServer

namespace Session

/-- Leaving keeps the id of a session. -/
theorem id_of_leave {s s' : Session} {cs cs' : Connections} {id : ConnectionId} {login : String}
    (h : s.leave cs id = some (login, s', cs')) : s'.id = s.id := by
  obtain ⟨m, -, -, rfl, -⟩ := leave_eq_some_iff.mp h
  rfl

/-- Taking members out keeps the id of a session. -/
theorem id_leaveEach (s : Session) (cs : Connections) (ids : List ConnectionId) :
    (s.leaveEach cs ids).2.1.id = s.id := by
  induction ids generalizing s cs with
  | nil => rfl
  | cons id rest ih =>
    unfold leaveEach
    split
    · exact ih s cs
    · next login s₁ cs₁ hl => exact (ih s₁ cs₁).trans (id_of_leave hl)

/-- Whoever is taken out is no member afterwards, and all others are. -/
theorem members_leaveEach (s : Session) (cs : Connections) (ids : List ConnectionId) :
    (s.leaveEach cs ids).2.1.members = s.members.filter (·.id ∉ ids) := by
  induction ids generalizing s cs with
  | nil => simp [leaveEach]
  | cons id rest ih =>
    unfold leaveEach
    split
    · next hl =>
      have habsent : ∀ m ∈ s.members, m.id ≠ id := by
        simpa [leave, member?] using hl
      rw [ih]
      apply List.filter_congr
      intro m hm
      simp [habsent m hm]
    · next login s₁ cs₁ hl =>
      obtain ⟨m, -, -, rfl, -⟩ := leave_eq_some_iff.mp hl
      refine (ih _ cs₁).trans ?_
      simp only [List.filter_filter]
      apply List.filter_congr
      intro m _
      by_cases hm : m.id = id <;> simp [hm]

end Session

namespace Lobby

@[simp] theorem connections_store (l : Lobby) (s : Session) :
    (l.store s).connections = l.connections := by
  unfold store
  split <;> rfl

@[simp] theorem map_id_store (l : Lobby) (s : Session) :
    (l.store s).sessions.map (·.id) = l.sessions.map (·.id) := by
  unfold store
  split
  · exact map_id_replace s l.sessions
  · rfl

/-- Of two sessions stored one after the other under one id the last one stays. -/
theorem store_store {l : Lobby} {s s' : Session} {cs : Connections} (hid : s'.id = s.id)
    (known : (l.session? s.id).isSome = true) :
    { l.store s with connections := cs }.store s' = { l with connections := cs }.store s' := by
  have hknown' : (l.session? s'.id).isSome = true := hid ▸ known
  have hstored : (({ l.store s with connections := cs } : Lobby).session? s'.id).isSome = true :=
    session?_store_isSome.trans hknown'
  rw [store_eq_replace hstored, store_eq_replace (l := { l with connections := cs }) hknown',
    store_eq_replace known, replace_replace hid]

/-- Where ids are distinct, the sessions around one have other ids. -/
theorem ids_ne_of_nodup {s : Session} {before after : List Session}
    (h : ((before ++ s :: after).map (·.id)).Nodup) :
    (∀ t ∈ before, t.id ≠ s.id) ∧ ∀ t ∈ after, t.id ≠ s.id := by
  rw [List.map_append, List.map_cons, List.nodup_middle, List.nodup_cons, List.mem_append] at h
  have hnot : ∀ t ∈ before ++ after, t.id ≠ s.id := by
    intro t ht he
    rw [List.mem_append] at ht
    exact h.1 (ht.imp (fun ht => he ▸ List.mem_map_of_mem ht) fun ht => he ▸ List.mem_map_of_mem ht)
  exact ⟨fun t ht => hnot t (by simp [ht]), fun t ht => hnot t (by simp [ht])⟩

/-- Storing a session that is there already changes nothing. -/
theorem store_self {l : Lobby} (hk : l.KeysDistinct) {s : Session} (hs : s ∈ l.sessions) :
    l.store s = l := by
  obtain ⟨before, after, hsplit⟩ := List.append_of_mem hs
  have hnodup : ((before ++ s :: after).map (·.id)).Nodup := hsplit ▸ hk
  obtain ⟨hbefore, hafter⟩ := ids_ne_of_nodup hnodup
  have hsame : replace s l.sessions = l.sessions := by
    rw [hsplit, replace_append_cons rfl hbefore hafter]
  rw [store_eq_replace (by simp [session?_eq_some hk hs]), hsame]

/-- Joining a session that is there admits the connection or changes nothing. -/
theorem moves_joinSession {l : Lobby} {s : Session} (held : l.session? s.id = some s)
    (h : Handle) : Moves (· = h) l 0 (l.joinSession s h).2 := by
  unfold joinSession
  split
  · exact .refl
  · next s' cs joins => exact .single (.admitted held joins) (by simp [Change.joiner?])

/-- A refused join changes nothing. -/
theorem joinSession_of_error {l : Lobby} {s : Session} {h : Handle} {e : SessionError}
    (refused : (l.joinSession s h).1 = .error e) : (l.joinSession s h).2 = l := by
  unfold joinSession at refused ⊢
  split
  · rfl
  · next s' cs joins => simp [joins] at refused

/-- Joining a session under an id admits the connection or changes nothing. -/
theorem moves_join (l : Lobby) (id : SessionId) (h : Handle) :
    Moves (· = h) l 0 (l.join id h).2 := by
  unfold join
  split
  · exact .refl
  · next s hs => exact moves_joinSession (by rw [(mem_of_session? hs).2, hs]) h

/-- A search among sessions that are there comes to no result, and has changed nothing, or to what
joining one of them comes to. -/
theorem joinFirst_cases {l : Lobby} (h : Handle) {ids : List SessionId}
    (known : ∀ id ∈ ids, (l.session? id).isSome = true) :
    l.joinFirst h ids = (none, l) ∨ ∃ s, l.session? s.id = some s ∧
      l.joinFirst h ids = (some (l.joinSession s h).1, (l.joinSession s h).2) := by
  induction ids with
  | nil => exact .inl rfl
  | cons id rest ih =>
    obtain ⟨s, hs⟩ := Option.isSome_iff_exists.mp (known id List.mem_cons_self)
    have held : l.session? s.id = some s := by rw [(mem_of_session? hs).2, hs]
    have hjoin : l.joinReferred id h = l.joinSession s h := by
      simp [joinReferred, referred?_of_session? hs]
    unfold joinFirst
    rw [hjoin]
    split
    · next summary l' heq => exact .inr ⟨s, held, by rw [heq]⟩
    · next e l' heq =>
      have hsame : (l.joinSession s h).2 = l := joinSession_of_error (by rw [heq])
      rw [heq] at hsame
      obtain rfl : l' = l := hsame
      split
      · exact ih fun id hid => known id (List.mem_cons_of_mem _ hid)
      · exact .inr ⟨s, held, by rw [heq]⟩

/-- Joining any session comes to what joining one that is there comes to, or creating one. -/
theorem findOrCreateAndJoin_cases (l : Lobby) (h : Handle) :
    (∃ s, l.session? s.id = some s ∧ l.findOrCreateAndJoin h = l.joinSession s h) ∨
      l.findOrCreateAndJoin h = l.createAndJoin h {} := by
  have known : ∀ id ∈ l.inIdOrder.map (·.id), (l.session? id).isSome = true := by
    intro id hid
    obtain ⟨s, hs, rfl⟩ := List.mem_map.mp hid
    exact session?_isSome_iff.mpr (List.mem_map_of_mem (List.mem_mergeSort.mp hs))
  unfold findOrCreateAndJoin
  split
  · next current hnamed => exact .inr (by rw [createAndJoin, hnamed])
  · rcases joinFirst_cases h known with hnone | ⟨s, held, hfound⟩
    · exact .inr (by rw [hnone])
    · exact .inl ⟨s, held, by rw [hfound]⟩

/-- A session is drawn while there is room for one more; it has the next id and no members. -/
theorem draw_eq_ok_iff {l l' : Lobby} {options : SessionOptions} {s : Session} :
    l.draw options = .ok (s, l') ↔
      l.count < l.maxSessions ∧ s = l.nextSession options ∧ l' = l.drawId := by
  unfold draw
  split
  · simp only [reduceCtorEq, false_iff, not_and]
    omega
  · next hroom =>
    have hcount : l.count < l.maxSessions := by omega
    simp only [Except.ok.injEq, Prod.mk.injEq, hcount, true_and]
    exact and_congr eq_comm eq_comm

/-- The opened session is found under the id that was drawn for it. -/
theorem session?_insert_self (l : Lobby) (s : Session) : (l.insert s).session? s.id = some s := by
  have hnone : (l.sessions.filter (·.id != s.id)).find? (·.id == s.id) = none := by
    simp [List.find?_eq_none]
  simp [session?, insert, List.find?_append, hnone]

/-- Storing over a session that was just inserted is inserting. -/
theorem store_insert {l : Lobby} {s s' : Session} (hid : s'.id = s.id) :
    (l.insert s).store s' = l.insert s' := by
  have hothers : ∀ t ∈ l.sessions.filter (·.id != s.id), t.id ≠ s'.id := by
    intro t ht
    rw [hid]
    simpa using (List.mem_filter.mp ht).2
  rw [store_eq_replace (by simp [hid, session?_insert_self])]
  simp only [insert, hid]
  rw [replace_append_cons hid.symm hothers (by simp)]

/-- A new session takes its creator by being opened and then joined. -/
theorem moves_createAndJoin (l : Lobby) (h : Handle) (options : SessionOptions) :
    ∃ n ≤ 1, Moves (· = h) l n (l.createAndJoin h options).2 := by
  unfold createAndJoin
  split
  · exact ⟨0, by omega, .refl⟩
  split
  · exact ⟨0, by omega, .refl⟩
  · next s₀ l₁ hdraw =>
    obtain ⟨hroom, rfl, rfl⟩ := draw_eq_ok_iff.mp hdraw
    refine ⟨1, by omega, ?_⟩
    split
    · exact .quiet (.drawn hroom) rfl
    · next s cs joins =>
      obtain ⟨-, -, -, -, hs, -⟩ := Session.join_eq_ok_iff.mp joins
      have hid : s.id = (l.nextSession options).id := by rw [hs]
      have hopened : Moves (· = h) l 1 (l.drawId.insert (l.nextSession options)) :=
        .quiet (.opened hroom options) rfl
      have hjoined := hopened.tail (.admitted (session?_insert_self _ _) joins)
        (by simp [Change.joiner?])
      have hinsert : { l.drawId.insert (l.nextSession options) with
            connections := cs, clock := l.clock + 1 }.store s =
          { l.drawId with connections := cs, clock := l.clock + 1 }.insert s :=
        store_insert (l := { l.drawId with connections := cs, clock := l.clock + 1 }) hid
      exact hinsert ▸ hjoined

/-- Joining any session is joining one that is there or opening one. -/
theorem moves_findOrCreateAndJoin (l : Lobby) (h : Handle) :
    ∃ n ≤ 1, Moves (· = h) l n (l.findOrCreateAndJoin h).2 := by
  rcases l.findOrCreateAndJoin_cases h with ⟨s, held, hjoin⟩ | hcreate
  · exact ⟨0, by omega, hjoin ▸ moves_joinSession held h⟩
  · exact hcreate ▸ moves_createAndJoin l h {}

/-- Taking members out of a session, which is stored before and after, is a sequence of
dismissals. -/
theorem quietMoves_leaveEach {l : Lobby} {s : Session} (known : (l.session? s.id).isSome = true)
    (cs : Connections) (ids : List ConnectionId) :
    QuietMoves ({ l with connections := cs }.store s)
      ({ l with connections := (s.leaveEach cs ids).2.2 }.store (s.leaveEach cs ids).2.1) := by
  induction ids generalizing s cs with
  | nil => exact .refl
  | cons id rest ih =>
    unfold Session.leaveEach
    split
    · exact ih known cs
    · next login s₁ cs₁ hl =>
      have hid : s₁.id = s.id := Session.id_of_leave hl
      have held : ({ l with connections := cs }.store s).session? s.id = some s :=
        session?_store_self (l := { l with connections := cs }) known
      have hfirst := Move.dismissed held (by rw [connections_store]; exact hl)
      rw [store_store (l := { l with connections := cs }) hid known] at hfirst
      exact (Moves.quiet hfirst rfl).trans (ih (hid ▸ known) cs₁)

/-- Leaving dismisses a member, releases a connection or changes nothing. -/
theorem quietMoves_leave (l : Lobby) (h : Handle) : QuietMoves l (l.leave h).2 := by
  unfold leave
  dsimp only
  split
  · exact .refl
  · next id names =>
    split
    · next gone => exact .quiet (.released names gone) rfl
    · next s hs =>
      obtain ⟨-, rfl⟩ := mem_of_session? hs
      rw [leaveReferred, referred?_of_session? hs]
      dsimp only
      cases hl : s.leave l.connections (l.connection h).id with
      | none => exact .refl
      | some left =>
        obtain ⟨login, s', cs⟩ := left
        exact .quiet (.dismissed hs hl) rfl

/-- Changing options changes those of a session that is there, or nothing. -/
theorem quietMoves_setOptions (l : Lobby) (h : Handle) (options : SessionOptions) :
    QuietMoves l (l.setOptions h options).2 := by
  unfold setOptions
  dsimp only
  split
  · exact .refl
  · next id names =>
    split
    · exact .refl
    · next s hs =>
      obtain ⟨-, rfl⟩ := mem_of_session? hs
      rw [setOptionsReferred, referred?_of_session? hs]
      dsimp only
      split
      · exact .refl
      · next s' hset =>
        obtain ⟨-, -, rfl⟩ := Session.setOptions_eq_ok_iff.mp hset
        exact .quiet (.reformed hs options) rfl

/-- A broadcast only queues. -/
theorem quietMoves_broadcast (l : Lobby) (id : SessionId) (p : Packet)
    (excluding : Option ConnectionId) : QuietMoves l (l.broadcast id p excluding).2 := by
  unfold broadcast
  split
  · exact .refl
  · next s hs =>
    rw [broadcastReferred, referred?_of_session? hs]
    exact .quiet (.touched (Session.sameStanding_sendEach _ _ _)) rfl

/-- When time passes in a session its counters advance, and then members are dismissed. -/
theorem quietMoves_tickReferred {l : Lobby} {id : SessionId}
    (known : (l.session? id).isSome = true) (delta : Duration) :
    QuietMoves l (l.tickReferred id delta).2 ∧
      (l.tickReferred id delta).2.sessions.map (·.id) = l.sessions.map (·.id) := by
  obtain ⟨s, hs⟩ := Option.isSome_iff_exists.mp known
  obtain ⟨-, rfl⟩ := mem_of_session? hs
  rw [tickReferred, referred?_of_session? hs]
  dsimp only
  split
  · exact ⟨.refl, rfl⟩
  · next logins s' cs hticked =>
    unfold Session.tick at hticked
    split at hticked
    · simp at hticked
    · next elapsed _ =>
      obtain ⟨-, rfl, rfl⟩ : _ ∧ _ ∧ _ := by simpa [Prod.ext_iff] using hticked
      have hadvanced : QuietMoves l (l.store { s with elapsed, tickCount := s.tickCount + 1 }) :=
        .quiet (.advanced hs elapsed) rfl
      exact ⟨hadvanced.trans (quietMoves_leaveEach (by simp [hs]) l.connections _), by simp⟩

/-- Time passes in sessions that are there one after the other. -/
theorem quietMoves_tickEach {l : Lobby} (delta : Duration) {ids : List SessionId}
    (known : ∀ id ∈ ids, (l.session? id).isSome = true) :
    QuietMoves l (l.tickEach delta ids).2 := by
  induction ids generalizing l with
  | nil => exact .refl
  | cons id rest ih =>
    have hrest : ∀ id ∈ rest, (l.session? id).isSome = true :=
      fun id hid => known id (List.mem_cons_of_mem _ hid)
    obtain ⟨hticked, hkeys⟩ := quietMoves_tickReferred (known id List.mem_cons_self) delta
    unfold tickEach
    split
    · exact ih hrest
    · split
      · next e l' heq => simpa [heq] using hticked
      · next logins l' heq =>
        rw [heq] at hticked hkeys
        have hlater := ih (l := l') fun id hid => by
          rw [session?_isSome_iff, hkeys]
          exact session?_isSome_iff.mp (hrest id hid)
        dsimp only
        split
        · next e l'' heq' =>
          rw [heq'] at hlater
          exact hticked.trans hlater
        · next later l'' heq' =>
          rw [heq'] at hlater
          exact hticked.trans hlater

/-- The scheduler advances sessions and dismisses members. -/
theorem quietMoves_tickAll (l : Lobby) (delta : Duration) : QuietMoves l (l.tickAll delta).2 :=
  quietMoves_tickEach delta fun _ hid => session?_isSome_iff.mpr hid

/-- Emptying sessions dismisses all of their members. -/
theorem quietMoves_closeEach {l : Lobby} (hk : l.KeysDistinct) (done todo : List Session)
    (hsplit : l.sessions = done ++ todo) :
    ∃ cleared : List Session,
      (closeEach l.connections todo).1 = cleared.map (fun s => { s with isClosed := true }) ∧
        (∀ s ∈ cleared, s.isEmpty = true) ∧
        QuietMoves l { l with
          connections := (closeEach l.connections todo).2
          sessions := done ++ cleared } := by
  induction todo generalizing l done with
  | nil =>
    refine ⟨[], rfl, by simp, ?_⟩
    rw [← hsplit]
    exact .refl
  | cons s rest ih =>
    have hs : s ∈ l.sessions := by simp [hsplit]
    have hheld := session?_eq_some hk hs
    obtain ⟨s₁, cs₁, hcleared⟩ : ∃ s₁ cs₁,
        s₁ = (s.leaveEach l.connections (s.members.map (·.id))).2.1 ∧
          cs₁ = (s.leaveEach l.connections (s.members.map (·.id))).2.2 := ⟨_, _, rfl, rfl⟩
    have hid : s₁.id = s.id := by rw [hcleared.1, Session.id_leaveEach]
    have hempty : s₁.isEmpty = true := by
      rw [Session.isEmpty, hcleared.1, Session.members_leaveEach, List.isEmpty_iff,
        List.filter_eq_nil_iff]
      intro m hm
      simpa using ⟨m, hm, rfl⟩
    have hmoves := quietMoves_leaveEach (s := s) (by rw [hheld]; rfl) l.connections
      (s.members.map (·.id))
    rw [← hcleared.1, ← hcleared.2, show { l with connections := l.connections } = l from rfl,
      store_self hk hs] at hmoves
    have hnodup : ((done ++ s :: rest).map (·.id)).Nodup := hsplit ▸ hk
    obtain ⟨hbefore, hafter⟩ := ids_ne_of_nodup hnodup
    have hreplaced : replace s₁ l.sessions = (done ++ [s₁]) ++ rest := by
      rw [hsplit, replace_append_cons hid.symm (by rwa [hid]) (by rwa [hid])]
      simp
    have hknown : (l.session? s₁.id).isSome = true := by simp [hid, hheld]
    have hstored : { l with connections := cs₁ }.store s₁ =
        { l with connections := cs₁, sessions := (done ++ [s₁]) ++ rest } := by
      rw [store_eq_replace (l := { l with connections := cs₁ }) hknown, ← hreplaced]
    rw [hstored] at hmoves
    have hk₁ : KeysDistinct { l with connections := cs₁, sessions := (done ++ [s₁]) ++ rest } := by
      simpa [KeysDistinct, hsplit, hid] using hk
    obtain ⟨cleared, hclosed, hall, hlater⟩ := ih hk₁ (done ++ [s₁]) rfl
    refine ⟨s₁ :: cleared, ?_, by simpa [hempty] using hall, ?_⟩
    · simp only [closeEach, Session.clear, ← hcleared.1, ← hcleared.2, List.map_cons]
      exact congrArg _ hclosed
    · simp only [closeEach, Session.clear, ← hcleared.2]
      simpa using hmoves.trans hlater

/-- Shutting down empties the sessions and then reclaims them. -/
theorem quietMoves_shutdownAll {l : Lobby} (hk : l.KeysDistinct) :
    QuietMoves l l.shutdownAll.2 := by
  obtain ⟨cleared, hclosed, hempty, hmoves⟩ := quietMoves_closeEach hk [] l.sessions rfl
  have hreclaimed := hmoves.tail .reclaimed (by simp [Change.joiner?])
  have hnone : cleared.filter (fun s => !s.isEmpty) = [] := by
    simpa [List.filter_eq_nil_iff] using hempty
  have hall : cleared.filter (fun s => s.isEmpty) = cleared :=
    List.filter_eq_self.mpr hempty
  simpa [sweepEmpty, shutdownAll, hclosed, hnone, hall, Change.draws] using hreclaimed

/-- An operation on a lobby, or what comes between two. -/
inductive Operation where
  | create (options : SessionOptions)
  | createAndJoin (h : Handle) (options : SessionOptions)
  | join (id : SessionId) (h : Handle)
  | findOrCreateAndJoin (h : Handle)
  | leave (h : Handle)
  | setOptions (h : Handle) (options : SessionOptions)
  | broadcast (id : SessionId) (p : Packet) (excluding : Option ConnectionId)
  | tickAll (delta : Duration)
  | sweepEmpty
  | shutdownAll
  /-- A connection closes. -/
  | close (h : Handle)
  /-- From now on the sessions are enumerated in this order, if it is one of theirs. -/
  | reorder (sessions : List Session)
  /-- From now on the members of a session are enumerated in this order, if it is one of theirs. -/
  | reorderMembers (id : SessionId) (members : List Member)

/-- Puts the members of a session in another order. -/
def reorderMembers (l : Lobby) (id : SessionId) (members : List Member) : Lobby :=
  match l.session? id with
  | none => l
  | some s => if members.Perm s.members then l.store { s with members } else l

/-- Puts the sessions in another order. -/
def reorder (l : Lobby) (sessions : List Session) : Lobby :=
  if sessions.Perm l.sessions then { l with sessions } else l

/-- Carries out an operation. -/
def perform (l : Lobby) : Operation → Lobby
  | .create options => (l.create options).2
  | .createAndJoin h options => (l.createAndJoin h options).2
  | .join id h => (l.join id h).2
  | .findOrCreateAndJoin h => (l.findOrCreateAndJoin h).2
  | .leave h => (l.leave h).2
  | .setOptions h options => (l.setOptions h options).2
  | .broadcast id p excluding => (l.broadcast id p excluding).2
  | .tickAll delta => (l.tickAll delta).2
  | .sweepEmpty => l.sweepEmpty.2
  | .shutdownAll => l.shutdownAll.2
  | .close h => l.updateConnection h Connection.close
  | .reorder sessions => l.reorder sessions
  | .reorderMembers id members => l.reorderMembers id members

/-- Carries out operations one after the other. -/
def run (l : Lobby) (ops : List Operation) : Lobby := ops.foldl perform l

/-- How many session ids an operation draws: none or one, which the counter tells. -/
def idsDrawnBy (l : Lobby) (op : Operation) : Nat :=
  if (l.perform op).nextId = l.nextId then 0 else 1

/-- How many session ids a run draws. -/
def idsDrawn (l : Lobby) : List Operation → Nat
  | [] => 0
  | op :: rest => l.idsDrawnBy op + (l.perform op).idsDrawn rest

/-- Another order of the sessions is a move, if it is one of theirs. -/
theorem quietMoves_reorder (l : Lobby) (sessions : List Session) :
    QuietMoves l (l.reorder sessions) := by
  unfold reorder
  split
  · next order => exact .quiet (.reordered order) rfl
  · exact .refl

/-- Another order of the members of a session is a move, if it is one of theirs. -/
theorem quietMoves_reorderMembers (l : Lobby) (id : SessionId) (members : List Member) :
    QuietMoves l (l.reorderMembers id members) := by
  unfold reorderMembers
  split
  · exact .refl
  · next s hs =>
    obtain ⟨-, rfl⟩ := mem_of_session? hs
    split
    · next order => exact .quiet (.reorderedMembers hs order) rfl
    · exact .refl

/-- Every operation is a sequence of moves that draws at most one session id. -/
theorem moves_perform {l : Lobby} (hk : l.KeysDistinct) (op : Operation) :
    ∃ n ≤ 1, Moves (fun _ => True) l n (l.perform op) := by
  have quietly {l' : Lobby} (h : QuietMoves l l') : ∃ n ≤ 1, Moves (fun _ => True) l n l' :=
    ⟨0, by omega, h.of_quiet⟩
  have joining {l' : Lobby} {h : Handle} (hm : ∃ n ≤ 1, Moves (· = h) l n l') :
      ∃ n ≤ 1, Moves (fun _ => True) l n l' := by
    obtain ⟨n, hn, hm⟩ := hm
    exact ⟨n, hn, hm.mono fun _ _ => trivial⟩
  cases op with
  | create options =>
    simp only [perform, create]
    split
    · exact quietly .refl
    · next s l' hdraw =>
      obtain ⟨hroom, rfl, rfl⟩ := draw_eq_ok_iff.mp hdraw
      exact ⟨1, by omega, .single (.opened hroom options) (by simp)⟩
  | createAndJoin h options => exact joining (moves_createAndJoin l h options)
  | join id h => exact joining ⟨0, by omega, moves_join l id h⟩
  | findOrCreateAndJoin h => exact joining (moves_findOrCreateAndJoin l h)
  | leave h => exact quietly (quietMoves_leave l h)
  | setOptions h options => exact quietly (quietMoves_setOptions l h options)
  | broadcast id p excluding => exact quietly (quietMoves_broadcast l id p excluding)
  | tickAll delta => exact quietly (quietMoves_tickAll l delta)
  | sweepEmpty => exact quietly (.quiet .reclaimed rfl)
  | shutdownAll => exact quietly (quietMoves_shutdownAll hk)
  | close h =>
    have hsame := l.connections.sameStanding_set h _ (l.connection h).sameStanding_close
    exact quietly (.quiet (.touched hsame) rfl)
  | reorder sessions => exact quietly (quietMoves_reorder l sessions)
  | reorderMembers id members => exact quietly (quietMoves_reorderMembers l id members)

/-- The counter tells how many ids were drawn, where this was at most one. -/
theorem Moves.draws_eq {who : Handle → Prop} {n : Nat} {l l' : Lobby} (h : Moves who l n l')
    (few : n ≤ 1) : n = if l'.nextId = l.nextId then 0 else 1 := by
  obtain ⟨hcounter, -⟩ := h.limits
  obtain rfl | rfl : n = 0 ∨ n = 1 := by omega
  · simp [hcounter]
  · simp [hcounter]

/-- Every operation is a sequence of moves that draws as many ids as the counter tells. -/
theorem moves_idsDrawnBy {l : Lobby} (hk : l.KeysDistinct) (op : Operation) :
    Moves (fun _ => True) l (l.idsDrawnBy op) (l.perform op) := by
  obtain ⟨n, hn, hmoves⟩ := moves_perform hk op
  have hdrawn : n = l.idsDrawnBy op := hmoves.draws_eq hn
  exact hdrawn ▸ hmoves

/-- A move leaves the ids of the sessions distinct. -/
theorem KeysDistinct.move {l l' : Lobby} {c : Change} (hk : l.KeysDistinct) (move : Move l c l') :
    l'.KeysDistinct := by
  unfold KeysDistinct at hk ⊢
  cases move with
  | admitted held joins => rwa [map_id_store]
  | dismissed held leaves => rwa [map_id_store]
  | reformed held options => rwa [map_id_store]
  | advanced held elapsed => rwa [map_id_store]
  | reorderedMembers held order => rwa [map_id_store]
  | touched same => exact hk
  | released names gone => exact hk
  | drawn room => exact hk
  | opened room options =>
    rw [insert, List.map_append, List.map_singleton]
    apply ((List.filter_sublist.map _).nodup hk).append (List.nodup_singleton _)
    simp [List.disjoint_singleton]
  | reclaimed => exact (List.filter_sublist.map _).nodup hk
  | reordered order => exact (order.map _).nodup_iff.mpr hk

/-- Moves leave the ids of the sessions distinct. -/
theorem KeysDistinct.moves {l l' : Lobby} {who : Handle → Prop} {n : Nat} (hk : l.KeysDistinct)
    (moves : Moves who l n l') : l'.KeysDistinct := by
  induction moves with
  | refl => exact hk
  | tail _ last _ ih => exact ih.move last

/-- A run of any length is a sequence of moves that draws as many ids as the counter tells. -/
theorem moves_run {l : Lobby} (hk : l.KeysDistinct) (ops : List Operation) :
    Moves (fun _ => True) l (l.idsDrawn ops) (l.run ops) := by
  induction ops generalizing l with
  | nil => exact .refl
  | cons op rest ih =>
    have hfirst := moves_idsDrawnBy hk op
    exact hfirst.trans (ih (hk.moves hfirst))

end Lobby

end PlayServer
