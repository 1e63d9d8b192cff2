import PlayServer.Proofs.Lobby.Membership

/-!
# The numbering of sessions

Session ids are drawn from a counter of 32 bits that begins at 1 and is never set back. In a run of
any length the ids are drawn in turn, whatever becomes of the sessions: `nthId` is the one that
comes after a number of others. So no id is drawn twice before 2³² have been drawn, and 0, which
stands for any session, is the last of these.

After that the numbering begins again, and a session that has been there since the beginning is
replaced by a new one: `ids_of_run_beginAgain`.
-/

namespace PlayServer.Lobby

/-- The id that is drawn after so many others. -/
def nthId (n : Nat) : SessionId := ⟨UInt32.ofNat (n + 1)⟩

/-- The id that an operation draws, if it draws one. -/
def drawnBy? (l : Lobby) (op : Operation) : Option SessionId :=
  if (l.perform op).nextId = l.nextId then none else some ⟨l.nextId⟩

/-- The ids that a run draws, in the order of drawing. -/
def drawnIn (l : Lobby) : List Operation → List SessionId
  | [] => []
  | op :: rest => (l.drawnBy? op).toList ++ (l.perform op).drawnIn rest

/-- So many ids have been drawn in turn, and every session has one of them. -/
structure Numbered (n : Nat) (l : Lobby) : Prop where
  counter : (⟨l.nextId⟩ : SessionId) = nthId n
  drawn : ∀ id ∈ l.sessions.map (·.id), ∃ k < n, id = nthId k

/-- Ids drawn one after the other are equal when a multiple of 2³² lies between them. -/
theorem nthId_eq_iff {k k' : Nat} : nthId k = nthId k' ↔ (k + 1) % 2 ^ 32 = (k' + 1) % 2 ^ 32 := by
  rw [nthId, nthId, SessionId.mk.injEq, ← UInt32.toNat_inj, UInt32.toNat_ofNat', UInt32.toNat_ofNat']

/-- The first 2³² ids differ. -/
theorem nthId_inj {k k' : Nat} (hk : k < 2 ^ 32) (hk' : k' < 2 ^ 32) (h : nthId k = nthId k') :
    k = k' := by
  rw [nthId_eq_iff] at h
  omega

/-- The counter stands at 0 when one less than a multiple of 2³² ids have been drawn. -/
theorem nthId_eq_zero_iff {k : Nat} : nthId k = ⟨0⟩ ↔ (k + 1) % 2 ^ 32 = 0 := by
  have hzero : (⟨0⟩ : SessionId) = nthId (2 ^ 32 - 1) := rfl
  rw [hzero, nthId_eq_iff]
  omega

namespace Numbered

variable {l l' : Lobby} {n : Nat}

/-- A lobby with the same ids is numbered likewise. -/
theorem of_map_id (h : Numbered n l) (hids : l'.sessions.map (·.id) = l.sessions.map (·.id))
    (hcounter : l'.nextId = l.nextId) : Numbered n l' where
  counter := by rw [hcounter]; exact h.counter
  drawn := by rw [hids]; exact h.drawn

/-- The next id is drawn. -/
theorem drawId (h : Numbered n l) : Numbered (n + 1) l.drawId where
  counter := by
    have hcounter := h.counter
    rw [nthId, SessionId.mk.injEq] at hcounter
    rw [nthId, SessionId.mk.injEq, Lobby.drawId, UInt32.ofNat_add, hcounter]
    rfl
  drawn id hid := by
    obtain ⟨k, hk, rfl⟩ := h.drawn id hid
    exact ⟨k, Nat.lt_succ_of_lt hk, rfl⟩

/-- A move draws its ids in turn. -/
theorem move {c : Change} (h : Numbered n l) (move : Move l c l') : Numbered (n + c.draws) l' := by
  cases move with
  | admitted held joins => exact h.of_map_id (map_id_store _ _) (nextId_store _ _)
  | dismissed held leaves => exact h.of_map_id (map_id_store _ _) (nextId_store _ _)
  | reformed held options => exact h.of_map_id (map_id_store _ _) (nextId_store _ _)
  | advanced held elapsed => exact h.of_map_id (map_id_store _ _) (nextId_store _ _)
  | touched same => exact h.of_map_id rfl rfl
  | released names gone => exact h.of_map_id rfl rfl
  | drawn room => exact h.drawId
  | opened room options =>
    have hdrawn := h.drawId
    refine ⟨hdrawn.counter, fun id hid => ?_⟩
    rw [insert, List.map_append, List.map_singleton] at hid
    rcases List.mem_append.mp hid with hold | hnew
    · exact hdrawn.drawn id ((List.filter_sublist.map _).subset hold)
    · obtain rfl := List.mem_singleton.mp hnew
      exact ⟨n, Nat.lt_succ_self n, h.counter⟩
  | reclaimed =>
    exact ⟨h.counter, fun id hid => h.drawn id ((List.filter_sublist.map _).subset hid)⟩
  | reordered order =>
    exact ⟨h.counter, fun id hid => h.drawn id ((order.map _).mem_iff.mp hid)⟩
  | reorderedMembers held order => exact h.of_map_id (map_id_store _ _) (nextId_store _ _)

/-- Moves draw their ids in turn. -/
theorem moves {who : Handle → Prop} {m : Nat} (h : Numbered n l) (moves : Moves who l m l') :
    Numbered (n + m) l' := by
  induction moves with
  | refl => exact h
  | tail _ last _ ih =>
    rw [← Nat.add_assoc]
    exact ih.move last

/-- A run draws its ids in turn. -/
theorem run (h : Numbered n l) (hk : l.KeysDistinct) (ops : List Operation) :
    Numbered (n + l.idsDrawn ops) (l.run ops) :=
  h.moves (moves_run hk ops)

/-- The ids that a run draws. -/
theorem drawnIn_eq (h : Numbered n l) (hk : l.KeysDistinct) (ops : List Operation) :
    l.drawnIn ops = (List.range (l.idsDrawn ops)).map fun k => nthId (n + k) := by
  induction ops generalizing l n with
  | nil => rfl
  | cons op rest ih =>
    have hfirst : (l.drawnBy? op).toList =
        (List.range (l.idsDrawnBy op)).map fun k => nthId (n + k) := by
      unfold drawnBy? idsDrawnBy
      split
      · rfl
      · exact congrArg ([·]) h.counter
    have hmoves := moves_idsDrawnBy hk op
    rw [drawnIn, ih (h.moves hmoves) (hk.moves hmoves), hfirst, idsDrawn, List.range_add,
      List.map_append, List.map_map]
    simp only [Nat.add_assoc, Function.comp_def]

/-- No session has the id that is drawn next, before the numbering begins again. -/
theorem session?_of_drawnBy? (h : Numbered n l) {op : Operation} {id : SessionId}
    (few : n < 2 ^ 32) (drawn : l.drawnBy? op = some id) : l.session? id = none := by
  unfold drawnBy? at drawn
  split at drawn
  · cases drawn
  obtain rfl := Option.some.inj drawn
  rw [← Option.not_isSome_iff_eq_none, session?_isSome_iff]
  intro hid
  obtain ⟨k, hk, he⟩ := h.drawn _ hid
  have hsame := nthId_inj few (by omega) (h.counter.symm.trans he)
  omega

end Numbered

/-- A new lobby has drawn no ids. -/
theorem numbered_new (maxPlayers maxSessions : Nat) (cs : Connections) :
    Numbered 0 (new maxPlayers maxSessions cs) :=
  ⟨rfl, fun _ hid => absurd hid List.not_mem_nil⟩

/-- A run of a new lobby draws the first ids there are. -/
theorem drawnIn_new (maxPlayers maxSessions : Nat) (cs : Connections) (ops : List Operation) :
    (new maxPlayers maxSessions cs).drawnIn ops =
      (List.range ((new maxPlayers maxSessions cs).idsDrawn ops)).map nthId := by
  simpa only [Nat.zero_add] using
    (numbered_new maxPlayers maxSessions cs).drawnIn_eq (keysDistinct_new _ _ _) ops

/-- Ids drawn in turn differ as long as there are no more than 2³² of them. -/
theorem nodup_nthIds {n : Nat} : ((List.range n).map nthId).Nodup ↔ n ≤ 2 ^ 32 := by
  constructor
  · intro hnodup
    by_contra hmany
    have hlast : 2 ^ 32 ∈ List.range n := List.mem_range.mpr (by omega)
    have hfirst : 0 ∈ List.range n := List.mem_range.mpr (by omega)
    have hsame : nthId (2 ^ 32) = nthId 0 := nthId_eq_iff.mpr rfl
    have hequal := List.inj_on_of_nodup_map hnodup hlast hfirst hsame
    omega
  · intro few
    apply List.nodup_range.map_on
    intro k hk k' hk'
    rw [List.mem_range] at hk hk'
    exact nthId_inj (by omega) (by omega)

/-- The id 0 is the last of the first 2³² to be drawn. -/
theorem zero_mem_nthIds {n : Nat} : ⟨0⟩ ∈ (List.range n).map nthId ↔ 2 ^ 32 ≤ n := by
  constructor
  · intro hzero
    obtain ⟨k, hk, he⟩ := List.mem_map.mp hzero
    rw [nthId_eq_zero_iff] at he
    rw [List.mem_range] at hk
    omega
  · intro many
    exact List.mem_map.mpr ⟨2 ^ 32 - 1, List.mem_range.mpr (by omega), rfl⟩

/-- The ids drawn by a run are those drawn by its parts. -/
theorem idsDrawn_append (l : Lobby) (earlier later : List Operation) :
    l.idsDrawn (earlier ++ later) = l.idsDrawn earlier + (l.run earlier).idsDrawn later := by
  induction earlier generalizing l with
  | nil => exact (Nat.zero_add _).symm
  | cons op rest ih =>
    rw [List.cons_append, idsDrawn, idsDrawn, ih, Nat.add_assoc]
    rfl

/-- An operation that draws an id draws one. -/
theorem idsDrawnBy_of_drawnBy? {l : Lobby} {op : Operation} {id : SessionId}
    (drawn : l.drawnBy? op = some id) : l.idsDrawnBy op = 1 := by
  unfold drawnBy? at drawn
  unfold idsDrawnBy
  split at drawn
  · cases drawn
  · next hcounter => rw [if_neg hcounter]

/-- The ids that a run draws are drawn in turn. They are distinct exactly when there are no more
than 2³² of them, and 0 is none of them exactly when there are fewer; and in a run with no more than
2³² of them no id is drawn while a session has it, so that no session is replaced by a new one. -/
theorem ids_of_run (maxPlayers maxSessions : Nat) (cs : Connections) (ops : List Operation) :
    let l := new maxPlayers maxSessions cs
    l.drawnIn ops = (List.range (l.idsDrawn ops)).map nthId ∧
      ((l.drawnIn ops).Nodup ↔ l.idsDrawn ops ≤ 2 ^ 32) ∧
      (⟨0⟩ ∉ l.drawnIn ops ↔ l.idsDrawn ops < 2 ^ 32) ∧
      (l.idsDrawn ops ≤ 2 ^ 32 → ∀ earlier op later id, ops = earlier ++ op :: later →
        (l.run earlier).drawnBy? op = some id → (l.run earlier).session? id = none) := by
  intro l
  have hnew : Numbered 0 l := numbered_new maxPlayers maxSessions cs
  have hids : l.drawnIn ops = (List.range (l.idsDrawn ops)).map nthId :=
    drawnIn_new maxPlayers maxSessions cs ops
  refine ⟨hids, ?_, ?_, ?_⟩
  · rw [hids, nodup_nthIds]
  · rw [hids, zero_mem_nthIds, Nat.not_le]
  · rintro few earlier op later id rfl drawn
    have hone := idsDrawnBy_of_drawnBy? drawn
    rw [idsDrawn_append, idsDrawn, hone] at few
    exact (hnew.run (keysDistinct_new _ _ _) earlier).session?_of_drawnBy? (by omega) drawn

/-- Where there is room, a session is opened under the next id. -/
theorem perform_create {l : Lobby} (room : l.count < l.maxSessions) (options : SessionOptions) :
    l.perform (.create options) = l.drawId.insert (l.nextSession options) ∧
      l.drawnBy? (.create options) = some ⟨l.nextId⟩ := by
  have hdraw : l.draw options = .ok (l.nextSession options, l.drawId) :=
    draw_eq_ok_iff.mpr ⟨room, rfl, rfl⟩
  have hopened : l.perform (.create options) = l.drawId.insert (l.nextSession options) := by
    rw [perform, create, hdraw]
  have hcounter : (l.perform (.create options)).nextId ≠ l.nextId := by
    simp [hopened, insert, drawId]
  exact ⟨hopened, by rw [drawnBy?, if_neg hcounter]⟩

/-- Sessions that are opened and reclaimed at once, so many times. -/
def rounds : Nat → List Operation
  | 0 => []
  | n + 1 => .create {} :: .sweepEmpty :: rounds n

/-- A round leaves an occupied session alone and draws an id, unless it is that of this session. -/
theorem run_round {l : Lobby} {s : Session} (alone : l.sessions = [s])
    (occupied : s.isEmpty = false) (room : 1 < l.maxSessions) (apart : s.id ≠ ⟨l.nextId⟩) :
    l.run [.create {}, .sweepEmpty] =
      { l.drawId with retired := l.retired ++ [{ l.nextSession {} with isClosed := true }] } ∧
      l.idsDrawn [.create {}, .sweepEmpty] = 1 := by
  have hcount : l.count < l.maxSessions := by simpa [count, alone] using room
  obtain ⟨hopened, hdraws⟩ := perform_create hcount {}
  have hempty : (l.nextSession {}).isEmpty = true := rfl
  have hother : s.id ≠ (l.nextSession {}).id := apart
  constructor
  · change (l.perform (.create {})).sweepEmpty.2 = _
    rw [hopened]
    simp [insert, sweepEmpty, drawId, alone, hother, occupied, hempty]
  · have hquiet : (l.perform (.create {})).idsDrawnBy .sweepEmpty = 0 := if_pos rfl
    rw [idsDrawn, idsDrawn, idsDrawn, hquiet, idsDrawnBy_of_drawnBy? hdraws]

/-- Rounds leave an occupied session alone and draw an id each, unless one is that of this session. -/
theorem run_rounds {l : Lobby} {s : Session} (alone : l.sessions = [s])
    (occupied : s.isEmpty = false) (room : 1 < l.maxSessions) (n : Nat)
    (apart : ∀ k < n, s.id ≠ ⟨l.nextId + UInt32.ofNat k⟩) :
    (l.run (rounds n)).sessions = [s] ∧ 1 < (l.run (rounds n)).maxSessions ∧
      l.idsDrawn (rounds n) = n := by
  induction n generalizing l with
  | zero => exact ⟨alone, room, rfl⟩
  | succ n ih =>
    obtain ⟨hround, hone⟩ := run_round alone occupied room (by simpa using apart 0 (by omega))
    have hlater := ih (l := l.run [.create {}, .sweepEmpty]) (by rw [hround]; exact alone)
      (by rw [hround]; exact room) fun k hk => by
        rw [hround, drawId, UInt32.add_assoc, UInt32.add_comm 1, ← UInt32.ofNat_one,
          ← UInt32.ofNat_add]
        exact apart (k + 1) (by omega)
    refine ⟨hlater.1, hlater.2.1, ?_⟩
    change l.idsDrawn ([.create {}, .sweepEmpty] ++ rounds n) = n + 1
    rw [idsDrawn_append, hone, hlater.2.2, Nat.add_comm]

/-- A player opens the first session and stays; then come so many rounds. -/
def openThenRounds (n : Nat) : List Operation := .createAndJoin 0 {} :: rounds n

/-- Before the first id is drawn again, the player still is in the first session, which is alone. -/
theorem run_openThenRounds {n : Nat} (few : n < 2 ^ 32) :
    let l := new 4 16 twoConnections
    l.idsDrawn (openThenRounds n) = n + 1 ∧ 1 < (l.run (openThenRounds n)).maxSessions ∧
      ∃ s, (l.run (openThenRounds n)).sessions = [s] ∧ s.isEmpty = false ∧ s.id = ⟨1⟩ := by
  intro l
  obtain ⟨s, halone, hoccupied, hid⟩ : ∃ s, (l.perform (.createAndJoin 0 {})).sessions = [s] ∧
      s.isEmpty = false ∧ s.id = ⟨1⟩ := ⟨_, rfl, rfl, rfl⟩
  have hcounter : (l.perform (.createAndJoin 0 {})).nextId = 2 := rfl
  have hone : l.idsDrawnBy (.createAndJoin 0 {}) = 1 := rfl
  have hroom : 1 < (l.perform (.createAndJoin 0 {})).maxSessions := by decide
  have hapart : ∀ k < n,
      s.id ≠ ⟨(l.perform (.createAndJoin 0 {})).nextId + UInt32.ofNat k⟩ := by
    intro k hk he
    rw [hid, hcounter, SessionId.mk.injEq, ← UInt32.toNat_inj, UInt32.toNat_add,
      UInt32.toNat_ofNat'] at he
    change 1 = (2 + k % 2 ^ 32) % 2 ^ 32 at he
    omega
  obtain ⟨hsessions, hroom', hrounds⟩ := run_rounds halone hoccupied hroom n hapart
  refine ⟨?_, hroom', s, hsessions, hoccupied, hid⟩
  rw [openThenRounds, idsDrawn, hone, hrounds, Nat.add_comm]

/-- Once all ids have been drawn, 0 among them, the next session has the first id again, and takes
the place of the session whose player is still there. -/
theorem ids_of_run_beginAgain :
    let l := new 4 16 twoConnections
    let ops := openThenRounds (2 ^ 32 - 1)
    ¬ (l.drawnIn (ops ++ [.create {}])).Nodup ∧
      ⟨0⟩ ∈ l.drawnIn (ops ++ [.create {}]) ∧
      (∃ s, (l.run ops).session? ⟨1⟩ = some s ∧ s.isEmpty = false) ∧
      (l.run ops).drawnBy? (.create {}) = some ⟨1⟩ ∧
      ∃ s, ((l.run ops).perform (.create {})).session? ⟨1⟩ = some s ∧ s.isEmpty = true := by
  -- The number of rounds is generalised, lest they be written out.
  generalize hn : 2 ^ 32 - 1 = n
  intro l ops
  obtain ⟨hdrawn, hroom, s, hsessions, hoccupied, hid⟩ := run_openThenRounds (n := n) (by omega)
  have hcount : (l.run ops).count < (l.run ops).maxSessions := by
    rwa [count, hsessions, List.length_singleton]
  obtain ⟨hcreated, hdraws⟩ := perform_create hcount {}
  have hall : l.idsDrawn (ops ++ [.create {}]) = n + 2 := by
    rw [idsDrawn_append, hdrawn, idsDrawn, idsDrawnBy_of_drawnBy? hdraws, idsDrawn]
  have hfirst : (⟨(l.run ops).nextId⟩ : SessionId) = nthId 0 := by
    rw [((numbered_new 4 16 twoConnections).run (keysDistinct_new _ _ _) ops).counter,
      nthId_eq_iff, hdrawn]
    omega
  have hids := drawnIn_new 4 16 twoConnections (ops ++ [.create {}])
  rw [hall] at hids
  refine ⟨?_, ?_, ⟨s, ?_, hoccupied⟩, hdraws.trans (congrArg some hfirst),
    (l.run ops).nextSession {}, ?_, rfl⟩
  · rw [hids, nodup_nthIds]
    omega
  · rw [hids, zero_mem_nthIds]
    omega
  · rw [← hid]
    have hs : s ∈ (l.run ops).sessions := hsessions ▸ List.mem_singleton_self s
    have hkeys : l.KeysDistinct := keysDistinct_new _ _ _
    exact session?_eq_some (hkeys.moves (moves_run hkeys ops)) hs
  · have hid : ((l.run ops).nextSession {}).id = ⟨1⟩ := hfirst
    rw [hcreated, ← hid, session?_insert_self]

end PlayServer.Lobby
