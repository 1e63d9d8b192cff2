import PlayServer.Proofs.Lobby.Host
import PlayServer.Proofs.Lobby.Roster
import Mathlib.Data.List.Forall2

/-!
# A pass of the scheduler

A pass goes through the sessions one by one, and takes the members whose connections are closed out
of each of them one by one; whenever the host is among them, the session may be led for a moment by
somebody who is about to be taken out as well. What comes of the whole pass is said here in one
step: `Session.passed` is what a session becomes, `Session.departures` tells who has left it, and in
`Connections.parted` no closed connection belongs to a session.

None of these depends on the order in which the sessions and their members are enumerated.
-/

namespace PlayServer

namespace Connections

/-- The connections once no closed one belongs to a session. -/
def parted (cs : Connections) : Connections where
  opened := cs.opened.map fun c => if c.isOpen then c else { c with session := none }
  started := cs.started

/-- An open connection stays what it is, and a closed one names no session. -/
theorem get_parted (cs : Connections) (h : Handle) :
    cs.parted.get h = if (cs.get h).isOpen then cs.get h else { cs.get h with session := none } := by
  simp only [parted, get, List.getD_eq_getElem?_getD, List.getElem?_map]
  cases cs.opened[h]? with
  | none => rfl
  | some c => rfl

/-- Tables with the same connections under all handles are the same. -/
theorem ext_get {cs ds : Connections} (size : ds.size = cs.size) (started : ds.started = cs.started)
    (same : ∀ h, ds.get h = cs.get h) : ds = cs := by
  have hopened : ds.opened = cs.opened := by
    apply List.ext_getElem size
    intro h hd hc
    have hsame := same h
    simpa [get, List.getD_eq_getElem?_getD, List.getElem?_eq_getElem hd,
      List.getElem?_eq_getElem hc] using hsame
  obtain ⟨opened, started'⟩ := ds
  obtain rfl : opened = cs.opened := hopened
  obtain rfl : started' = cs.started := started
  rfl

/-- Some connections have left their sessions, and nothing else has changed. -/
structure Released (cs cs' : Connections) : Prop where
  places : cs.Reseated cs'
  size : cs'.size = cs.size
  started : cs'.started = cs.started

/-- No connection has left its session. -/
theorem Released.refl (cs : Connections) : cs.Released cs := ⟨.refl cs, rfl, rfl⟩

/-- Connections that have left one after the other have left. -/
theorem Released.trans {a b c : Connections} (h : a.Released b) (h' : b.Released c) :
    a.Released c :=
  ⟨h.places.trans h'.places, h'.size.trans h.size, h'.started.trans h.started⟩

/-- One connection leaves its session. -/
theorem released_update {cs : Connections} {h : Handle} (opened : h < cs.size) (id : SessionId) :
    cs.Released (cs.update h (·.releaseSession id)) := by
  have hplace := (cs.get h).reseated_releaseSession id
  refine ⟨reseated_set hplace, ?_, ?_⟩
  · rw [update, size_set]
    exact Nat.max_eq_left opened
  · rw [update, started_set, startedWith, hplace]
    simp

end Connections

namespace Session

/-- The members whose connections are open. -/
def present (s : Session) (cs : Connections) : List Member :=
  s.members.filter fun m => (cs.get m.handle).isOpen

/-- The members whose connections are closed. -/
def absent (s : Session) (cs : Connections) : List Member :=
  s.members.filter fun m => !(cs.get m.handle).isOpen

/-- A session after a pass. One without members is passed over; any other one keeps the members that
are present, led by the first of them. -/
def passed (s : Session) (cs : Connections) (delta : Duration) : Session :=
  if s.isEmpty then s
  else { s with
    elapsed := ⟨s.elapsed.nanos + delta.nanos⟩
    tickCount := s.tickCount + 1
    members := s.present cs
    host := (earliest? (s.present cs)).map (·.id) }

/-- Who leaves a session in a pass. -/
def departures (s : Session) (cs : Connections) : List Departure :=
  (s.absent cs).map fun m => ⟨s.id, m.login, (s.present cs).length⟩

/-- A session is fit for a pass: its members have ids and instants of their own, the first of them
is the host, and its time does not overflow. -/
structure Fit (s : Session) (cs : Connections) (delta : Duration) (now : Nat) : Prop where
  keys : (s.members.map (·.id)).Nodup
  led : s.Led now
  opened : ∀ m ∈ s.members, m.handle < cs.size
  inTime : s.elapsed.nanos + delta.nanos < Duration.bound

variable {s : Session} {cs cs' : Connections} {delta : Duration} {now : Nat}

/-- A pass does not change the id of a session. -/
theorem id_passed (s : Session) (cs : Connections) (delta : Duration) :
    (s.passed cs delta).id = s.id := by
  unfold passed
  split <;> rfl

/-- Who is present does not depend on who has left a session before. -/
theorem present_congr (h : cs.Released cs') (s : Session) : s.present cs' = s.present cs := by
  simp only [present, (h.places _).isOpen]

/-- Who is absent does not depend on who has left a session before. -/
theorem absent_congr (h : cs.Released cs') (s : Session) : s.absent cs' = s.absent cs := by
  simp only [absent, (h.places _).isOpen]

/-- What a session becomes does not depend on who has left another one before. -/
theorem passed_congr (h : cs.Released cs') (s : Session) (delta : Duration) :
    s.passed cs' delta = s.passed cs delta := by
  rw [passed, present_congr h, passed]

/-- Who leaves a session does not depend on who has left another one before. -/
theorem departures_congr (h : cs.Released cs') (s : Session) :
    s.departures cs' = s.departures cs := by
  rw [departures, present_congr h, absent_congr h, departures]

/-- A session stays fit for a pass when connections leave others. -/
theorem Fit.of_released (hs : s.Fit cs delta now) (h : cs.Released cs') : s.Fit cs' delta now where
  keys := hs.keys
  led := hs.led
  opened m hm := h.size ▸ hs.opened m hm
  inTime := hs.inTime

/-- Members that are taken out leave the session, and nothing else changes about connections. -/
theorem released_leaveEach (opened : ∀ m ∈ s.members, m.handle < cs.size)
    (ids : List ConnectionId) : cs.Released (s.leaveEach cs ids).2.2 := by
  induction ids generalizing s cs with
  | nil => exact .refl cs
  | cons id rest ih =>
    unfold leaveEach
    split
    · exact ih opened
    · next login s₁ cs₁ hl =>
      obtain ⟨m, hm, -, rfl, rfl⟩ := leave_eq_some_iff.mp hl
      have hfirst := Connections.released_update (opened m (mem_of_member? hm).1) s.id
      exact hfirst.trans (ih fun m' hm' => hfirst.size ▸ opened m' (List.mem_of_mem_filter hm'))

/-- When time passes in a session with members it becomes what a pass makes of it. -/
theorem tick_eq (hs : s.Fit cs delta now) (occupied : s.isEmpty = false) :
    ∃ cs', s.tick cs delta = .ok ((s.absent cs).map (·.login), s.passed cs delta, cs') ∧
      cs.Released cs' := by
  obtain ⟨advanced, hadvanced⟩ : ∃ t : Session, t = { s with
      elapsed := ⟨s.elapsed.nanos + delta.nanos⟩, tickCount := s.tickCount + 1 } := ⟨_, rfl⟩
  have hled : advanced.Led now := hadvanced ▸ hs.led.of_perm rfl (.refl _)
  have hticked : s.tick cs delta = .ok (advanced.leaveEach cs ((s.absent cs).map (·.id))) := by
    rw [tick, Duration.add?, if_pos hs.inTime, hadvanced]
    rfl
  obtain ⟨hid, hmembers, hlogins⟩ := tick_spec hs.keys hticked
  have hleft := (hled.leaveEach cs ((s.absent cs).map (·.id))).host
  have hkept := leaveEach_eq advanced cs ((s.absent cs).map (·.id))
  have hpassed : (advanced.leaveEach cs ((s.absent cs).map (·.id))).2.1 = s.passed cs delta := by
    rw [← members_leaveEach, hleft, hmembers] at hkept
    rw [hkept, passed, occupied, hadvanced]
    rfl
  refine ⟨(advanced.leaveEach cs ((s.absent cs).map (·.id))).2.2, ?_, ?_⟩
  · rw [hticked, ← hpassed]
    exact congrArg (fun logins => Except.ok (logins, _, _)) hlogins
  · exact released_leaveEach (by rw [hadvanced]; exact hs.opened) _

/-- A session without members is passed over. -/
theorem passed_of_empty (nobody : s.members = []) : s.passed cs delta = s := by
  have hempty : s.isEmpty = true := by rw [isEmpty, nobody, List.isEmpty_nil]
  rw [passed, if_pos hempty]

/-- Any other session is led by the first, in the order of joining, of those who stay. -/
theorem passed_of_occupied (apart : Apart s.members) (occupied : s.members ≠ []) :
    s.passed cs delta = { s with
      elapsed := ⟨s.elapsed.nanos + delta.nanos⟩
      tickCount := s.tickCount + 1
      members := s.present cs
      host := (s.passed cs delta).inJoinOrder.head?.map (·.id) } ∧
    (s.passed cs delta).inJoinOrder = s.inJoinOrder.filter fun m => (cs.get m.handle).isOpen := by
  have hoccupied : ¬ s.isEmpty = true := by rwa [isEmpty, List.isEmpty_iff]
  have hmembers : (s.passed cs delta).members = s.present cs := by rw [passed, if_neg hoccupied]
  have hapart : Apart (s.passed cs delta).members :=
    hmembers ▸ apart.sublist List.filter_sublist
  constructor
  · rw [head?_inJoinOrder hapart, hmembers, passed, if_neg hoccupied]
  · refine (eq_inJoinOrder hapart ?_ ?_).symm
    · rw [hmembers]
      exact s.inJoinOrder_perm.filter _
    · exact s.inJoinOrder_ordered.filter _

/-- The same session, whose members are enumerated in another order. -/
def Reordered (s t : Session) : Prop := t = { s with members := t.members } ∧ t.members.Perm s.members

namespace Reordered

variable {t : Session}

/-- The members whose connections are open, in another order. -/
theorem present (h : s.Reordered t) (cs : Connections) : (t.present cs).Perm (s.present cs) :=
  h.2.filter _

/-- Another order of the members makes no difference to a pass but this order. -/
theorem passed (h : s.Reordered t) (apart : Apart s.members) (cs : Connections)
    (delta : Duration) : (s.passed cs delta).Reordered (t.passed cs delta) := by
  have hsame : t.isEmpty = s.isEmpty := by
    rw [isEmpty, isEmpty, Bool.eq_iff_iff, List.isEmpty_iff, List.isEmpty_iff]
    exact ⟨fun hnil => List.nil_perm.mp (hnil ▸ h.2), fun hnil => List.perm_nil.mp (hnil ▸ h.2)⟩
  have hfirst : earliest? (t.present cs) = earliest? (s.present cs) :=
    earliest?_perm (apart.sublist List.filter_sublist) (h.present cs)
  unfold Session.passed
  rw [hsame, hfirst]
  split
  · exact h
  · refine ⟨?_, h.present cs⟩
    rw [h.1]

/-- In another order of the members the same ones leave. -/
theorem departures (h : s.Reordered t) (cs : Connections) :
    (t.departures cs).Perm (s.departures cs) := by
  have hid : t.id = s.id := by rw [h.1]
  rw [Session.departures, Session.departures, hid, (h.present cs).length_eq]
  exact (h.2.filter _).map _

end Reordered

end Session

namespace Lobby

variable {l : Lobby} {delta : Duration}

/-- Time passes in one session that has members. -/
theorem tickReferred_eq (hk : l.KeysDistinct) {s : Session} {done rest : List Session}
    (hsplit : l.sessions = done ++ s :: rest) (fit : s.Fit l.connections delta l.clock)
    (occupied : s.isEmpty = false) :
    ∃ cs, l.tickReferred s.id delta = (.ok ((s.absent l.connections).map (·.login)), { l with
        connections := cs
        sessions := done ++ s.passed l.connections delta :: rest }) ∧
      l.connections.Released cs := by
  have hheld : l.session? s.id = some s := session?_eq_some hk (by simp [hsplit])
  have hid := s.id_passed l.connections delta
  have hknown : (l.session? (s.passed l.connections delta).id).isSome = true := by
    simp [hid, hheld]
  rw [KeysDistinct, hsplit] at hk
  obtain ⟨hbefore, hafter⟩ := ids_ne_of_nodup hk
  have hreplaced : replace (s.passed l.connections delta) l.sessions =
      done ++ s.passed l.connections delta :: rest := by
    rw [hsplit, replace_append_cons hid.symm (by rwa [hid]) (by rwa [hid])]
  obtain ⟨cs, hticked, hreleased⟩ := s.tick_eq fit occupied
  refine ⟨cs, ?_, hreleased⟩
  rw [tickReferred, referred?_of_session? hheld]
  dsimp only
  rw [hticked, ← hreplaced]
  exact congrArg (Prod.mk _) (store_eq_replace (l := { l with connections := cs }) hknown)

/-- Time passes in the sessions that are still to come, one after the other. Those without members
need not be fit for it. -/
theorem tickEach_eq (hk : l.KeysDistinct) {done todo : List Session}
    (hsplit : l.sessions = done ++ todo)
    (fit : ∀ s ∈ todo, s.isEmpty = false → s.Fit l.connections delta l.clock) :
    ∃ cs, l.tickEach delta (todo.map (·.id)) =
        (.ok (todo.flatMap (·.departures l.connections)), { l with
          connections := cs
          sessions := done ++ todo.map (·.passed l.connections delta) }) ∧
      l.connections.Released cs := by
  induction todo generalizing l done with
  | nil =>
    refine ⟨l.connections, ?_, .refl _⟩
    rw [List.append_nil] at hsplit
    simp [tickEach, ← hsplit]
  | cons s rest ih =>
    have hheld : l.session? s.id = some s := session?_eq_some hk (by simp [hsplit])
    have hrest : ∀ t ∈ rest, t.isEmpty = false → t.Fit l.connections delta l.clock :=
      fun t ht => fit t (List.mem_cons_of_mem _ ht)
    rw [List.map_cons, tickEach, referred?_of_session? hheld]
    dsimp only [Option.map_some, Option.getD_some]
    split
    · next hempty =>
      have hpassed : l.sessions = (done ++ [s]) ++ rest := by simp [hsplit]
      obtain ⟨cs, hlater, hreleased⟩ := ih hk hpassed hrest
      have hnobody : s.members = [] := by simpa [Session.isEmpty] using hempty
      refine ⟨cs, ?_, hreleased⟩
      rw [hlater]
      simp [Session.departures, Session.absent, Session.passed, hempty, hnobody]
    · next hoccupied =>
      have hmembers : s.isEmpty = false := by simpa using hoccupied
      obtain ⟨cs₁, hticked, hreleased₁⟩ :=
        tickReferred_eq hk hsplit (fit s List.mem_cons_self hmembers) hmembers
      obtain ⟨l₁, hl₁⟩ : ∃ l₁ : Lobby, l₁ = { l with
          connections := cs₁
          sessions := done ++ s.passed l.connections delta :: rest } := ⟨_, rfl⟩
      have hsessions : l₁.sessions = (done ++ [s.passed l.connections delta]) ++ rest := by
        simp [hl₁]
      have hreleased : l.connections.Released l₁.connections := hl₁ ▸ hreleased₁
      have hkeys : l₁.KeysDistinct := by
        rw [KeysDistinct, hsplit] at hk
        simpa [KeysDistinct, hl₁, Session.id_passed] using hk
      obtain ⟨cs, hlater, hreleased'⟩ := ih hkeys hsessions fun t ht occupied => by
        rw [hl₁]
        exact (hrest t ht occupied).of_released hreleased₁
      simp only [Session.passed_congr hreleased, Session.departures_congr hreleased] at hlater
      have hstill : l₁.session? s.id = some (s.passed l.connections delta) := by
        rw [← s.id_passed l.connections delta]
        exact session?_eq_some hkeys (by simp [hsessions])
      have hremaining : (s.passed l.connections delta).members = s.present l.connections := by
        rw [Session.passed, hmembers]
        rfl
      refine ⟨cs, ?_, hreleased.trans hreleased'⟩
      rw [hticked, ← hl₁]
      dsimp only
      rw [hlater, referred?_of_session? hstill]
      simp [hremaining, hl₁, Session.departures]

/-- Every session of a run is fit for a pass, if its time does not overflow. -/
theorem Consistent.fit {drawn : Nat} (hl : l.Consistent drawn) (hosted : l.Hosted)
    (inTime : ∀ s ∈ l.sessions, s.elapsed.nanos + delta.nanos < Duration.bound) :
    ∀ s ∈ l.sessions, s.Fit l.connections delta l.clock := by
  refine fun s hs => ⟨(hl.sound s hs).keys, hosted s hs, fun m hm => ?_, inTime s hs⟩
  have hnamed := ((hl.sound s hs).associated m.handle).mpr ⟨m, hm, rfl⟩
  by_contra hnever
  rw [Connections.get_eq_vacant (by simpa [Connections.handles] using hnever)] at hnamed
  cases hnamed

/-- What a pass of the scheduler comes to. -/
theorem tickAll_eq {drawn : Nat} (hl : l.Consistent drawn) (room : drawn < 2 ^ 32 - 1)
    (hosted : l.Hosted)
    (inTime : ∀ s ∈ l.sessions, s.elapsed.nanos + delta.nanos < Duration.bound) :
    l.tickAll delta = (.ok (l.sessions.flatMap (·.departures l.connections)), { l with
      connections := l.connections.parted
      sessions := l.sessions.map (·.passed l.connections delta) }) := by
  have hall : l.sessions = [] ++ l.sessions := rfl
  obtain ⟨cs, hticked, hreleased⟩ :=
    tickEach_eq hl.keys hall fun s hs _ => hl.fit hosted inTime s hs
  change l.tickAll delta = _ at hticked
  suffices hparted : cs = l.connections.parted by rw [hticked, hparted, List.nil_append]
  have hsize : l.connections.parted.size = l.connections.size := List.length_map _
  refine Connections.ext_get (hreleased.size.trans hsize.symm) hreleased.started fun h => ?_
  -- A connection names a session after the pass exactly when it named it before and is open.
  have hafter := hl.moves (quietMoves_tickAll l delta) room
  have hrosters := (tickAll_spec hl hticked).1
  have hnamed (id : SessionId) : (cs.get h).session = some id ↔
      (l.connection h).session = some id ∧ (l.connection h).isOpen = true := by
    have hseated : h ∈ (l.tickAll delta).2.seated id ↔
        ((l.tickAll delta).2.connection h).session = some id := hafter.mem_seated_iff
    rw [hticked] at hseated
    refine hseated.symm.trans ?_
    rw [← hl.mem_seated_iff, seated, hrosters, seated, List.mem_map, List.mem_map]
    constructor
    · rintro ⟨m, hm, rfl⟩
      obtain ⟨hm, hopen⟩ := List.mem_filter.mp hm
      exact ⟨⟨m, hm, rfl⟩, hopen⟩
    · rintro ⟨⟨m, hm, rfl⟩, hopen⟩
      exact ⟨m, List.mem_filter.mpr ⟨hm, hopen⟩, rfl⟩
  have hplace : cs.get h = { l.connections.get h with session := (cs.get h).session } :=
    hreleased.places h
  rw [Connections.get_parted, hplace]
  split
  · next hopen =>
    have hsame : (cs.get h).session = (l.connections.get h).session := by
      apply Option.ext
      intro id
      rw [hnamed]
      exact and_iff_left hopen
    rw [hsame]
  · next hclosed =>
    have hnone : (cs.get h).session = none := by
      apply Option.eq_none_iff_forall_ne_some.mpr
      intro id hid
      exact hclosed ((hnamed id).mp hid).2
    rw [hnone]

/-- The same lobby, whose sessions, and their members, are enumerated in other orders. -/
def Reordered (l m : Lobby) : Prop :=
  ∃ order sessions, order.Perm l.sessions ∧ List.Forall₂ Session.Reordered order sessions ∧
    m = { l with sessions }

namespace Reordered

variable {m : Lobby}

/-- Every session was there in the other order. -/
theorem exists_session (h : l.Reordered m) {t : Session} (ht : t ∈ m.sessions) :
    ∃ s ∈ l.sessions, s.Reordered t := by
  obtain ⟨order, sessions, hperm, hall, rfl⟩ := h
  obtain ⟨s, hs, hst⟩ : ∃ s ∈ order, s.Reordered t := by
    clear hperm
    induction hall with
    | nil => cases ht
    | @cons s u order sessions hsu _ ih =>
      rcases List.mem_cons.mp ht with rfl | ht
      · exact ⟨s, List.mem_cons_self, hsu⟩
      · obtain ⟨s', hs', hst⟩ := ih ht
        exact ⟨s', List.mem_cons_of_mem _ hs', hst⟩
  exact ⟨s, hperm.mem_iff.mp hs, hst⟩

/-- The ids of the sessions in the other order. -/
theorem ids (h : l.Reordered m) : (m.sessions.map (·.id)).Perm (l.sessions.map (·.id)) := by
  obtain ⟨order, sessions, hperm, hall, rfl⟩ := h
  have hsame : sessions.map (·.id) = order.map (·.id) := by
    clear hperm
    induction hall with
    | nil => rfl
    | cons hst _ ih => rw [List.map_cons, List.map_cons, ih, hst.1]
  exact hsame ▸ hperm.map _

/-- A consistent lobby is consistent in any order. -/
theorem consistent {drawn : Nat} (h : l.Reordered m) (hl : l.Consistent drawn) :
    m.Consistent drawn := by
  have hids := h.ids
  have hkeys : m.KeysDistinct := hids.nodup_iff.mpr hl.keys
  have hcount : m.sessions.length = l.sessions.length := by simpa using hids.length_eq
  have hmember {t : Session} (ht : t ∈ m.sessions) := h.exists_session ht
  obtain ⟨order, sessions, -, -, rfl⟩ := h
  refine ⟨hkeys, Nat.le_trans (Nat.le_of_eq hcount) hl.count, hl.counter, fun t ht => ?_,
    fun t ht => ?_, fun k id hnamed => hids.mem_iff.mpr (hl.known k id hnamed)⟩
  · obtain ⟨s, hs, hst⟩ := hmember ht
    rw [hst.1]
    exact hl.fresh s hs
  · obtain ⟨s, hs, hst⟩ := hmember ht
    rw [hst.1]
    exact (hl.sound s hs).of_perm rfl rfl rfl hst.2

/-- The sessions are led by the same members in any order. -/
theorem hosted (h : l.Reordered m) (hl : l.Hosted) : m.Hosted := by
  intro t ht
  obtain ⟨s, hs, hst⟩ := h.exists_session ht
  have hled : t.Led l.clock := by
    rw [hst.1]
    exact (hl s hs).of_perm rfl hst.2
  obtain ⟨order, sessions, -, -, rfl⟩ := h
  exact hled

/-- In any order of the sessions and their members a pass of the scheduler comes to the same, in
another order. -/
theorem tickAll {drawn : Nat} (h : l.Reordered m) (hl : l.Consistent drawn)
    (room : drawn < 2 ^ 32 - 1) (hosted : l.Hosted)
    (inTime : ∀ s ∈ l.sessions, s.elapsed.nanos + delta.nanos < Duration.bound) :
    ∃ departures m', m.tickAll delta = (.ok departures, m') ∧
      departures.Perm (l.sessions.flatMap (·.departures l.connections)) ∧
      Reordered { l with
        connections := l.connections.parted
        sessions := l.sessions.map (·.passed l.connections delta) } m' := by
  have hinTime : ∀ t ∈ m.sessions, t.elapsed.nanos + delta.nanos < Duration.bound := by
    intro t ht
    obtain ⟨s, hs, hst⟩ := h.exists_session ht
    rw [hst.1]
    exact inTime s hs
  have hticked := tickAll_eq (h.consistent hl) room (h.hosted hosted) hinTime
  clear hinTime
  refine ⟨_, _, hticked, ?_⟩
  obtain ⟨order, sessions, hperm, hall, rfl⟩ := h
  have hdepartures : (sessions.flatMap (·.departures l.connections)).Perm
      (order.flatMap (·.departures l.connections)) := by
    clear hperm hticked
    induction hall with
    | nil => exact .refl _
    | cons hst _ ih =>
      rw [List.flatMap_cons, List.flatMap_cons]
      exact (hst.departures l.connections).append ih
  refine ⟨hdepartures.trans (hperm.flatMap_right _),
    order.map (·.passed l.connections delta), sessions.map (·.passed l.connections delta),
    hperm.map _, ?_, rfl⟩
  have hled : ∀ s ∈ order, s.Led l.clock := fun s hs => hosted s (hperm.mem_iff.mp hs)
  clear hperm hticked hdepartures
  induction hall with
  | nil => exact .nil
  | cons hst _ ih =>
    obtain ⟨hfirst, hrest⟩ := List.forall_mem_cons.mp hled
    exact .cons (hst.passed hfirst.apart l.connections delta) (ih hrest)

end Reordered

/-- What a pass of the scheduler does in every state of a run, in whatever order sessions and
members are enumerated. A session without members stays as it is. Any other one has ticked once more
and is older by the time that has passed; it keeps the members whose connections are open, in their
order of joining, and the first of them is its host. Exactly the closed connections name no session
any more, and the members that they stood for are given once each, with the session, the login and
the number of those that stay. In another order the pass ends in the same state, with the same
departures, up to the order. -/
theorem pass_of_run (maxPlayers maxSessions : Nat) (cs : Connections)
    (free : ∀ c ∈ cs.opened, c.session = none) (ops : List Operation)
    (drawn : (new maxPlayers maxSessions cs).idsDrawn ops < 2 ^ 32 - 1) (delta : Duration)
    (inTime : ∀ s ∈ ((new maxPlayers maxSessions cs).run ops).sessions,
      s.elapsed.nanos + delta.nanos < Duration.bound) :
    let l := (new maxPlayers maxSessions cs).run ops
    let stays := fun m : Member => (l.connection m.handle).isOpen
    ∃ departures l', l.tickAll delta = (.ok departures, l') ∧
      (∀ s ∈ l.sessions, ∃ s', l'.session? s.id = some s' ∧ (s.members = [] → s' = s) ∧
        (s.members ≠ [] →
          s' = { s with
            elapsed := ⟨s.elapsed.nanos + delta.nanos⟩
            tickCount := s.tickCount + 1
            members := s.members.filter stays
            host := s'.inJoinOrder.head?.map (·.id) } ∧
          s'.inJoinOrder = s.inJoinOrder.filter stays)) ∧
      l'.sessions.map (·.id) = l.sessions.map (·.id) ∧
      (∀ h, l'.connection h = if (l.connection h).isOpen then l.connection h
        else { l.connection h with session := none }) ∧
      departures = l.sessions.flatMap (fun s => (s.members.filter (! stays ·)).map fun m =>
        ⟨s.id, m.login, (s.members.filter stays).length⟩) ∧
      l' = { l with sessions := l'.sessions, connections := l'.connections } ∧
      ∀ m, l.Reordered m → ∃ departures' m', m.tickAll delta = (.ok departures', m') ∧
        departures'.Perm departures ∧ l'.Reordered m' := by
  intro l stays
  obtain ⟨hl, -, -⟩ := (consistent_new maxPlayers maxSessions free).run ops (by omega)
  have hosted : l.Hosted := hosted_run maxPlayers maxSessions cs ops
  have hticked := tickAll_eq hl (by omega) hosted inTime
  have hids : (l.sessions.map (·.passed l.connections delta)).map (·.id) =
      l.sessions.map (·.id) := by
    simp [Session.id_passed, Function.comp_def]
  refine ⟨_, _, hticked, fun s hs => ?_, hids, l.connections.get_parted, rfl, rfl,
    fun m hm => hm.tickAll hl (by omega) hosted inTime⟩
  · have hkeys : KeysDistinct { l with
        connections := l.connections.parted
        sessions := l.sessions.map (·.passed l.connections delta) } := by
      rw [KeysDistinct, hids]
      exact hl.keys
    refine ⟨s.passed l.connections delta, ?_, Session.passed_of_empty,
      Session.passed_of_occupied (hosted s hs).apart⟩
    rw [← s.id_passed l.connections delta]
    exact session?_eq_some hkeys (List.mem_map_of_mem hs)

/-- One player opens a session, another joins it, and the connection of the first one closes. -/
def hostVanishes : List Operation := [.createAndJoin 0 {}, .join ⟨1⟩ 1, .close 0]

/-- The next pass tells that the host has left and one member stays. The closed connection names no
session any more, and the other one still does. -/
theorem pass_of_run_hostVanishes :
    (∀ c ∈ twoConnections.opened, c.session = none) ∧
      (new 4 16 twoConnections).idsDrawn hostVanishes < 2 ^ 32 - 1 ∧
      (∀ s ∈ ((new 4 16 twoConnections).run hostVanishes).sessions,
        s.elapsed.nanos + Duration.zero.nanos < Duration.bound) ∧
      ∃ l', ((new 4 16 twoConnections).run hostVanishes).tickAll .zero =
          (.ok [⟨⟨1⟩, "conn-1", 1⟩], l') ∧
        (l'.connection 0).session = none ∧ (l'.connection 1).session = some ⟨1⟩ := by
  have hfree : ∀ c ∈ twoConnections.opened, c.session = none := by decide
  have hdrawn : (new 4 16 twoConnections).idsDrawn hostVanishes < 2 ^ 32 - 1 := by decide
  have hinTime : ∀ s ∈ ((new 4 16 twoConnections).run hostVanishes).sessions,
      s.elapsed.nanos + Duration.zero.nanos < Duration.bound := by decide
  obtain ⟨departures, l', hticked, -, -, hconnections, hdepartures, -, -⟩ :=
    pass_of_run 4 16 twoConnections hfree hostVanishes hdrawn .zero hinTime
  have htold : departures = [⟨⟨1⟩, "conn-1", 1⟩] := hdepartures.trans (by decide)
  refine ⟨hfree, hdrawn, hinTime, l', htold ▸ hticked, ?_, ?_⟩
  · rw [hconnections]
    rfl
  · rw [hconnections]
    rfl

end Lobby

end PlayServer
