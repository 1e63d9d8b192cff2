import PlayServer.Proofs.Lobby.Pass
import PlayServer.Proofs.Server.Announcement
import PlayServer.Proofs.Server.Orderly
import Mathlib.Data.List.Perm.Subperm

/-!
# What is reclaimed, and what the gauges show

A sweep takes away the sessions without members and nothing else. After a pass of the scheduler
these are the sessions that nobody with an open connection is left in, so that a pass and a sweep
together leave the sessions in use, with those who use them, and the gauges count both:
`reclamation_of_run`. This holds however many session ids have been drawn.
-/

namespace PlayServer

namespace Lobby

variable {l : Lobby} {delta : Duration}

/-- A sweep leaves the ids of the sessions distinct. -/
theorem keysDistinct_sweepEmpty (hk : l.KeysDistinct) : l.sweepEmpty.2.KeysDistinct :=
  hk.move .reclaimed

/-- After a sweep the same sessions are found, but for those without members. -/
theorem session?_sweepEmpty (hk : l.KeysDistinct) (id : SessionId) :
    l.sweepEmpty.2.session? id = (l.session? id).filter fun s => !s.isEmpty := by
  cases hs : l.session? id with
  | none =>
    rw [session?, List.find?_eq_none] at hs
    exact List.find?_eq_none.mpr fun t ht => hs t (List.mem_of_mem_filter ht)
  | some s =>
    obtain ⟨hmem, rfl⟩ := mem_of_session? hs
    cases hempty : s.isEmpty with
    | false =>
      rw [Option.filter_some, hempty]
      exact session?_eq_some (keysDistinct_sweepEmpty hk)
        (List.mem_filter.mpr ⟨hmem, by rw [hempty]; rfl⟩)
    | true =>
      rw [Option.filter_some, hempty]
      refine List.find?_eq_none.mpr fun t ht he => ?_
      obtain ⟨ht, hoccupied⟩ := List.mem_filter.mp ht
      have hsame := List.inj_on_of_nodup_map hk ht hmem (by simpa using he)
      rw [hsame, hempty] at hoccupied
      cases hoccupied

/-- A second sweep finds nothing to take away. -/
theorem sweepEmpty_sweepEmpty (l : Lobby) : l.sweepEmpty.2.sweepEmpty = ([], l.sweepEmpty.2) := by
  have hnone : (l.sessions.filter (! ·.isEmpty)).filter (·.isEmpty) = [] := by
    rw [List.filter_eq_nil_iff]
    intro s hs
    simpa using (List.mem_filter.mp hs).2
  have hall : (l.sessions.filter (! ·.isEmpty)).filter (! ·.isEmpty) =
      l.sessions.filter (! ·.isEmpty) := by
    simp [List.filter_filter]
  simp only [sweepEmpty, hnone, hall, List.map_nil, List.append_nil]

/-- Every session with members is fit for a pass, if its time does not overflow. -/
theorem Orderly.fit (hl : l.Orderly)
    (inTime : ∀ s ∈ l.sessions, s.members ≠ [] → s.elapsed.nanos + delta.nanos < Duration.bound) :
    ∀ s ∈ l.sessions, s.isEmpty = false → s.Fit l.connections delta l.clock := by
  intro s hs occupied
  have hmembers : s.members ≠ [] := by simpa [Session.isEmpty] using occupied
  exact ⟨(hl.occupied s hs).keys, hl.hosted s hs, fun m hm => (hl.occupied s hs).opened hm,
    inTime s hs hmembers⟩

/-- What a pass of the scheduler comes to, but for the connections. -/
theorem Orderly.tickAll_eq (hl : l.Orderly)
    (inTime : ∀ s ∈ l.sessions, s.members ≠ [] → s.elapsed.nanos + delta.nanos < Duration.bound) :
    ∃ cs, l.tickAll delta = (.ok (l.sessions.flatMap (·.departures l.connections)), { l with
      connections := cs
      sessions := l.sessions.map (·.passed l.connections delta) }) := by
  have hall : l.sessions = [] ++ l.sessions := rfl
  obtain ⟨cs, hticked, -⟩ := tickEach_eq hl.keys hall (hl.fit inTime)
  exact ⟨cs, hticked⟩

end Lobby

namespace Session

variable {s : Session} {cs : Connections}

/-- A session in use: the connection of one of its members is open. -/
def inUse (s : Session) (cs : Connections) : Bool := s.members.any fun m => (cs.get m.handle).isOpen

/-- After a pass exactly the sessions in use have members. -/
theorem isEmpty_passed (s : Session) (cs : Connections) (delta : Duration) :
    (s.passed cs delta).isEmpty = !s.inUse cs := by
  unfold passed
  split
  · next hempty =>
    have hnobody : s.members = [] := by simpa [isEmpty] using hempty
    rw [hempty, inUse, hnobody]
    rfl
  · change (s.present cs).isEmpty = _
    rw [present, inUse, Bool.eq_iff_iff, List.isEmpty_iff, List.filter_eq_nil_iff]
    simp

/-- A session in use after a pass. -/
theorem passed_of_inUse (used : s.inUse cs = true) (delta : Duration) :
    s.passed cs delta = { s with
      elapsed := ⟨s.elapsed.nanos + delta.nanos⟩
      tickCount := s.tickCount + 1
      members := s.present cs
      host := (earliest? (s.present cs)).map (·.id) } := by
  have hoccupied : ¬ s.isEmpty = true := by
    obtain ⟨m, hm, -⟩ := List.any_eq_true.mp used
    simpa [isEmpty] using List.ne_nil_of_mem hm
  rw [passed, if_neg hoccupied]

end Session

namespace Lobby

variable {l : Lobby}

/-- A pass and a sweep leave the sessions in use. -/
theorem sessions_swept_of_passed {sessions : List Session} {cs : Connections} {delta : Duration}
    (passed : l.sessions = sessions.map (·.passed cs delta)) :
    l.sweepEmpty.2.sessions = (sessions.filter (·.inUse cs)).map (·.passed cs delta) := by
  change l.sessions.filter (! ·.isEmpty) = _
  rw [passed, List.filter_map]
  refine congrArg _ (List.filter_congr fun s _ => ?_)
  simp [Session.isEmpty_passed]

/-- Different numbers below a bound are no more than that. -/
theorem length_le_of_nodup {ns : List Nat} {bound : Nat} (nodup : ns.Nodup)
    (below : ∀ n ∈ ns, n < bound) : ns.length ≤ bound := by
  have hsub : ns ⊆ List.range bound := fun n hn => List.mem_range.mpr (below n hn)
  have hle := (nodup.subperm hsub).length_le
  rwa [List.length_range] at hle

/-- There are no more sessions than ids. -/
theorem KeysDistinct.count_le (hk : l.KeysDistinct) : l.count ≤ 2 ^ 32 := by
  have hvalues : (l.sessions.map fun s => s.id.value.toNat).Nodup := by
    refine (List.Nodup.of_map _ hk).map_on fun s hs t ht he => ?_
    exact List.inj_on_of_nodup_map hk hs ht (congrArg SessionId.mk (UInt32.toNat_inj.mp he))
  have hle : (l.sessions.map fun s => s.id.value.toNat).length ≤ 2 ^ 32 := by
    refine length_le_of_nodup hvalues fun n hn => ?_
    obtain ⟨s, -, rfl⟩ := List.mem_map.mp hn
    exact s.id.value.toNat_lt
  rwa [List.length_map] at hle

/-- There are no more members than connections. -/
theorem Orderly.playerCount_le (hl : l.Orderly) : l.playerCount ≤ l.connections.size := by
  have hle : ((l.sessions.flatMap (·.members)).map (·.handle)).length ≤ l.connections.size := by
    refine length_le_of_nodup (nodup_handles hl.keys hl.occupied) fun h hh => ?_
    obtain ⟨m, hm, rfl⟩ := List.mem_map.mp hh
    obtain ⟨s, hs, hms⟩ := List.mem_flatMap.mp hm
    exact (hl.occupied s hs).opened hms
  rwa [List.length_map] at hle

end Lobby

namespace ServerState

variable {s : ServerState} {delta : Duration}

/-- Departures that are announced leave the sessions as they are. -/
theorem sessions_announceDepartures (s : ServerState) (departures : List Departure) :
    (departures.foldl announceDeparture s).lobby.sessions = s.lobby.sessions := by
  rw [(s.posts_announceDepartures departures).lobby]

/-- A pass of the scheduler does not fail if the time of no session overflows, and comes to what it
comes to for each session. -/
theorem tick_eq (hl : s.lobby.Orderly)
    (inTime : ∀ session ∈ s.lobby.sessions, session.members ≠ [] →
      session.elapsed.nanos + delta.nanos < Duration.bound) :
    (s.tick delta).1 = .ok () ∧ (s.tick delta).2.lobby.sessions =
      s.lobby.sessions.map (·.passed s.lobby.connections delta) := by
  obtain ⟨cs, hticked⟩ := hl.tickAll_eq inTime
  rw [tick, hticked]
  exact ⟨rfl, sessions_announceDepartures _ _⟩

/-- Writers that run leave the sessions as they are. -/
theorem sessions_run_settle {writes : List Event} (only : ∀ e ∈ writes, e = .settle)
    (s : ServerState) : (s.run writes).lobby.sessions = s.lobby.sessions := by
  induction writes generalizing s with
  | nil => rfl
  | cons e rest ih =>
    obtain ⟨rfl, hrest⟩ := List.forall_mem_cons.mp only
    refine (ih hrest s.settle).trans ?_
    rw [s.steady_settle.1.lobby]

/-- The gauges show how many sessions there are after a sweep, and how many members they have. -/
theorem gauges_sweep (hl : s.sweep.lobby.Orderly) :
    s.sweep.metrics.sessionsActive.toNat = s.sweep.lobby.sessions.length ∧
      s.sweep.metrics.sessionPlayers =
        UInt64.ofNat (s.sweep.lobby.sessions.map (·.members.length)).sum ∧
      (s.sweep.lobby.sessions.map (·.members.length)).sum ≤ s.sweep.lobby.connections.size := by
  have hcount : s.sweep.lobby.count ≤ 2 ^ 32 := hl.keys.count_le
  have htotal : s.sweep.lobby.playerCount =
      (s.sweep.lobby.sessions.map (·.members.length)).sum := List.length_flatMap
  refine ⟨?_, ?_, htotal ▸ hl.playerCount_le⟩
  · change (UInt64.ofNat s.sweep.lobby.count).toNat = s.sweep.lobby.count
    rw [UInt64.toNat_ofNat', Nat.mod_eq_of_lt (by omega)]
  · rw [← htotal]
    rfl

/-- What reclaiming comes to in every state of a run of any length, in whatever order the sessions
and their members are enumerated.

A sweep of a lobby takes away the sessions without members, gives their ids, each once, and changes
neither another session nor a connection; a second sweep takes away nothing.

On a server, a pass of the scheduler in which the time of no session overflows, and after it a
sweep, with any runs of the writers in between, leave exactly the sessions that somebody was in
whose connection was open, with exactly these members, led by the first of them to have joined; they
are one tick and the time that has passed older, and otherwise the same. If the writers have closed
no connection, the connections of all members are open still. The gauges show how many sessions
there are then, and how many members they have together. -/
theorem reclamation_of_run (maxPlayers maxSessions : Nat) (cs : Connections) :
    (∀ (ops : List Lobby.Operation) (l : Lobby),
      ((Lobby.new maxPlayers maxSessions cs).run ops).Reordered l →
      let swept := l.sweepEmpty.2
      (∀ s, s ∈ swept.sessions ↔ s ∈ l.sessions ∧ s.members ≠ []) ∧
      (∀ id, swept.session? id = (l.session? id).filter fun s => !s.members.isEmpty) ∧
      (∀ id, id ∈ l.sweepEmpty.1 ↔ ∃ s ∈ l.sessions, s.id = id ∧ s.members = []) ∧
      l.sweepEmpty.1.Nodup ∧
      swept = { l with sessions := swept.sessions, retired := swept.retired } ∧
      swept.sweepEmpty = ([], swept)) ∧
    ∀ s : ServerState, s.lobby = .new maxPlayers maxSessions cs →
      ∀ (events : List Event) (delta : Duration),
      let now := s.run events
      (∀ session ∈ now.lobby.sessions, session.members ≠ [] →
        session.elapsed.nanos + delta.nanos < Duration.bound) →
      ∀ writes : List Event, (∀ e ∈ writes, e = .settle) →
      let settled := now.run (.tick delta :: writes)
      let after := settled.sweep
      let stays := fun m : Member => (now.connection m.handle).isOpen
      let players := (after.lobby.sessions.map (·.members.length)).sum
      (now.tick delta).1 = .ok () ∧
      after.lobby.sessions = (now.lobby.sessions.filter (·.members.any stays)).map (fun session =>
        { session with
          elapsed := ⟨session.elapsed.nanos + delta.nanos⟩
          tickCount := session.tickCount + 1
          members := session.members.filter stays
          host := (Session.earliest? (session.members.filter stays)).map (·.id) }) ∧
      ((∀ k ∈ now.lobby.connections.handles,
          (settled.connection k).isOpen = (now.connection k).isOpen) →
        ∀ session ∈ after.lobby.sessions, ∀ m ∈ session.members,
          (after.connection m.handle).isOpen = true) ∧
      after.metrics.sessionsActive.toNat = after.lobby.sessions.length ∧
      after.metrics.sessionPlayers = UInt64.ofNat players ∧
      (after.lobby.connections.size < 2 ^ 64 → after.metrics.sessionPlayers.toNat = players) := by
  refine ⟨fun ops l order => ?_, fun s start events delta => ?_⟩
  · intro swept
    have hk : l.KeysDistinct :=
      order.ids.nodup_iff.mpr (Lobby.orderly_run maxPlayers maxSessions cs ops).keys
    refine ⟨fun s => ?_, l.session?_sweepEmpty hk, fun id => ?_,
      (List.filter_sublist.map _).nodup hk, rfl, l.sweepEmpty_sweepEmpty⟩
    · refine List.mem_filter.trans (and_congr_right fun _ => ?_)
      simp [Session.isEmpty]
    · simp only [Lobby.sweepEmpty, List.mem_map, List.mem_filter, Session.isEmpty,
        List.isEmpty_iff]
      exact exists_congr fun s => by tauto
  · intro now inTime writes only settled after stays players
    have hnow : now.lobby.Orderly := orderly_run (start ▸ Lobby.orderly_new _ _ _) events
    obtain ⟨hticked, hpassed⟩ := tick_eq hnow inTime
    have hsettled : settled.lobby.sessions =
        now.lobby.sessions.map (·.passed now.lobby.connections delta) :=
      (sessions_run_settle only (now.tick delta).2).trans hpassed
    have hafter : after.lobby.sessions = (now.lobby.sessions.filter (·.members.any stays)).map
        (·.passed now.lobby.connections delta) := Lobby.sessions_swept_of_passed hsettled
    have hswept : after.lobby.Orderly := by
      have hrun := orderly_run hnow (.tick delta :: writes)
      exact (settled.moves_step .sweep).orderly hrun
    obtain ⟨hsessions, hplayers, hle⟩ := gauges_sweep hswept
    have hclosed : after.lobby.sessions =
        (now.lobby.sessions.filter (·.members.any stays)).map (fun session =>
          { session with
            elapsed := ⟨session.elapsed.nanos + delta.nanos⟩
            tickCount := session.tickCount + 1
            members := session.members.filter stays
            host := (Session.earliest? (session.members.filter stays)).map (·.id) }) := by
      rw [hafter]
      exact List.map_congr_left fun session hsession =>
        Session.passed_of_inUse (List.mem_filter.mp hsession).2 delta
    refine ⟨hticked, hclosed, fun unclosed session hsession m hm => ?_, hsessions, hplayers,
      fun few => ?_⟩
    · rw [hclosed] at hsession
      obtain ⟨before, hbefore, rfl⟩ := List.mem_map.mp hsession
      obtain ⟨hmember, hopen⟩ := List.mem_filter.mp hm
      have hoccupied := hnow.occupied before (List.mem_of_mem_filter hbefore)
      have hgiven : m.handle ∈ now.lobby.connections.handles :=
        List.mem_range.mpr (hoccupied.opened hmember)
      exact (unclosed m.handle hgiven).trans hopen
    · rw [hplayers, UInt64.toNat_ofNat', Nat.mod_eq_of_lt (Nat.lt_of_le_of_lt hle few)]

/-- One player opens a session and leaves it for a new one; the other opens a session too, and then
its connection closes. -/
def oneInUse : List Event :=
  [.packet .game 0 ⟨Service.game, Method.createSession, 1, []⟩,
    .packet .game 0 ⟨Service.game, Method.leaveSession, 2, []⟩,
    .packet .game 0 ⟨Service.game, Method.createSession, 3, []⟩,
    .packet .game 1 ⟨Service.game, Method.createSession, 1, []⟩, .close 1]

/-- Of the three sessions, one of which nobody is in and another one nobody with an open connection,
one is left after the next pass and sweep, with its player, and the gauges show both. In a lobby of
its own a session that is created for nobody is reclaimed. -/
theorem reclamation_of_run_oneInUse :
    let now := twoPlayers.run oneInUse
    let settled := now.run [.tick .zero, .settle]
    let lobby := (Lobby.new 4 16 twoPlayers.lobby.connections).run [.create {}]
    now.lobby.sessions.map (·.id) = [⟨1⟩, ⟨2⟩, ⟨3⟩] ∧
      (∀ session ∈ now.lobby.sessions, session.members ≠ [] →
        session.elapsed.nanos + Duration.zero.nanos < Duration.bound) ∧
      (∀ k ∈ now.lobby.connections.handles,
        (settled.connection k).isOpen = (now.connection k).isOpen) ∧
      settled.sweep.lobby.sessions.map (·.id) = [⟨2⟩] ∧
      (∀ session ∈ settled.sweep.lobby.sessions, ∀ m ∈ session.members,
        (settled.sweep.connection m.handle).isOpen = true) ∧
      settled.sweep.metrics.sessionsActive.toNat = 1 ∧
      settled.sweep.metrics.sessionPlayers.toNat = 1 ∧
      lobby.Reordered lobby ∧ ⟨1⟩ ∈ lobby.sweepEmpty.1 := by
  intro now settled lobby
  have hids : now.lobby.sessions.map (·.id) = [⟨1⟩, ⟨2⟩, ⟨3⟩] := by decide +kernel
  have hinTime : ∀ session ∈ now.lobby.sessions, session.members ≠ [] →
      session.elapsed.nanos + Duration.zero.nanos < Duration.bound := by decide +kernel
  have hunclosed : ∀ k ∈ now.lobby.connections.handles,
      (settled.connection k).isOpen = (now.connection k).isOpen := by decide +kernel
  have hleft : settled.sweep.lobby.sessions.map (·.id) = [⟨2⟩] := by decide +kernel
  have hplayer : (settled.sweep.lobby.sessions.map (·.members.length)).sum = 1 := by
    decide +kernel
  have hfew : settled.sweep.lobby.connections.size < 2 ^ 64 := by decide +kernel
  have hwrites : ∀ e ∈ [Event.settle], e = .settle := fun e he => List.mem_singleton.mp he
  obtain ⟨hlobby, hserver⟩ := reclamation_of_run 4 16 twoPlayers.lobby.connections
  have horder : lobby.Reordered lobby :=
    ⟨_, _, .refl _, List.forall₂_same.mpr fun s _ => ⟨rfl, .refl _⟩, rfl⟩
  have hreported : ⟨1⟩ ∈ lobby.sweepEmpty.1 :=
    ((hlobby [.create {}] lobby horder).2.2.1 ⟨1⟩).mpr (by decide +kernel)
  -- From here on the states stand for what they are, which is not to be evaluated again.
  have hnow : now = twoPlayers.run oneInUse := rfl
  have hsettled : settled = now.run [.tick .zero, .settle] := rfl
  clear_value settled now
  subst hsettled hnow
  obtain ⟨-, -, hopen, hactive, -, hplayers⟩ :=
    hserver twoPlayers rfl oneInUse .zero hinTime [.settle] hwrites
  have hone := congrArg List.length hleft
  rw [List.length_map] at hone
  refine ⟨hids, hinTime, hunclosed, hleft, hopen hunclosed, hactive.trans hone,
    (hplayers hfew).trans hplayer, horder, hreported⟩

end ServerState

end PlayServer
