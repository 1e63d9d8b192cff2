import PlayServer.Proofs.Lobby.Terms

/-!
# The authority of hosts

In every state of a run a session has a host exactly when it has members, and its host is the one
of them that joined before all others. Difficulty and mode of a session are in its hands: from one
state to the next they change only if the host has set others, which they are then.

Members join at instants of a clock that goes on with every join. `Lobby.wait` lets it go on in
between, so that a run with pauses has any increasing instants of joining.
-/

namespace PlayServer

namespace Session.Led

variable {s : Session} {now : Nat}

/-- A session without a host is a session without members. -/
theorem host_eq_none_iff (hs : s.Led now) : s.host = none ↔ s.members = [] := by
  rw [hs.host, Option.map_eq_none_iff]
  constructor
  · intro hnone
    by_contra hsome
    obtain ⟨first, hfirst⟩ := earliest?_isSome hsome
    simp [hnone] at hfirst
  · intro hempty
    rw [hempty]
    rfl

/-- The host is a member that joined before all others. -/
theorem host_spec (hs : s.Led now) {id : ConnectionId} (host : s.host = some id) :
    ∃ m ∈ s.members, m.id = id ∧ ∀ m' ∈ s.members, m' ≠ m → m.joinedAt < m'.joinedAt := by
  rw [hs.host] at host
  obtain ⟨first, hfirst, rfl⟩ := Option.map_eq_some_iff.mp host
  obtain ⟨hmem, hle⟩ := earliest?_spec hfirst
  refine ⟨first, hmem, rfl, fun m' hm' hother => Nat.lt_of_le_of_ne (hle m' hm') fun same => ?_⟩
  exact hother (hs.apart.eq_of_joinedAt hm' hmem same.symm)

/-- From outside the host is seen as the first of the members. -/
theorem summary_host (hs : s.Led now) (keys : (s.members.map (·.id)).Nodup) :
    s.summary.host = s.summary.members.head? := by
  simp only [summary, List.head?_map, head?_inJoinOrder hs.apart, hs.host]
  cases hfirst : earliest? s.members with
  | none => rfl
  | some first =>
    have hfound : s.member? first.id = some first :=
      member?_eq_some keys (earliest?_spec hfirst).1
    simp [hfound]

end Session.Led

namespace Lobby

variable {l : Lobby} {drawn : Nat}

/-- An operation changes the options of a session only if the host of the session sets them. -/
theorem terms?_perform (hl : l.Consistent drawn) (op : Operation) {id : SessionId}
    {options options' : SessionOptions} (before : l.terms? id = some options)
    (after : (l.perform op).terms? id = some options') :
    options' = options ∨ ∃ h s, op = .setOptions h options' ∧ l.session? id = some s ∧
      (l.connection h).session = some id ∧ s.host = some (l.connection h).id := by
  have kept {l' : Lobby} (keeps : l.KeepsTerms l') (after : l'.terms? id = some options') :
      options' = options := Option.some.inj (after.symm.trans (keeps id options before))
  cases op with
  | create options => exact .inl (kept (keepsTerms_create hl options) after)
  | createAndJoin h options => exact .inl (kept (tells_createAndJoin hl h options).1 after)
  | join id' h => exact .inl (kept (l.tells_join id' h).1 after)
  | findOrCreateAndJoin h => exact .inl (kept (tells_findOrCreateAndJoin hl h).1 after)
  | leave h => exact .inl (kept (.of_eq (l.terms?_leave h)) after)
  | setOptions h new =>
    have houtcome := l.optionsOutcome_setOptions h new
    rw [perform] at after
    generalize l.setOptions h new = outcome at houtcome after
    cases houtcome with
    | refused => exact .inl (kept (.of_eq rfl) after)
    | @changed s named held member host =>
      rw [terms?_store (by simp [held])] at after
      split at after
      · next he =>
        obtain rfl : id = s.id := he
        obtain rfl : new = options' := Option.some.inj after
        exact .inr ⟨h, s, rfl, held, named, host⟩
      · exact .inl (kept (.of_eq rfl) after)
  | broadcast id' p excluding =>
    exact .inl (kept (.of_eq (terms?_of_sessions (l.sessions_broadcast id' p excluding))) after)
  | tickAll delta => exact .inl (kept (.of_eq (l.terms?_tickAll delta)) after)
  | sweepEmpty =>
    exact .inl (Option.some.inj ((terms?_of_sweepEmpty hl.keys after).symm.trans before))
  | shutdownAll => cases after
  | close h => exact .inl (kept (.of_eq rfl) after)
  | reorder sessions => exact .inl (kept (.of_eq (terms?_reorder hl.keys sessions)) after)
  | reorderMembers id' members =>
    exact .inl (kept (.of_eq (l.terms?_reorderMembers id' members)) after)

/-- Lets the clock go on before the next join. -/
def wait (l : Lobby) (pause : Nat) : Lobby := { l with clock := l.clock + pause }

/-- Carries out operations one after the other, each after a pause. -/
def runWithPauses (l : Lobby) (ops : List (Nat × Operation)) : Lobby :=
  ops.foldl (fun l (pause, op) => (l.wait pause).perform op) l

/-- How many session ids a run with pauses draws. -/
def idsDrawnWithPauses (l : Lobby) : List (Nat × Operation) → Nat
  | [] => 0
  | (pause, op) :: rest =>
    (l.wait pause).idsDrawnBy op + ((l.wait pause).perform op).idsDrawnWithPauses rest

/-- Every session is led by its first member, and the members are the connections that name it. -/
structure Governed (drawn : Nat) (l : Lobby) : Prop where
  consistent : l.Consistent drawn
  hosted : l.Hosted

namespace Governed

/-- A pause changes nothing about sessions and connections. -/
theorem wait (hl : l.Governed drawn) (pause : Nat) : (l.wait pause).Governed drawn where
  consistent :=
    have hc := hl.consistent
    ⟨hc.keys, hc.count, hc.counter, hc.fresh, hc.sound, hc.known⟩
  hosted s hs := (hl.hosted s hs).later (Nat.le_add_right _ _)

/-- An operation keeps what makes hosts the first members. -/
theorem perform (hl : l.Governed drawn) (op : Operation)
    (room : drawn + l.idsDrawnBy op < 2 ^ 32 - 1) :
    (l.perform op).Governed (drawn + l.idsDrawnBy op) :=
  have hmoves := moves_idsDrawnBy hl.consistent.keys op
  ⟨hl.consistent.moves hmoves room, hl.hosted.moves hmoves⟩

/-- A run keeps what makes hosts the first members. -/
theorem run (hl : l.Governed drawn) (ops : List (Nat × Operation))
    (room : drawn + l.idsDrawnWithPauses ops < 2 ^ 32 - 1) :
    (l.runWithPauses ops).Governed (drawn + l.idsDrawnWithPauses ops) := by
  induction ops generalizing l drawn with
  | nil => exact hl
  | cons first rest ih =>
    obtain ⟨pause, op⟩ := first
    simp only [idsDrawnWithPauses] at room ⊢
    rw [← Nat.add_assoc] at room ⊢
    exact ih ((hl.wait pause).perform op (by omega)) room

end Governed

/-- In every state of every run, with any instants of joining that increase, in which the counter of
session ids does not run out: a session has no host exactly when it has no members, its host is the
member that joined before all others, and from outside the host is seen as the first of the members.
Whatever operation comes next, the options of a session that is there before and after it are the
same, unless a member of the session that is its host has set them to what they are afterwards. -/
theorem authority_of_run (maxPlayers maxSessions : Nat) (cs : Connections)
    (free : ∀ c ∈ cs.opened, c.session = none) (ops : List (Nat × Operation))
    (drawn : (new maxPlayers maxSessions cs).idsDrawnWithPauses ops < 2 ^ 32 - 1) :
    let l := (new maxPlayers maxSessions cs).runWithPauses ops
    (∀ s ∈ l.sessions, (s.host = none ↔ s.members = []) ∧
      (∀ id, s.host = some id → ∃ m ∈ s.members, m.id = id ∧
        ∀ m' ∈ s.members, m' ≠ m → m.joinedAt < m'.joinedAt) ∧
      s.summary.host = s.summary.members.head?) ∧
    ∀ pause op id s s', l.session? id = some s →
      (l.runWithPauses [(pause, op)]).session? id = some s' → s'.options ≠ s.options →
        ∃ m ∈ s.members, s.host = some m.id ∧ op = .setOptions m.handle s'.options := by
  intro l
  have hnew : (new maxPlayers maxSessions cs).Governed 0 :=
    ⟨consistent_new maxPlayers maxSessions free, fun s hs => absurd hs List.not_mem_nil⟩
  have hl := hnew.run ops (by omega)
  refine ⟨fun s hs => ?_, fun pause op id s s' hs hs' changed => ?_⟩
  · have hled := hl.hosted s hs
    exact ⟨hled.host_eq_none_iff, fun id => hled.host_spec,
      hled.summary_host (hl.consistent.sound s hs).keys⟩
  · rcases terms?_perform (hl.wait pause).consistent op (terms?_of_session? hs)
      (terms?_of_session? hs') with same | ⟨h, t, rfl, ht, named, host⟩
    · exact absurd same changed
    · obtain rfl : t = s := Option.some.inj (ht.symm.trans hs)
      obtain ⟨u, m, hu, hm, hmh⟩ := ((hl.wait pause).consistent.session_iff h id).mp named
      obtain rfl : u = t := Option.some.inj (hu.symm.trans ht)
      obtain ⟨hmem, hid⟩ := Session.mem_of_member? hm
      exact ⟨m, hmem, by rw [hid, host], by rw [hmh]⟩

/-- The host of a session waits for another player, sets options, and leaves. -/
def hostHandsOver : List (Nat × Operation) :=
  [(0, .createAndJoin 0 {}), (5, .join ⟨1⟩ 1), (2, .setOptions 0 ⟨.hard, .rift⟩), (0, .leave 0)]

/-- The player who has stayed is the host, and may set other options. -/
theorem authority_of_run_hostHandsOver :
    (∀ c ∈ twoConnections.opened, c.session = none) ∧
      (new 4 16 twoConnections).idsDrawnWithPauses hostHandsOver < 2 ^ 32 - 1 ∧
      ∃ s s', ((new 4 16 twoConnections).runWithPauses hostHandsOver).session? ⟨1⟩ = some s ∧
        s.options = ⟨.hard, .rift⟩ ∧
        (((new 4 16 twoConnections).runWithPauses hostHandsOver).runWithPauses
          [(1, .setOptions 1 {})]).session? ⟨1⟩ = some s' ∧ s'.options = {} ∧
        s.summary.host = s.summary.members.head? ∧
        ∃ m ∈ s.members, s.host = some m.id ∧ m.handle = 1 := by
  have hfree : ∀ c ∈ twoConnections.opened, c.session = none := by decide
  have hdrawn : (new 4 16 twoConnections).idsDrawnWithPauses hostHandsOver < 2 ^ 32 - 1 := by
    decide
  obtain ⟨s, hs, hoptions⟩ := Option.map_eq_some_iff.mp (show
    ((new 4 16 twoConnections).runWithPauses hostHandsOver).terms? ⟨1⟩ = some ⟨.hard, .rift⟩ by
      decide)
  obtain ⟨s', hs', hoptions'⟩ := Option.map_eq_some_iff.mp (show
    (((new 4 16 twoConnections).runWithPauses hostHandsOver).runWithPauses
      [(1, .setOptions 1 {})]).terms? ⟨1⟩ = some {} by decide)
  obtain ⟨hhosts, hchanges⟩ := authority_of_run 4 16 twoConnections hfree hostHandsOver hdrawn
  obtain ⟨m, hm, hhost, hop⟩ := hchanges 1 (.setOptions 1 {}) ⟨1⟩ s s' hs hs' (by
    rw [hoptions, hoptions']
    decide)
  obtain ⟨hhandle, -⟩ := Operation.setOptions.inj hop
  exact ⟨hfree, hdrawn, s, s', hs, hoptions, hs', hoptions',
    (hhosts s (mem_of_session? hs).1).2.2, m, hm, hhost, hhandle.symm⟩

end Lobby

end PlayServer
