import PlayServer.Proofs.Server.Run
import PlayServer.Proofs.Server.Turn

/-!
# Consistency of a server

The lobby of a server stays consistent in every run in which the 32-bit counter of session ids does
not run out. `Progress` is all that an event does to the lobby and the connections: moves, in which
connections at most change places, and then whatever leaves connections steady.

`InOrder` is the invariant: the lobby is consistent, whoever has logged in has done so under a login
that fits into a notice, members have logged in under the logins that they are recorded with, and
every connection has something that runs its writer.
-/

namespace PlayServer

/-- Consistency depends on the ids of the connections and on the sessions that they name. -/
theorem Lobby.Consistent.of_connections {l : Lobby} {drawn : Nat} (hl : l.Consistent drawn)
    {cs : Connections} (ids : ∀ k, (cs.get k).id = (l.connection k).id)
    (sessions : ∀ k, (cs.get k).session = (l.connection k).session) :
    ({ l with connections := cs } : Lobby).Consistent drawn where
  keys := hl.keys
  count := hl.count
  counter := hl.counter
  fresh := hl.fresh
  sound s hs := (hl.sound s hs).of_connections ids fun k => by
    rw [sessions]
    rfl
  known k id hnamed := hl.known k id (sessions k ▸ hnamed)

/-- A server that was steady is consistent as it was. -/
theorem ServerState.Steady.consistent {s s' : ServerState} {drawn : Nat} (h : s.Steady s')
    (hl : s.lobby.Consistent drawn) : s'.lobby.Consistent drawn := by
  rw [h.lobby]
  exact hl.of_connections (fun k => (h.connections k).id) fun k => (h.connections k).session

/-- A server that was steady has been consistent if it is. -/
theorem ServerState.Steady.consistent_before {s s' : ServerState} {drawn : Nat} (h : s.Steady s')
    (hl' : s'.lobby.Consistent drawn) : s.lobby.Consistent drawn := by
  have hlobby : s.lobby = { s'.lobby with connections := s.lobby.connections } := by rw [h.lobby]
  rw [hlobby]
  exact hl'.of_connections (fun k => (h.connections k).id.symm)
    fun k => (h.connections k).session.symm

namespace ServerState

/-- The lobby has made moves, in which at most one session id is drawn, at most players who have
logged in are admitted and connections at most change places, and then connections were steady. -/
structure Progress (s : ServerState) (l : Lobby) (s' : ServerState) : Prop where
  moves : ∃ n ≤ 1, Lobby.Moves (fun h => (s.connection h).isAuthenticated = true) s.lobby n l
  reseated : s.lobby.connections.Reseated l.connections
  steady : { s with lobby := l }.Steady s'

/-- A turn is progress. -/
theorem Turn.progress {who : Handle → Prop} {s s' : ServerState} {l : Lobby} {post : Post}
    (turn : s.Turn who l post s') : s.Progress l s' :=
  ⟨turn.moves, turn.reseated, turn.posts.steady⟩

/-- A server that was steady has made progress. -/
theorem Steady.progress {s s' : ServerState} (steady : s.Steady s') : s.Progress s.lobby s' :=
  ⟨⟨0, by omega, .refl⟩, .refl _, steady⟩

/-- Another order of the sessions changes no connection. -/
theorem connections_reorder (l : Lobby) (sessions : List Session) :
    (l.reorder sessions).connections = l.connections := by
  unfold Lobby.reorder
  split <;> rfl

/-- Another order of the members of a session changes no connection. -/
theorem connections_reorderMembers (l : Lobby) (id : SessionId) (members : List Member) :
    (l.reorderMembers id members).connections = l.connections := by
  unfold Lobby.reorderMembers
  split
  · rfl
  · split
    · rw [Lobby.connections_store]
    · rfl

/-- Every event but a run of the writers is a turn, unless the time of a session overflows. -/
theorem turns_step {s : ServerState} {drawn : Nat} (hl : s.lobby.Consistent drawn) {e : Event}
    (working : e ≠ .settle) (ticked : ∀ delta, e = .tick delta → (s.tick delta).1 = .ok ()) :
    s.Turns (s.step e) := by
  have quietly {s' : ServerState} (h : s.Posts .nobody s') : s.Turns s' :=
    turns_of_quiet hl .refl rfl h
  cases e with
  | packet front h p => exact (serves_handle h p hl front).turns
  | close h => exact quietly (.close s h)
  | disconnect front h =>
    cases front with
    | gateway => exact quietly (.refl s)
    | game => exact turns_leaveOnDisconnect hl h
  | tick delta => exact turns_tick hl (ticked delta rfl)
  | sweep => exact turns_sweep hl
  | settle => exact absurd rfl working
  | createAccount login email password salt => exact quietly (.of_eq rfl rfl)
  | setBanned login banned => exact quietly (.of_eq rfl rfl)
  | addCharacter login name classId level => exact quietly (.of_eq rfl rfl)
  | setAvailable available => exact quietly (.of_eq rfl rfl)
  | announce call d _ => exact quietly (.of_eq rfl rfl)
  | reorder sessions =>
    exact turns_of_quiet hl (s.lobby.quietMoves_reorder sessions)
      (connections_reorder s.lobby sessions) (.refl _)
  | reorderMembers id members =>
    exact turns_of_quiet hl (s.lobby.quietMoves_reorderMembers id members)
      (connections_reorderMembers s.lobby id members) (.refl _)

/-- When the time of a session overflows, the sessions before it have ticked, and nothing is
announced. -/
theorem step_tick_of_overflow {s : ServerState} {delta : Duration}
    (overflow : (s.tick delta).1 ≠ .ok ()) :
    s.step (.tick delta) = { s with lobby := (s.lobby.tickAll delta).2 } := by
  rw [step]
  unfold tick at overflow ⊢
  split
  · next heq => rw [heq]
  · next heq =>
    rw [heq] at overflow
    exact absurd rfl overflow

/-- Every event makes progress. -/
theorem exists_progress_step {s : ServerState} {drawn : Nat} (hl : s.lobby.Consistent drawn)
    (e : Event) : ∃ l, s.Progress l (s.step e) := by
  by_cases hsettle : e = .settle
  · subst hsettle
    exact ⟨_, s.steady_settle.1.progress⟩
  by_cases hticked : ∀ delta, e = .tick delta → (s.tick delta).1 = .ok ()
  · obtain ⟨l, post, turn⟩ := turns_step hl hsettle hticked
    exact ⟨l, turn.progress⟩
  · push Not at hticked
    obtain ⟨delta, rfl, hoverflow⟩ := hticked
    rw [step_tick_of_overflow hoverflow]
    exact ⟨_, ⟨0, by omega, (s.lobby.quietMoves_tickAll delta).of_quiet⟩,
      s.lobby.reseated_tickAll delta, .refl _⟩

/-- How many session ids one step has drawn: none or one, which the counter tells. -/
def idsBetween (s s' : ServerState) : Nat := if s'.lobby.nextId = s.lobby.nextId then 0 else 1

/-- How many session ids a run draws. -/
def idsDrawn (s : ServerState) : List Event → Nat
  | [] => 0
  | e :: rest => s.idsBetween (s.step e) + (s.step e).idsDrawn rest

/-- The ids drawn by a run are those drawn by its parts. -/
theorem idsDrawn_append (s : ServerState) (earlier later : List Event) :
    s.idsDrawn (earlier ++ later) = s.idsDrawn earlier + (s.run earlier).idsDrawn later := by
  induction earlier generalizing s with
  | nil => exact (Nat.zero_add _).symm
  | cons e rest ih =>
    rw [List.cons_append, idsDrawn, idsDrawn, ih, Nat.add_assoc]
    rfl

/-- The invariant of a server that has drawn so many session ids. -/
structure InOrder (drawn : Nat) (s : ServerState) : Prop where
  consistent : s.lobby.Consistent drawn
  identified : s.Identified
  members : ∀ m, s.lobby.HasMember m →
    (s.connection m.handle).loginState = (.authenticated, some m.login)
  writers : ∀ k, (s.connection k).hasWriter = true

/-- What is posted by an event, in which connections at most change places before, is what it queues
to connections that are open after it; to closed ones nothing is queued. -/
theorem queuedBy_of_posts {s : ServerState} {e : Event} {l : Lobby} {post : Post}
    (reseated : s.lobby.connections.Reseated l.connections)
    (posts : ({ s with lobby := l } : ServerState).Posts post (s.step e)) {k : Handle}
    (takes : (s.connection k).hasWriter = true ∨ post k = []) :
    s.queuedBy e k = if ((s.step e).connection k).isOpen then post k else [] := by
  -- Changing places leaves the queues as they are.
  have hposted : (l.connection k).Posted (post k) ((s.step e).connection k) := posts.connections k
  have hplace : l.connection k = { s.connection k with session := (l.connection k).session } :=
    reseated k
  have hqueue : (l.connection k).outbox = (s.connection k).outbox := by rw [hplace]
  have htakes : (l.connection k).hasWriter = true ∨ post k = [] := by rwa [hplace]
  rw [queuedBy]
  cases hopen : ((s.step e).connection k).isOpen with
  | true => simp [hposted.queued hopen htakes, hqueue]
  | false =>
    rw [hposted.dropped hopen]
    split <;> simp [hqueue]

/-- What an event queues, in which connections at most change places before, has been posted, even
where nothing runs the writer. -/
theorem queuedBy_subset_of_posts {s : ServerState} {e : Event} {l : Lobby} {post : Post}
    (reseated : s.lobby.connections.Reseated l.connections)
    (posts : ({ s with lobby := l } : ServerState).Posts post (s.step e)) (k : Handle) :
    s.queuedBy e k ⊆ post k := by
  have hposted : (l.connection k).Posted (post k) ((s.step e).connection k) := posts.connections k
  have hplace : l.connection k = { s.connection k with session := (l.connection k).session } :=
    reseated k
  have hqueue : (l.connection k).outbox = (s.connection k).outbox := by rw [hplace]
  rw [queuedBy, ← hqueue]
  exact hposted.drop_subset

/-- What is posted in a turn is what it queues to connections that are open after it; to closed ones
nothing is queued. -/
theorem Turn.queuedBy_eq {who : Handle → Prop} {s : ServerState} {e : Event} {l : Lobby}
    {post : Post} (turn : s.Turn who l post (s.step e))
    (writers : ∀ k, (s.connection k).hasWriter = true) (k : Handle) :
    s.queuedBy e k = if ((s.step e).connection k).isOpen then post k else [] :=
  queuedBy_of_posts turn.reseated turn.posts (.inl (writers k))

/-- A run of the writers queues nothing. -/
theorem queuedBy_settle (s : ServerState) (k : Handle) : s.queuedBy .settle k = [] :=
  List.drop_of_length_le (s.steady_settle.2 k)

/-- When the time of a session overflows nothing is queued. -/
theorem queuedBy_tick_of_overflow {s : ServerState} {delta : Duration}
    (overflow : (s.tick delta).1 ≠ .ok ()) (k : Handle) : s.queuedBy (.tick delta) k = [] := by
  have hposts : ({ s with lobby := (s.lobby.tickAll delta).2 } : ServerState).Posts .nobody
      (s.step (.tick delta)) := by
    rw [step_tick_of_overflow overflow]
    exact .refl _
  rw [queuedBy_of_posts (s.lobby.reseated_tickAll delta) hposts (.inr rfl), Post.nobody, ite_self]

/-- The lobby is consistent after the moves of a step, if the counter does not run out. -/
theorem Progress.moved {s s' : ServerState} {l : Lobby} {drawn : Nat} (h : s.Progress l s')
    (hl : s.lobby.Consistent drawn) (room : drawn + s.idsBetween s' < 2 ^ 32 - 1) :
    l.Consistent (drawn + s.idsBetween s') := by
  obtain ⟨n, hn, hmoves⟩ := h.moves
  have hcount : n = s.idsBetween s' := by
    rw [idsBetween, h.steady.lobby]
    exact hmoves.draws_eq hn
  exact hcount ▸ hl.moves hmoves (hcount ▸ room)

/-- The lobby is consistent after a step, if the counter does not run out. -/
theorem Progress.consistent {s s' : ServerState} {l : Lobby} {drawn : Nat} (h : s.Progress l s')
    (hl : s.lobby.Consistent drawn) (room : drawn + s.idsBetween s' < 2 ^ 32 - 1) :
    s'.lobby.Consistent (drawn + s.idsBetween s') :=
  h.steady.consistent (h.moved hl room)

/-- A step leaves a connection its writer. -/
theorem Progress.hasWriter {s s' : ServerState} {l : Lobby} (h : s.Progress l s') (k : Handle) :
    (s'.connection k).hasWriter = (s.connection k).hasWriter := by
  have hmoved : (l.connection k).hasWriter = (s.connection k).hasWriter := by
    rw [Lobby.connection, h.reseated k]
    rfl
  exact (h.steady.connections k).hasWriter.trans hmoved

/-- A lobby is consistent after a run, if the counter does not run out. -/
theorem consistent_run {s : ServerState} {drawn : Nat} (hl : s.lobby.Consistent drawn)
    (events : List Event) (room : drawn + s.idsDrawn events < 2 ^ 32 - 1) :
    (s.run events).lobby.Consistent (drawn + s.idsDrawn events) := by
  induction events generalizing s drawn with
  | nil => exact hl
  | cons e rest ih =>
    simp only [idsDrawn, ← Nat.add_assoc] at room ⊢
    obtain ⟨l, hprogress⟩ := exists_progress_step hl e
    exact ih (hprogress.consistent hl (by omega)) room

/-- A run leaves a connection its writer. -/
theorem hasWriter_run {s : ServerState} {drawn : Nat} (hl : s.lobby.Consistent drawn)
    (events : List Event) (room : drawn + s.idsDrawn events < 2 ^ 32 - 1) (k : Handle) :
    ((s.run events).connection k).hasWriter = (s.connection k).hasWriter := by
  induction events generalizing s drawn with
  | nil => rfl
  | cons e rest ih =>
    simp only [idsDrawn, ← Nat.add_assoc] at room
    obtain ⟨l, hprogress⟩ := exists_progress_step hl e
    have hrest := ih (hprogress.consistent hl (by omega)) room
    exact hrest.trans (hprogress.hasWriter k)

/-- A step keeps a server in order, if the counter does not run out. -/
theorem InOrder.progress {s s' : ServerState} {l : Lobby} {drawn : Nat} (hs : s.InOrder drawn)
    (h : s.Progress l s') (room : drawn + s.idsBetween s' < 2 ^ 32 - 1) :
    s'.InOrder (drawn + s.idsBetween s') where
  consistent := h.consistent hs.consistent room
  identified k := by
    have hmoved : (l.connection k).Identified := by
      rw [Lobby.connection, h.reseated k]
      exact hs.identified k
    exact (h.steady.connections k).identified hmoved
  members m hm := by
    obtain ⟨n, -, hmoves⟩ := h.moves
    have hm : l.HasMember m := by
      rw [h.steady.lobby] at hm
      exact hm
    have hstate : (s.connection m.handle).loginState = (.authenticated, some m.login) := by
      rcases hmoves.members hm with hold | ⟨hauthenticated, hlogin⟩
      · exact hs.members m hold
      · obtain ⟨login, hlogin', -⟩ := hs.identified m.handle hauthenticated
        have hauth : (s.connection m.handle).auth = .authenticated := by
          simpa [Connection.isAuthenticated] using hauthenticated
        rw [hlogin login hlogin', Connection.loginState, hauth, hlogin']
    have hmoved : (l.connection m.handle).loginState = (.authenticated, some m.login) :=
      (hmoves.loginState m.handle).trans hstate
    have hauthenticated := Connection.isAuthenticated_of_loginState hmoved
    exact ((h.steady.connections m.handle).keeps hauthenticated).trans hmoved
  writers k := (h.hasWriter k).trans (hs.writers k)

/-- An event keeps a server in order, if the counter does not run out. -/
theorem InOrder.step {s : ServerState} {drawn : Nat} (hs : s.InOrder drawn) (e : Event)
    (room : drawn + s.idsBetween (s.step e) < 2 ^ 32 - 1) :
    (s.step e).InOrder (drawn + s.idsBetween (s.step e)) := by
  obtain ⟨l, hprogress⟩ := exists_progress_step hs.consistent e
  exact hs.progress hprogress room

/-- A run keeps a server in order, if the counter does not run out. -/
theorem InOrder.run {s : ServerState} {drawn : Nat} (hs : s.InOrder drawn) (events : List Event)
    (room : drawn + s.idsDrawn events < 2 ^ 32 - 1) :
    (s.run events).InOrder (drawn + s.idsDrawn events) := by
  induction events generalizing s drawn with
  | nil => exact hs
  | cons e rest ih =>
    simp only [idsDrawn, ← Nat.add_assoc] at room ⊢
    exact ih (hs.step e (by omega)) room

/-- A connection as it may be when a server starts: it belongs to no session, and can write; if it
has logged in, then under a login that fits into a notice. -/
structure Starts (c : Connection) : Prop where
  free : c.session = none
  hasWriter : c.hasWriter = true
  identified : c.Identified

/-- A server without sessions is in order. -/
theorem inOrder_of_start {s : ServerState} {maxPlayers maxSessions : Nat} {cs : Connections}
    (lobby : s.lobby = .new maxPlayers maxSessions cs) (starts : ∀ c ∈ cs.opened, Starts c) :
    s.InOrder 0 := by
  have hall : ∀ k, Starts (s.connection k) := by
    rw [show s.connection = cs.get from funext fun k => by rw [connection, lobby]; rfl]
    exact Connections.forall_get starts
      fun _ => ⟨rfl, rfl, fun hauthenticated => by cases hauthenticated⟩
  refine ⟨?_, fun k => (hall k).identified, fun m hm => ?_, fun k => (hall k).hasWriter⟩
  · rw [lobby]
    exact Lobby.consistent_new maxPlayers maxSessions fun c hc => (starts c hc).free
  · obtain ⟨session, hsession, -⟩ := hm
    rw [lobby] at hsession
    cases hsession

end ServerState

end PlayServer
