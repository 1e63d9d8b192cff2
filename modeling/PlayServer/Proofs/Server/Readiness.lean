import PlayServer.Proofs.Server.Consistency

/-!
# Connections that are ready

A connection is ready if something runs its writer and, once its peer has logged in, it has a login
that fits into a notice. Nothing that a server does takes either from it. Unlike the consistency of
the lobby this needs no bound on the session ids that are drawn: `Ready.run` holds of runs of any
length.
-/

namespace PlayServer.ServerState

variable {s s' : ServerState}

/-- Something runs the writer of every connection, and whoever has logged in has done so under a
login that fits into a notice. -/
structure Ready (s : ServerState) : Prop where
  writers : ∀ k, (s.connection k).hasWriter = true
  identified : s.Identified

namespace Ready

/-- A server that was steady is ready as it was. -/
theorem steady (hs : s.Ready) (h : s.Steady s') : s'.Ready where
  writers k := (h.connections k).hasWriter.trans (hs.writers k)
  identified k := (h.connections k).identified (hs.identified k)

/-- Changing places takes nothing from a connection. -/
theorem reseated (hs : s.Ready) {l : Lobby} (h : s.lobby.connections.Reseated l.connections) :
    ({ s with lobby := l } : ServerState).Ready where
  writers k := by
    change (l.connections.get k).hasWriter = true
    rw [h k]
    exact hs.writers k
  identified k := by
    change (l.connections.get k).Identified
    rw [h k]
    exact hs.identified k

/-- Requests about sessions take nothing from a connection. -/
theorem requests : KeptByRequests Ready where
  send s h p hs := by
    obtain ⟨payloads, -, hposts⟩ := Posts.send s h p
    exact hs.steady hposts.steady
  notify s session p excluding hs := hs.steady (Posts.notify s session p excluding).steady
  move s l reseated hs := hs.reseated reseated
  note _ _ _ hs := ⟨hs.writers, hs.identified⟩

/-- Handling a packet takes nothing from a connection. -/
theorem handle (hs : s.Ready) (front : Front) (h : Handle) (p : Packet) :
    (s.handle front h p).Ready := by
  rcases s.handle_cases front h p with ⟨payloads, -, hposts⟩ | ⟨-, request, hrequest, heq⟩
  · exact hs.steady hposts.steady
  · rw [heq]
    exact requests.serveRequest h p hs hrequest.2.2.2

/-- The end of a connection takes nothing from any. -/
theorem leaveOnDisconnect (hs : s.Ready) (h : Handle) : (s.leaveOnDisconnect h).Ready := by
  have hmoved := s.lobby.reseated_leave h
  unfold ServerState.leaveOnDisconnect
  split
  · exact hs
  generalize s.lobby.leave h = outcome at hmoved ⊢
  obtain ⟨e | d, l⟩ := outcome
  · exact hs.reseated hmoved
  · have hannounced := posts_announceDeparture { s with lobby := l } d
    exact (hs.reseated hmoved).steady (hannounced.recordPlay h _ _ _).steady

/-- A pass of the scheduler takes nothing from a connection. -/
theorem tick (hs : s.Ready) (delta : Duration) : (s.step (.tick delta)).Ready := by
  have hmoved := s.lobby.reseated_tickAll delta
  by_cases hticked : (s.tick delta).1 = .ok ()
  · obtain ⟨departures, l, hpass, hposts⟩ := exists_posts_tick hticked
    rw [hpass] at hmoved
    exact (hs.reseated hmoved).steady hposts.steady
  · rw [step_tick_of_overflow hticked]
    exact hs.reseated hmoved

/-- An event takes nothing from a connection. -/
theorem step (hs : s.Ready) (e : Event) : (s.step e).Ready := by
  have quietly {s' : ServerState} (hlobby : s'.lobby.connections = s.lobby.connections) :
      s'.Ready := by
    have hsame (k : Handle) : s'.connection k = s.connection k := by
      rw [connection, Lobby.connection, hlobby]
      rfl
    exact ⟨fun k => hsame k ▸ hs.writers k, fun k => hsame k ▸ hs.identified k⟩
  cases e with
  | packet front h p => exact hs.handle front h p
  | close h => exact hs.steady (Posts.close s h).steady
  | disconnect front h =>
    cases front with
    | gateway => exact hs
    | game => exact hs.leaveOnDisconnect h
  | tick delta => exact hs.tick delta
  | sweep => exact quietly rfl
  | settle => exact hs.steady s.steady_settle.1
  | createAccount login email password salt => exact quietly rfl
  | setBanned login banned => exact quietly rfl
  | addCharacter login name classId level => exact quietly rfl
  | setAvailable available => exact quietly rfl
  | announce call d _ => exact quietly rfl
  | reorder sessions => exact quietly (connections_reorder s.lobby sessions)
  | reorderMembers id members => exact quietly (connections_reorderMembers s.lobby id members)

/-- A run of any length takes nothing from a connection. -/
theorem run (hs : s.Ready) (events : List Event) : (s.run events).Ready := by
  induction events generalizing s with
  | nil => exact hs
  | cons e rest ih => exact ih (hs.step e)

end Ready

/-- A server whose connections are as they may be when it starts is ready. -/
theorem ready_of_start {maxPlayers maxSessions : Nat} {cs : Connections}
    (lobby : s.lobby = .new maxPlayers maxSessions cs) (starts : ∀ c ∈ cs.opened, Starts c) :
    s.Ready :=
  ⟨(inOrder_of_start lobby starts).writers, (inOrder_of_start lobby starts).identified⟩

end PlayServer.ServerState
