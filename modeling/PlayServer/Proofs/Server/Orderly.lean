import PlayServer.Proofs.Lobby.Orderly
import PlayServer.Proofs.Server.Consistency

/-!
# Order in runs of any length

The lobby of a server stays orderly in every run, however many session ids it draws and whatever
comes in between while a request waits for the store: `orderly_run`. Every event makes moves, after
which nobody has moved.
-/

namespace PlayServer

namespace ServerState

variable {s s' : ServerState}

/-- In a server that was steady nobody has moved. -/
theorem Steady.sameSeats (h : s.Steady s') : s.lobby.SameSeats s'.lobby where
  sessions := h.lobby
  ids k := (h.connections k).id
  seats k := (h.connections k).session

/-- The lobby has made moves, after which nobody has moved. -/
def Moves (s s' : ServerState) : Prop :=
  ∃ n l, Lobby.Moves (fun _ => True) s.lobby n l ∧ l.SameSeats s'.lobby

namespace Moves

/-- A server that was steady has made no moves. -/
theorem of_steady (h : s.Steady s') : s.Moves s' := ⟨0, _, .refl, h.sameSeats⟩

/-- A server whose lobby is the same has made no moves. -/
theorem of_eq (h : s'.lobby = s.lobby) : s.Moves s' := ⟨0, _, .refl, h ▸ .refl _⟩

/-- An effect makes moves. -/
theorem of_effect {who : Handle → Prop} (h : Effect who s s') : s.Moves s' := by
  obtain ⟨n, hmoves⟩ := h.moves
  exact ⟨n, _, hmoves.mono fun _ _ => trivial, .refl _⟩

/-- Quiet moves are moves. -/
theorem of_quiet {l : Lobby} (h : Lobby.QuietMoves s.lobby l) : s.Moves { s with lobby := l } :=
  ⟨0, l, h.of_quiet, .refl l⟩

/-- Moves keep a lobby orderly. -/
theorem orderly (h : s.Moves s') (hl : s.lobby.Orderly) : s'.lobby.Orderly := by
  obtain ⟨n, l, hmoves, hsame⟩ := h
  exact (hl.moves hmoves).of_sameSeats hsame

end Moves

/-- Handling a packet makes moves. -/
theorem moves_handle (s : ServerState) (front : Front) (h : Handle) (p : Packet) :
    s.Moves (s.handle front h p) := by
  rcases s.handle_cases front h p with ⟨payloads, -, hposts⟩ | ⟨-, request, hrequest, heq⟩
  · exact .of_steady hposts.steady
  · exact heq ▸ .of_effect (effect_serveRequest_of_ne s h p hrequest.2.2.2)

/-- Every event makes moves. -/
theorem moves_step (s : ServerState) (e : Event) : s.Moves (s.step e) := by
  cases e with
  | packet front h p => exact moves_handle s front h p
  | close h => exact .of_steady (Posts.close s h).steady
  | disconnect front h =>
    cases front with
    | gateway => exact .of_eq rfl
    | game => exact .of_effect (effect_leaveOnDisconnect s h : QuietEffect s _)
  | tick delta => exact .of_effect (effect_tick s delta : QuietEffect s _)
  | sweep => exact .of_effect (effect_sweep s : QuietEffect s _)
  | settle => exact .of_steady s.steady_settle.1
  | createAccount login email password salt => exact .of_eq rfl
  | setBanned login banned => exact .of_eq rfl
  | addCharacter login name classId level => exact .of_eq rfl
  | setAvailable available => exact .of_eq rfl
  | announce call d genuine => exact .of_eq rfl
  | reorder sessions => exact .of_quiet (s.lobby.quietMoves_reorder sessions)
  | reorderMembers id members => exact .of_quiet (s.lobby.quietMoves_reorderMembers id members)

/-- A run of any length keeps the lobby of a server orderly. -/
theorem orderly_run (hl : s.lobby.Orderly) (events : List Event) :
    (s.run events).lobby.Orderly := by
  induction events generalizing s with
  | nil => exact hl
  | cons e rest ih => exact ih ((s.moves_step e).orderly hl)

end ServerState

end PlayServer
