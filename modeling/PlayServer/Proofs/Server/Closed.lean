import PlayServer.Proofs.Server.Run
import PlayServer.Proofs.Server.Turn

/-!
# Packets of closed connections

A packet may still be handled when its connection has closed. Log-ins and lists of characters are
given up then, and so is everything else that is only answered to the sender: no session changes and
nothing is queued for anybody. Requests about sessions from a player who has logged in are the
exception. They do not ask whether the connection is open, and a session can come to have a member
whose connection was closed before.
-/

namespace PlayServer.ServerState

/-- A packet of a closed connection leaves the sessions as they are and queues nothing for anybody,
unless it comes in at the game front end and is a request about a session. -/
theorem handle_of_closed (s : ServerState) (front : Front) {h : Handle} (p : Packet)
    (closed : (s.connection h).isOpen = false)
    (other : front = .game → ∀ request, ¬ s.IsSessionRequest h p request) :
    (s.handle front h p).lobby =
        { s.lobby with connections := (s.handle front h p).lobby.connections } ∧
      ∀ k, let queue := (s.connection k).outbox.queue
        let queue' := ((s.handle front h p).connection k).outbox.queue
        queue' = queue ∨ queue' = [] ∧ ((s.handle front h p).connection k).isOpen = false := by
  rcases s.handle_cases front h p with hasides | ⟨hfront, request, hrequest, -⟩
  · have hanswers := hasides.answers
    have hposted (k : Handle) : (s.connection k).Posted [] ((s.handle front h p).connection k) := by
      by_cases hk : k = h
      · subst hk
        obtain ⟨payloads, -, hposts⟩ := hanswers
        exact (hposts.connections k).nothing_of_closed closed
      · exact hanswers.others hk
    obtain ⟨payloads, -, hposts⟩ := hanswers
    refine ⟨hposts.lobby, fun k => ?_⟩
    cases hopen : ((s.handle front h p).connection k).isOpen with
    | true =>
      have hqueue := (hposted k).queued hopen (.inr rfl)
      exact .inl (hqueue.trans (List.append_nil _))
    | false =>
      have hqueue := (hposted k).dropped hopen
      split at hqueue
      · exact .inr ⟨hqueue, rfl⟩
      · exact .inl hqueue
  · exact absurd hrequest (other hfront request)

/-- A server with a player who has logged in. -/
def lonePlayer : ServerState where
  lobby := .new 4 16
    { opened := [{ id := ⟨1⟩, address := default, auth := .authenticated, login := some "alice" }] }
  gateway := { maxPerAddress := 8 }
  game := { maxPerAddress := 8 }

/-- A request for the list of characters is one of those that closed connections get no answer
to. -/
theorem handle_of_closed_characterList :
    ((lonePlayer.run [.close 0]).connection 0).isOpen = false ∧
      ((lonePlayer.run [.close 0]).handle .game 0
        ⟨Service.game, Method.characterListRequest, 2, []⟩).lobby.sessions = [] := by
  have hclosed : ((lonePlayer.run [.close 0]).connection 0).isOpen = false := by decide +kernel
  have hnone : (lonePlayer.run [.close 0]).lobby.sessions = [] := by decide +kernel
  generalize lonePlayer.run [.close 0] = s at hclosed hnone ⊢
  have hother : ∀ request, ¬ s.IsSessionRequest 0
      ⟨Service.game, Method.characterListRequest, 2, []⟩ request := by
    rintro request ⟨-, -, hread, hlist⟩
    have hread : (Except.ok (some GameRequest.characterList) :
        Except BodyError (Option GameRequest)) = .ok (some request) := hread
    cases hread
    exact hlist rfl
  obtain ⟨hlobby, -⟩ := handle_of_closed s .game
    ⟨Service.game, Method.characterListRequest, 2, []⟩ hclosed fun _ => hother
  have hsessions := congrArg Lobby.sessions hlobby
  exact ⟨hclosed, hsessions.trans hnone⟩

/-- A request to create a session is not: the session is created, and the closed connection is its
only member. -/
theorem handle_of_closed_createSession :
    let s := lonePlayer.run [.close 0]
    let s' := s.handle .game 0 ⟨Service.game, Method.createSession, 7, []⟩
    (s.connection 0).isOpen = false ∧ s.lobby.sessions = [] ∧
      s'.lobby.sessions.map (fun session => (session.id, session.members.map (·.handle))) =
        [(⟨1⟩, [0])] := by
  decide +kernel

end PlayServer.ServerState
