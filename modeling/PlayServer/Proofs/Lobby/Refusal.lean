import PlayServer.Proofs.Lobby.Roster

/-!
# Refusals

An operation on a lobby that is refused leaves the lobby as it was: the sessions with their members,
hosts and options, those that were reclaimed, what every connection names, and the next session id.
`Lobby.refusal?` tells why an operation is refused, if it is, and `Lobby.perform_of_refused` is the
law.

Most operations are refused before anything has changed. A session that is created for a player
could refuse this player only after its id has been drawn; it does not, as it is new and has room
for one. A player who names a session that is not there would be released from it; there are no such
players in a consistent lobby.
-/

namespace PlayServer

/-- Why there is no result, if there is none. -/
def refusalOf {α : Type} : Except SessionError α → Option SessionError
  | .error e => some e
  | .ok _ => none

/-- There is a refusal exactly where there is no result. -/
theorem refusalOf_eq_some_iff {α : Type} {result : Except SessionError α} {e : SessionError} :
    refusalOf result = some e ↔ result = .error e := by
  cases result <;> simp [refusalOf]

namespace Lobby

variable {l : Lobby} {drawn : Nat} {e : SessionError}

/-- A session that is not created is not there. -/
theorem create_of_error {options : SessionOptions} (refused : (l.create options).1 = .error e) :
    (l.create options).2 = l := by
  unfold create at refused ⊢
  split
  · rfl
  · next s l' hdraw => simp [hdraw] at refused

/-- A refused attempt to join the session under an id changes nothing. -/
theorem join_of_error {id : SessionId} {h : Handle} (refused : (l.join id h).1 = .error e) :
    (l.join id h).2 = l := by
  unfold join at refused ⊢
  split
  · rfl
  · next s hs =>
    rw [hs] at refused
    exact joinSession_of_error refused

/-- A new session with room for one takes a connection that belongs to no session. -/
theorem joins_nextSession {h : Handle} (room : 0 < l.maxPlayers) (options : SessionOptions)
    (free : (l.connection h).session = none) :
    ∃ s cs, (l.nextSession options).join l.connections h l.clock = .ok (s, cs) := by
  refine ⟨_, _, Session.join_eq_ok_iff.mpr ⟨rfl, rfl, ?_, free, rfl, rfl⟩⟩
  simpa [Session.isFull, nextSession] using Nat.pos_iff_ne_zero.mp room

/-- A player for whom no session is created changes nothing. -/
theorem createAndJoin_of_error {h : Handle} {options : SessionOptions} (room : 0 < l.maxPlayers)
    (refused : (l.createAndJoin h options).1 = .error e) : (l.createAndJoin h options).2 = l := by
  unfold createAndJoin at refused ⊢
  cases hnamed : (l.connection h).session with
  | some current => rfl
  | none =>
    rw [hnamed] at refused
    dsimp only at refused ⊢
    cases hdraw : l.draw options with
    | error e => rfl
    | ok pair =>
      obtain ⟨s, l'⟩ := pair
      obtain ⟨-, rfl, rfl⟩ := draw_eq_ok_iff.mp hdraw
      obtain ⟨s, cs, joins⟩ := joins_nextSession room options hnamed
      rw [hdraw] at refused
      simp [joins, drawId] at refused

/-- A player who finds no session and for whom none is created changes nothing. -/
theorem findOrCreateAndJoin_of_error {h : Handle} (room : 0 < l.maxPlayers)
    (refused : (l.findOrCreateAndJoin h).1 = .error e) : (l.findOrCreateAndJoin h).2 = l := by
  rcases l.findOrCreateAndJoin_cases h with ⟨s, -, hjoin⟩ | hcreate
  · rw [hjoin] at refused ⊢
    exact joinSession_of_error refused
  · rw [hcreate] at refused ⊢
    exact createAndJoin_of_error room refused

/-- Whoever cannot leave changes nothing. -/
theorem leave_of_error {h : Handle} (hl : l.Consistent drawn)
    (refused : (l.leave h).1 = .error e) : (l.leave h).2 = l := by
  have houtcome := leaveOutcome_leave hl h
  generalize l.leave h = outcome at houtcome refused ⊢
  cases houtcome with
  | dismissed => cases refused
  | refused => rfl

/-- Whoever cannot change options changes nothing. -/
theorem setOptions_of_error {h : Handle} {options : SessionOptions}
    (refused : (l.setOptions h options).1 = .error e) : (l.setOptions h options).2 = l := by
  have houtcome := l.optionsOutcome_setOptions h options
  generalize l.setOptions h options = outcome at houtcome refused ⊢
  cases houtcome with
  | changed => cases refused
  | refused => rfl

/-- A broadcast to a session that is not there is none. -/
theorem broadcast_of_error {id : SessionId} {p : Packet} {excluding : Option ConnectionId}
    (refused : (l.broadcast id p excluding).1 = .error e) :
    (l.broadcast id p excluding).2 = l := by
  unfold broadcast at refused ⊢
  split
  · rfl
  · next s hs => simp [hs] at refused

/-- Why an operation is refused, if it is. -/
def refusal? (l : Lobby) : Operation → Option SessionError
  | .create options => refusalOf (l.create options).1
  | .createAndJoin h options => refusalOf (l.createAndJoin h options).1
  | .join id h => refusalOf (l.join id h).1
  | .findOrCreateAndJoin h => refusalOf (l.findOrCreateAndJoin h).1
  | .leave h => refusalOf (l.leave h).1
  | .setOptions h options => refusalOf (l.setOptions h options).1
  | .broadcast id p excluding => refusalOf (l.broadcast id p excluding).1
  | _ => none

/-- An operation that is refused leaves a consistent lobby whose sessions have room for one as it
was. -/
theorem perform_of_refused (hl : l.Consistent drawn) (room : 0 < l.maxPlayers) (op : Operation)
    (refused : l.refusal? op = some e) : l.perform op = l := by
  cases op with
  | create options => exact create_of_error (refusalOf_eq_some_iff.mp refused)
  | createAndJoin h options => exact createAndJoin_of_error room (refusalOf_eq_some_iff.mp refused)
  | join id h => exact join_of_error (refusalOf_eq_some_iff.mp refused)
  | findOrCreateAndJoin h =>
    exact findOrCreateAndJoin_of_error room (refusalOf_eq_some_iff.mp refused)
  | leave h => exact leave_of_error hl (refusalOf_eq_some_iff.mp refused)
  | setOptions h options => exact setOptions_of_error (refusalOf_eq_some_iff.mp refused)
  | broadcast id p excluding => exact broadcast_of_error (refusalOf_eq_some_iff.mp refused)
  | tickAll | sweepEmpty | shutdownAll | close | reorder | reorderMembers => cases refused

end Lobby

end PlayServer
