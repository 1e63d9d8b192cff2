import PlayServer.Game.Request

/-!
# Reading game requests

Whether a body can be read as a request to the game service depends on its method and on its length
alone: `GameRequest.read_eq_error_iff`. Options and sessions that do not exist read well.
-/

namespace PlayServer

namespace Cursor

/-- A 32-bit number is read off the front of a body unless it is too short. -/
theorem u32_eq_none_iff {body : Bytes} : ((mk body 0).u32).1 = none ↔ body.length < 4 := by
  simp only [u32, number, read, remaining]
  split
  · next hle => simpa using hle
  · next hlt => simpa using hlt

end Cursor

/-- Two bytes are read off the front of a body unless it is too short. -/
theorem readOptionBytes_eq_error_iff {body : Bytes} {e : BodyError} :
    readOptionBytes body = .error e ↔ body.length < 2 ∧ e = .truncated 2 body.length := by
  match body with
  | [] => simp [readOptionBytes, eq_comm]
  | [_] => simp [readOptionBytes, eq_comm]
  | _ :: _ :: rest =>
    have hlong : ¬ rest.length + 1 + 1 < 2 := by omega
    simp [readOptionBytes, hlong]

namespace GameRequest

variable {body : Bytes}

/-- A request to create a session is a body of no bytes or of two at least. -/
theorem read_createSession (whole : body.length ≠ 1) :
    ∃ options, read Method.createSession body = .ok (some (create options)) := by
  match body with
  | [] => exact ⟨_, rfl⟩
  | _ :: _ :: _ => exact ⟨_, rfl⟩

/-- A request to join a session is read off the id that its body begins with. -/
theorem read_joinSession_eq (body : Bytes) :
    read Method.joinSession body = match ((Cursor.mk body 0).u32).1 with
      | none => .error (.truncated 4 body.length)
      | some id => .ok (some (if id = 0 then joinAny else join ⟨id⟩)) := rfl

/-- A request to join a session is a body of four bytes at least. -/
theorem read_joinSession (whole : 4 ≤ body.length) :
    ∃ request, (request = joinAny ∨ ∃ id, request = join id) ∧
      read Method.joinSession body = .ok (some request) := by
  have hread := read_joinSession_eq body
  cases hid : ((Cursor.mk body 0).u32).1 with
  | none => exact absurd (Cursor.u32_eq_none_iff.mp hid) (Nat.not_lt_of_le whole)
  | some id =>
    rw [hid] at hread
    refine ⟨_, ?_, hread⟩
    split
    · exact .inl rfl
    · exact .inr ⟨_, rfl⟩

/-- A request to set options is a body of two bytes at least. -/
theorem read_setSessionOptions (whole : 2 ≤ body.length) :
    ∃ options, read Method.setSessionOptions body = .ok (some (setOptions options)) := by
  match body with
  | _ :: _ :: _ => exact ⟨_, rfl⟩

/-- A request cannot be read only if it is too short for its method, and then the error tells how
many bytes it takes and how many there are. -/
theorem read_eq_error_iff {method : UInt16} {e : BodyError} :
    read method body = .error e ↔
      method = Method.createSession ∧ body.length = 1 ∧ e = .truncated 2 1 ∨
      method = Method.joinSession ∧ body.length < 4 ∧ e = .truncated 4 body.length ∨
      method = Method.setSessionOptions ∧ body.length < 2 ∧ e = .truncated 2 body.length := by
  constructor
  · intro hread
    unfold read at hread
    split at hread
    · cases hread
    split at hread
    · next hmethod =>
      refine .inl ⟨by simpa using hmethod, ?_⟩
      obtain _ | ⟨b, _ | ⟨b', rest⟩⟩ := body
      · cases hread
      · cases hread
        exact ⟨rfl, rfl⟩
      · cases hread
    split at hread
    · next hmethod =>
      refine .inr (.inl ⟨by simpa using hmethod, ?_⟩)
      split at hread
      · next hshort =>
        cases hread
        exact ⟨Cursor.u32_eq_none_iff.mp hshort, rfl⟩
      · cases hread
    split at hread
    · cases hread
    split at hread
    · cases hread
    split at hread
    · next hmethod =>
      refine .inr (.inr ⟨by simpa using hmethod, readOptionBytes_eq_error_iff.mp ?_⟩)
      cases hbytes : readOptionBytes body with
      | error e' =>
        rw [hbytes] at hread
        exact congrArg Except.error (Except.error.inj hread)
      | ok pair =>
        rw [hbytes] at hread
        cases hread
    · cases hread
  · rintro (⟨rfl, hlength, rfl⟩ | ⟨rfl, hlength, rfl⟩ | ⟨rfl, hlength, rfl⟩)
    · obtain ⟨b, rfl⟩ := List.length_eq_one_iff.mp hlength
      rfl
    · rw [read_joinSession_eq, Cursor.u32_eq_none_iff.mpr hlength]
    · have hread : read Method.setSessionOptions body = (readOptionBytes body).map fun pair =>
          some (setOptions (SessionOptions.ofBytes pair.1 pair.2)) := rfl
      rw [hread, readOptionBytes_eq_error_iff.mpr ⟨hlength, rfl⟩]
      rfl

end GameRequest

end PlayServer
