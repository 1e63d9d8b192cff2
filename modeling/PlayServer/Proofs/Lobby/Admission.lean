import PlayServer.Proofs.Lobby.Run

/-!
# Log-ins and members under moves

Moves of a lobby change no log-in: the state of authentication and the login of every connection
stay what they are. And they bring in no member but the one that they admit, who is recorded under
the login of the connection.
-/

namespace PlayServer

/-- Where a connection stands with its log-in: the state of authentication and the login. -/
def Connection.loginState (c : Connection) : AuthState × Option String := (c.auth, c.login)

/-- A connection that is logged in under a login has logged in. -/
theorem Connection.isAuthenticated_of_loginState {c : Connection} {login : String}
    (player : c.loginState = (.authenticated, some login)) : c.isAuthenticated = true := by
  have hauth : c.auth = .authenticated := congrArg Prod.fst player
  rw [isAuthenticated, hauth]
  rfl

/-- Standing includes where a connection stands with its log-in. -/
theorem Connection.SameStanding.loginState {c c' : Connection} (h : c.SameStanding c') :
    c'.loginState = c.loginState := by
  rw [Connection.loginState, h.auth, h.login, Connection.loginState]

/-- Releasing a connection leaves its log-in alone. -/
theorem Connection.loginState_releaseSession (c : Connection) (id : SessionId) :
    (c.releaseSession id).loginState = c.loginState := by
  unfold releaseSession
  split <;> rfl

/-- Changing one connection leaves the log-ins of all alone if it leaves that one alone. -/
theorem Connections.loginState_set {cs : Connections} {h : Handle} {c : Connection}
    (hc : c.loginState = (cs.get h).loginState) (h' : Handle) :
    ((cs.set h c).get h').loginState = (cs.get h').loginState := by
  rw [get_set]
  split
  · next he => rw [he, hc]
  · rfl

/-- Releasing a connection makes no connection name a session that it did not name. -/
theorem Connections.session_of_release {cs : Connections} {h k : Handle} {released id : SessionId}
    (named : ((cs.update h (·.releaseSession released)).get k).session = some id) :
    (cs.get k).session = some id := by
  rw [get_update] at named
  split at named
  · next hk =>
    unfold Connection.releaseSession at named
    split at named
    · cases named
    · exact hk ▸ named
  · exact named

namespace Lobby

/-- A session of the lobby has this member. -/
def HasMember (l : Lobby) (m : Member) : Prop := ∃ s ∈ l.sessions, m ∈ s.members

/-- Storing a session brings in no members but those of this session. -/
theorem hasMember_of_store {l : Lobby} {s : Session} {m : Member}
    (h : (l.store s).HasMember m) : l.HasMember m ∨ m ∈ s.members := by
  obtain ⟨t, ht, hm⟩ := h
  unfold store at ht
  split at ht
  · next known =>
    rcases (mem_replace (session?_isSome_iff.mp known)).mp ht with rfl | ⟨ht, -⟩
    · exact .inr hm
    · exact .inl ⟨t, ht, hm⟩
  · exact .inl ⟨t, ht, hm⟩

/-- A move leaves all log-ins alone. -/
theorem Move.loginState {l l' : Lobby} {c : Change} (move : Move l c l') (h : Handle) :
    (l'.connection h).loginState = (l.connection h).loginState := by
  unfold connection
  cases move with
  | @admitted s s' cs joiner held joins =>
    obtain ⟨-, -, -, -, -, rfl⟩ := Session.join_eq_ok_iff.mp joins
    have hsame : ({ l.connections.get joiner with session := some s.id } : Connection).loginState =
        (l.connections.get joiner).loginState := rfl
    rw [connections_store]
    exact Connections.loginState_set hsame h
  | dismissed held leaves =>
    obtain ⟨m, -, -, -, rfl⟩ := Session.leave_eq_some_iff.mp leaves
    rw [connections_store]
    exact Connections.loginState_set (Connection.loginState_releaseSession _ _) h
  | reformed held options => rw [connections_store]
  | advanced held elapsed => rw [connections_store]
  | touched same => exact (same h).loginState
  | released names gone =>
    exact Connections.loginState_set (Connection.loginState_releaseSession _ _) h
  | drawn room => rfl
  | opened room options => rfl
  | reclaimed => rfl
  | reordered order => rfl
  | reorderedMembers held order => rw [connections_store]

/-- After a move a connection that was not admitted names at most the session that it named. -/
theorem Move.session {l l' : Lobby} {c : Change} (move : Move l c l') {k : Handle}
    (outside : c.joiner? ≠ some k) {id : SessionId} (named : (l'.connection k).session = some id) :
    (l.connection k).session = some id := by
  unfold connection at named ⊢
  cases move with
  | @admitted s s' cs h held joins =>
    obtain ⟨-, -, -, -, -, rfl⟩ := Session.join_eq_ok_iff.mp joins
    have hk : k ≠ h := fun hk => outside (hk ▸ rfl)
    rwa [connections_store, Connections.get_set, if_neg hk] at named
  | dismissed held leaves =>
    obtain ⟨m, -, -, -, rfl⟩ := Session.leave_eq_some_iff.mp leaves
    rw [connections_store] at named
    exact Connections.session_of_release named
  | reformed held options => rwa [connections_store] at named
  | advanced held elapsed => rwa [connections_store] at named
  | touched same => exact (same k).session ▸ named
  | released names gone => exact Connections.session_of_release named
  | drawn room => exact named
  | opened room options => exact named
  | reclaimed => exact named
  | reordered order => exact named
  | reorderedMembers held order => rwa [connections_store] at named

/-- A move brings in no member but the one that it admits, who is recorded under the login of the
connection if that has one. -/
theorem Move.members {l l' : Lobby} {c : Change} (move : Move l c l') {m : Member}
    (hm : l'.HasMember m) :
    l.HasMember m ∨ (c.joiner? = some m.handle ∧
      ∀ login, (l.connection m.handle).login = some login → m.login = login) := by
  cases move with
  | @admitted s s' cs h held joins =>
    obtain ⟨-, -, -, -, rfl, -⟩ := Session.join_eq_ok_iff.mp joins
    rcases hasMember_of_store hm with hold | hnew
    · exact .inl hold
    · rcases List.mem_append.mp hnew with hold | hnew
      · exact .inl ⟨s, (mem_of_session? held).1, hold⟩
      · obtain rfl := List.mem_singleton.mp hnew
        refine .inr ⟨rfl, fun login hlogin => ?_⟩
        have hgiven : (l.connections.get h).login = some login := hlogin
        simp [Session.loginOf, hgiven]
  | @dismissed s s' cs id login held leaves =>
    obtain ⟨_, -, -, rfl, -⟩ := Session.leave_eq_some_iff.mp leaves
    rcases hasMember_of_store hm with hold | hkept
    · exact .inl hold
    · exact .inl ⟨s, (mem_of_session? held).1, List.mem_of_mem_filter hkept⟩
  | @reformed s held options =>
    exact .inl ((hasMember_of_store hm).elim id fun hkept => ⟨s, (mem_of_session? held).1, hkept⟩)
  | @advanced s held elapsed =>
    exact .inl ((hasMember_of_store hm).elim id fun hkept => ⟨s, (mem_of_session? held).1, hkept⟩)
  | touched same => exact .inl hm
  | released names gone => exact .inl hm
  | drawn room => exact .inl hm
  | opened room options =>
    obtain ⟨s, hs, hms⟩ := hm
    rcases List.mem_append.mp hs with hold | hnew
    · exact .inl ⟨s, List.mem_of_mem_filter hold, hms⟩
    · obtain rfl := List.mem_singleton.mp hnew
      simp [nextSession] at hms
  | reclaimed =>
    obtain ⟨s, hs, hms⟩ := hm
    exact .inl ⟨s, List.mem_of_mem_filter hs, hms⟩
  | reordered order =>
    obtain ⟨s, hs, hms⟩ := hm
    exact .inl ⟨s, order.mem_iff.mp hs, hms⟩
  | @reorderedMembers s members held order =>
    rcases hasMember_of_store hm with hold | hkept
    · exact .inl hold
    · exact .inl ⟨s, (mem_of_session? held).1, order.mem_iff.mp hkept⟩

namespace Moves

variable {who : Handle → Prop} {n : Nat} {l l' : Lobby}

/-- Moves leave all log-ins alone. -/
theorem loginState (h : Moves who l n l') (k : Handle) :
    (l'.connection k).loginState = (l.connection k).loginState := by
  induction h with
  | refl => rfl
  | tail _ last _ ih => rw [last.loginState, ih]

/-- After moves a connection that was not admitted names at most the session that it named. -/
theorem session (h : Moves who l n l') {k : Handle} (outside : ¬ who k) {id : SessionId}
    (named : (l'.connection k).session = some id) : (l.connection k).session = some id := by
  induction h with
  | refl => exact named
  | tail _ last admits ih => exact ih (last.session (fun hk => outside (admits k hk)) named)

/-- Moves bring in no members but those that they admit, who are recorded under the logins of their
connections if those have any. -/
theorem members (h : Moves who l n l') {m : Member} (hm : l'.HasMember m) :
    l.HasMember m ∨ (who m.handle ∧
      ∀ login, (l.connection m.handle).login = some login → m.login = login) := by
  induction h with
  | refl => exact .inl hm
  | tail before last admits ih =>
    rcases last.members hm with hold | ⟨hjoiner, hlogin⟩
    · exact ih hold
    · have hsame := congrArg Prod.snd (before.loginState m.handle)
      exact .inr ⟨admits _ hjoiner, fun login hl => hlogin login (hsame.trans hl)⟩

end Moves

end Lobby

end PlayServer
