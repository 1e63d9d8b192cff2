import PlayServer.Proofs.Login.Check
import PlayServer.Proofs.Server.Run
import Mathlib.Data.List.Induction

/-!
# Who has logged in

In every run of a server, whatever comes in and in whatever order, a connection carries a login
exactly when it has logged in, it stays logged in under that login, and every member of a session
has logged in: with a packet whose credentials the store accepted when it came in.

`step_cases` says what an event can do. `Secure` is what every event keeps; it speaks of a predicate
`proved`, which a run instantiates with the log-ins that lie behind.
-/

namespace PlayServer.ServerState

/-- All accounts stand under logins that are not empty. -/
def NamedAccounts (s : ServerState) : Prop := ∀ a ∈ s.store.accounts, a.login ≠ ""

/-- A change of the accounts: the lobby stays as it is, and accounts keep logins that are not
empty. -/
structure AccountStep (s s' : ServerState) : Prop where
  lobby : s'.lobby = s.lobby
  genuine : s.Genuine → s'.Genuine
  named : s.NamedAccounts → s'.NamedAccounts

/-- A valid login is not empty. -/
theorem ne_empty_of_validateLogin {login : String} (valid : validateLogin login = .ok ()) :
    login ≠ "" := by
  rintro rfl
  cases valid

/-- Opening an account names it. -/
theorem accountStep_create (s : ServerState) (login email password : String)
    (salt : Vector UInt8 16) :
    AccountStep s { s with store := (s.store.createAccount login email password salt).2 } := by
  refine ⟨rfl, id, fun named a ha => ?_⟩
  dsimp only at ha
  unfold AccountStore.createAccount at ha
  split at ha
  · exact named a ha
  next valid =>
  split at ha
  · exact named a ha
  split at ha
  · exact named a ha
  rcases List.mem_append.mp ha with hold | hnew
  · exact named a hold
  · obtain rfl := List.mem_singleton.mp hnew
    exact ne_empty_of_validateLogin valid

/-- Banning renames no account. -/
theorem accountStep_setBanned (s : ServerState) (login : String) (banned : Bool) :
    AccountStep s { s with store := (s.store.setBanned login banned).2 } := by
  refine ⟨rfl, id, fun named a ha => ?_⟩
  dsimp only at ha
  unfold AccountStore.setBanned at ha
  split at ha
  · exact named a ha
  · obtain ⟨b, hb, rfl⟩ := List.mem_map.mp ha
    split <;> exact named b hb

/-- A new character renames no account. -/
theorem accountStep_addCharacter (s : ServerState) (login name : String) (classId level : UInt8) :
    AccountStep s { s with store := (s.store.addCharacter login name classId level).2 } := by
  refine ⟨rfl, id, fun named a ha => ?_⟩
  dsimp only at ha
  unfold AccountStore.addCharacter at ha
  split at ha <;> exact named a ha

/-- All that an event can do: it has an effect that admits at most who has logged in, it is a log-in
request, or it changes the accounts. -/
theorem step_cases {s : ServerState} (genuine : s.Genuine) (e : Event) :
    Effect (fun h => (s.connection h).isAuthenticated = true) s (s.step e) ∨
      (∃ front h p, e = .packet front h p ∧ s.routeOf h p = .login ∧
        LoginStep h p s (s.step e)) ∨
      AccountStep s (s.step e) := by
  cases e with
  | packet front h p =>
    by_cases hroute : s.routeOf h p = .login
    · have hstep : s.step (.packet front h p) = (s.authenticate h p).2 := by
        cases front with
        | gateway => simp only [step, handle, handleAtGateway, hroute, serveShared]
        | game => simp only [step, handle, handleAtGame, hroute, serveShared]
      exact .inr (.inl ⟨front, h, p, rfl, hroute, hstep ▸ loginStep_authenticate genuine h p⟩)
    · have hhandled := effect_handle s h p front genuine hroute
      left
      apply hhandled.mono
      rintro k ⟨rfl, hauth⟩
      exact hauth
  | close h => exact .inl (.close h)
  | disconnect front h =>
    cases front with
    | gateway => exact .inl (.refl s)
    | game => exact .inl (effect_leaveOnDisconnect s h)
  | tick delta => exact .inl (effect_tick s delta)
  | sweep => exact .inl (effect_sweep s)
  | settle => exact .inl (effect_settle s)
  | createAccount login email password salt =>
    exact .inr (.inr (accountStep_create s login email password salt))
  | setBanned login banned => exact .inr (.inr (accountStep_setBanned s login banned))
  | addCharacter login name classId level =>
    exact .inr (.inr (accountStep_addCharacter s login name classId level))
  | setAvailable available => exact .inr (.inr ⟨rfl, id, id⟩)
  | announce call d hd =>
    refine .inr (.inr ⟨rfl, ?_, id⟩)
    intro genuine d' hd'
    rcases List.mem_append.mp hd' with hold | hnew
    · exact genuine d' hold
    · obtain rfl := List.mem_singleton.mp hnew
      exact hd
  | reorder sessions =>
    exact .inl (.of_lobby (s.lobby.quietMoves_reorder sessions).of_quiet)
  | reorderMembers id members =>
    exact .inl (.of_lobby (s.lobby.quietMoves_reorderMembers id members).of_quiet)

/-- A log-in leaves who has logged in logged in under the same login. -/
theorem LoginStep.keeps {s s' : ServerState} {h k : Handle} {p : Packet} {login : String}
    (hstep : LoginStep h p s s')
    (hstate : (s.connection k).loginState = (.authenticated, some login)) :
    (s'.connection k).loginState = (.authenticated, some login) := by
  by_cases hk : k = h
  · subst hk
    -- No log-in may begin any more.
    rcases hstep.own with hsame | ⟨hmay, -⟩
    · exact hsame.trans hstate
    · have hauth : (s.connection k).auth = .authenticated := congrArg Prod.fst hstate
      simp [Connection.mayBeginAuth, hauth] at hmay
  · exact (hstep.frame.others k hk).trans hstate

/-- An event leaves who has logged in logged in under the same login. -/
theorem keeps_step {s : ServerState} (genuine : s.Genuine) (e : Event) {h : Handle}
    {login : String} (hstate : (s.connection h).loginState = (.authenticated, some login)) :
    ((s.step e).connection h).loginState = (.authenticated, some login) := by
  rcases step_cases genuine e with heffect | ⟨_, _, _, -, -, hlogin⟩ | haccounts
  · exact (heffect.loginState h).trans hstate
  · exact hlogin.keeps hstate
  · rw [connection, haccounts.lobby]
    exact hstate

/-- Where a connection can stand with its log-in between two events. -/
inductive Settled : AuthState × Option String → Prop where
  | notAuthenticated : Settled (.notAuthenticated, none)
  | failed : Settled (.failed, none)
  | authenticated {login : String} (named : login ≠ "") : Settled (.authenticated, some login)

/-- What holds of the log-ins of a server between two events, given which log-ins were proved. -/
structure Secure (proved : Handle → String → Prop) (s : ServerState) : Prop where
  settled : ∀ h, Settled (s.connection h).loginState
  proofs : ∀ h login, (s.connection h).loginState = (.authenticated, some login) → proved h login
  members : ∀ m, s.lobby.HasMember m →
    (s.connection m.handle).loginState = (.authenticated, some m.login)
  named : s.NamedAccounts
  genuine : s.Genuine

/-- A store that declines keeps the logins of its accounts. -/
theorem NamedAccounts.declines {s s' : ServerState} (named : s.NamedAccounts)
    (hstore : s.store.Declines s'.store) : s'.NamedAccounts := by
  intro a ha
  have hlogin : a.login ∈ s.store.accounts.map (·.login) :=
    hstore.logins ▸ List.mem_map_of_mem ha
  obtain ⟨b, hb, heq⟩ := List.mem_map.mp hlogin
  exact heq ▸ named b hb

/-- Credentials that a store accepts are those of one of its accounts. -/
theorem ne_empty_of_accepts {s : ServerState} {login password : String} (named : s.NamedAccounts)
    (haccepts : s.store.Accepts login password) : login ≠ "" := by
  obtain ⟨-, hsome⟩ := AccountStore.ask_eq_ok_iff.mp haccepts.known
  obtain ⟨a, ha⟩ := Option.isSome_iff_exists.mp hsome
  have hlogin : a.login = login := by simpa using List.find?_some ha
  exact hlogin ▸ named a (List.mem_of_find?_eq_some ha)

/-- Whoever has logged in has logged in under some login. -/
theorem Settled.exists_login {c : Connection} (hc : Settled c.loginState)
    (hauth : c.auth = .authenticated) : ∃ login, c.loginState = (.authenticated, some login) := by
  generalize hstate : c.loginState = state at hc
  have hfirst : state.1 = .authenticated := by rw [← hstate, ← hauth]; rfl
  cases hc with
  | notAuthenticated => cases hfirst
  | failed => cases hfirst
  | @authenticated login => exact ⟨login, rfl⟩

namespace Secure

variable {proved : Handle → String → Prop} {s s' : ServerState}

/-- More log-ins may count as proved. -/
theorem mono {proved' : Handle → String → Prop} (hs : Secure proved s)
    (hmore : ∀ h login, proved h login → proved' h login) : Secure proved' s :=
  { hs with proofs := fun h login hstate => hmore h login (hs.proofs h login hstate) }

/-- An effect that admits only who has logged in keeps a server secure. -/
theorem effect (hs : Secure proved s)
    (he : Effect (fun h => (s.connection h).isAuthenticated = true) s s') : Secure proved s' where
  settled h := he.loginState h ▸ hs.settled h
  proofs h login hstate := hs.proofs h login (he.loginState h ▸ hstate)
  members m hm := by
    rw [he.loginState]
    obtain ⟨n, hmoves⟩ := he.moves
    rcases hmoves.members hm with hold | ⟨hauth, hlogin⟩
    · exact hs.members m hold
    · obtain ⟨login, hstate⟩ := (hs.settled m.handle).exists_login (by
        simpa [Connection.isAuthenticated] using hauth)
      rw [hlogin login (congrArg Prod.snd hstate)]
      exact hstate
  named := hs.named.declines he.store
  genuine := he.genuine hs.genuine

/-- A change of the accounts keeps a server secure. -/
theorem accountStep (hs : Secure proved s) (hstep : AccountStep s s') : Secure proved s' where
  settled h := by
    rw [connection, hstep.lobby]
    exact hs.settled h
  proofs h login hstate := by
    rw [connection, hstep.lobby] at hstate
    exact hs.proofs h login hstate
  members m hm := by
    rw [connection, hstep.lobby]
    exact hs.members m (hstep.lobby ▸ hm)
  named := hstep.named hs.named
  genuine := hstep.genuine hs.genuine

/-- A log-in keeps a server secure: if it succeeds, it is proved by credentials that the store
accepted when the request came in. -/
theorem loginStep {h : Handle} {p : Packet} (hs : Secure proved s) (hstep : LoginStep h p s s') :
    Secure (fun k login => proved k login ∨ (k = h ∧ ∃ password,
      LoginRequest.parse p.body = .ok ⟨login, password⟩ ∧ s.store.Accepts login password)) s' := by
  refine ⟨?_, ?_, ?_, ?_, ?_⟩
  · intro k
    by_cases hk : k = h
    · subst hk
      rcases hstep.own with hsame | ⟨-, hfailed | ⟨request, -, haccepts, hdone⟩⟩
      · exact hsame ▸ hs.settled k
      · exact hfailed ▸ .failed
      · exact hdone ▸ .authenticated (ne_empty_of_accepts hs.named haccepts)
    · exact hstep.frame.others k hk ▸ hs.settled k
  · intro k login hstate
    by_cases hk : k = h
    · subst hk
      rcases hstep.own with hsame | ⟨-, hfailed | ⟨request, hparse, haccepts, hdone⟩⟩
      · exact .inl (hs.proofs k login (hsame ▸ hstate))
      · rw [hfailed] at hstate
        cases hstate
      · rw [hdone] at hstate
        cases hstate
        exact .inr ⟨rfl, request.password, hparse, haccepts⟩
    · exact .inl (hs.proofs k login (hstep.frame.others k hk ▸ hstate))
  · intro m hm
    exact hstep.keeps (hs.members m (hstep.frame.members m hm))
  · exact hs.named.declines hstep.frame.store
  · intro d hd
    exact hs.genuine d (hstep.frame.disturbances hd)

end Secure

/-- Some earlier event of a run was a log-in request on the connection, with a login and a password
that the store accepted when the request came in. -/
def Proved (s : ServerState) (events : List Event) (h : Handle) (login : String) : Prop :=
  ∃ earlier front p later password, events = earlier ++ .packet front h p :: later ∧
    (s.run earlier).routeOf h p = .login ∧
    LoginRequest.parse p.body = .ok ⟨login, password⟩ ∧
    (s.run earlier).store.Accepts login password

/-- What was proved stays proved. -/
theorem Proved.concat {s : ServerState} {events : List Event} {h : Handle} {login : String}
    (hproved : s.Proved events h login) (e : Event) : s.Proved (events ++ [e]) h login := by
  obtain ⟨earlier, front, p, later, password, rfl, hrest⟩ := hproved
  exact ⟨earlier, front, p, later ++ [e], password, by simp, hrest⟩

/-- A run keeps a server secure. -/
theorem Secure.run {s : ServerState} (hs : Secure (s.Proved []) s) (events : List Event) :
    Secure (s.Proved events) (s.run events) := by
  induction events using List.reverseRecOn with
  | nil => exact hs
  | append_singleton events e ih =>
    rw [run_concat]
    rcases step_cases ih.genuine e with heffect | ⟨front, h, p, rfl, hroute, hlogin⟩ | haccounts
    · exact (ih.effect heffect).mono fun h login hproved => hproved.concat e
    · apply (ih.loginStep hlogin).mono
      intro k login hproved
      rcases hproved with hold | ⟨rfl, password, hparse, haccepts⟩
      · exact hold.concat _
      · exact ⟨events, front, p, [], password, rfl, hroute, hparse, haccepts⟩
    · exact (ih.accountStep haccounts).mono fun h login hproved => hproved.concat e

/-- In a run of a secure server, who has logged in stays logged in under the same login. -/
theorem Secure.keeps_run {s : ServerState} (hs : Secure (s.Proved []) s) (events later : List Event)
    {h : Handle} {login : String}
    (hstate : ((s.run events).connection h).loginState = (.authenticated, some login)) :
    ((s.run (events ++ later)).connection h).loginState = (.authenticated, some login) := by
  induction later using List.reverseRecOn with
  | nil => rwa [List.append_nil]
  | append_singleton later e ih =>
    rw [← List.append_assoc, run_concat]
    exact keeps_step (hs.run (events ++ later)).genuine e ih

/-- A server is secure on which nobody has logged in and no session has members. -/
theorem secure_of_fresh {s : ServerState}
    (fresh : ∀ c ∈ s.lobby.connections.opened, c.auth = .notAuthenticated ∧ c.login = none)
    (empty : ∀ session ∈ s.lobby.sessions, session.members = [])
    (valid : ∀ a ∈ s.store.accounts, validateLogin a.login = .ok ()) (genuine : s.Genuine)
    (proved : Handle → String → Prop) : Secure proved s := by
  have hall : ∀ h, (s.connection h).loginState = (.notAuthenticated, none) := by
    intro h
    by_cases hgiven : h ∈ s.lobby.connections.handles
    · have hlt : h < s.lobby.connections.opened.length := List.mem_range.mp hgiven
      have hget : s.connection h = s.lobby.connections.opened[h] := by
        simp [connection, Lobby.connection, Connections.get, List.getD_eq_getElem?_getD,
          List.getElem?_eq_getElem hlt]
      obtain ⟨hauth, hlogin⟩ := fresh _ (List.getElem_mem hlt)
      rw [hget, Connection.loginState, hauth, hlogin]
    · have hvacant : s.connection h = Connections.vacant h := Connections.get_eq_vacant hgiven
      rw [hvacant]
      rfl
  refine ⟨?_, ?_, ?_, ?_, genuine⟩
  · intro h
    exact hall h ▸ .notAuthenticated
  · intro h login hstate
    rw [hall] at hstate
    cases hstate
  · intro m hm
    obtain ⟨session, hsession, hmember⟩ := hm
    rw [empty session hsession] at hmember
    cases hmember
  · intro a ha
    exact ne_empty_of_validateLogin (valid a ha)

/-- In every run from a server on which nobody has logged in, whatever happens and in whatever
order: a connection carries a login exactly when it has logged in, and then one that is not empty,
and no log-in is left under way; whoever has logged in stays logged in under the same login; and
every member of a session has logged in under the login that it is recorded with, by an earlier
request whose login the store knew and had not banned, and whose password it verified. -/
theorem authentication_of_run (s : ServerState)
    (fresh : ∀ c ∈ s.lobby.connections.opened, c.auth = .notAuthenticated ∧ c.login = none)
    (empty : ∀ session ∈ s.lobby.sessions, session.members = [])
    (valid : ∀ a ∈ s.store.accounts, validateLogin a.login = .ok ()) (genuine : s.Genuine)
    (events : List Event) :
    (∀ h, let c := (s.run events).connection h
      (c.login.isSome = true ↔ c.auth = .authenticated) ∧ c.login ≠ some "" ∧
        c.auth ≠ .inProgress) ∧
    (∀ h login, ((s.run events).connection h).auth = .authenticated →
      ((s.run events).connection h).login = some login → ∀ later,
        ((s.run (events ++ later)).connection h).auth = .authenticated ∧
        ((s.run (events ++ later)).connection h).login = some login) ∧
    (∀ session ∈ (s.run events).lobby.sessions, ∀ m ∈ session.members,
      ((s.run events).connection m.handle).auth = .authenticated ∧
      ((s.run events).connection m.handle).login = some m.login ∧
      s.Proved events m.handle m.login) := by
  have hs : Secure (s.Proved []) s := secure_of_fresh fresh empty valid genuine _
  have hrun := hs.run events
  refine ⟨?_, ?_, ?_⟩
  · intro h c
    have hsettled := hrun.settled h
    generalize hstate : ((s.run events).connection h).loginState = state at hsettled
    have hauth : c.auth = state.1 := congrArg Prod.fst hstate
    have hlogin : c.login = state.2 := congrArg Prod.snd hstate
    rw [hauth, hlogin]
    cases hsettled with
    | notAuthenticated => simp
    | failed => simp
    | authenticated named => simpa using named
  · intro h login hauth hlogin later
    have hkept := hs.keeps_run events later (Prod.ext hauth hlogin)
    exact ⟨congrArg Prod.fst hkept, congrArg Prod.snd hkept⟩
  · intro session hsession m hm
    have hmember := hrun.members m ⟨session, hsession, hm⟩
    exact ⟨congrArg Prod.fst hmember, congrArg Prod.snd hmember,
      hrun.proofs m.handle m.login hmember⟩

/-- An account. -/
def alice : Account where
  id := 1
  login := "alice"
  email := ""
  credential := .derive "secret" (AccountStore.saltFor 1) 1 (by decide)

/-- A server with one account and two connections, as they are when they open. -/
def oneAccount : ServerState where
  lobby :=
    { maxPlayers := 4
      maxSessions := 16
      connections :=
        { opened := [{ id := ⟨1⟩, address := default }, { id := ⟨2⟩, address := default }] } }
  store := { AccountStore.empty with accounts := [alice] }
  gateway := { maxPerAddress := 8 }
  game := { maxPerAddress := 8 }

/-- A client logs in at the gateway and opens a session at the game front end. -/
def loginThenCreate : List Event :=
  [.packet .gateway 0
      ⟨Service.authentication, Method.loginRequest, 1, LoginRequest.encode ⟨"alice", "secret"⟩⟩,
    .packet .game 0 ⟨Service.game, Method.createSession, 2, []⟩]

/-- The session then has a member, whose log-in lies behind. -/
theorem authentication_of_run_loginThenCreate :
    (∀ c ∈ oneAccount.lobby.connections.opened, c.auth = .notAuthenticated ∧ c.login = none) ∧
      (∀ session ∈ oneAccount.lobby.sessions, session.members = []) ∧
      (∀ a ∈ oneAccount.store.accounts, validateLogin a.login = .ok ()) ∧ oneAccount.Genuine ∧
      ∃ session ∈ (oneAccount.run loginThenCreate).lobby.sessions, ∃ m ∈ session.members,
        m.login = "alice" ∧ oneAccount.Proved loginThenCreate m.handle "alice" := by
  have hfresh : ∀ c ∈ oneAccount.lobby.connections.opened,
      c.auth = .notAuthenticated ∧ c.login = none := by decide
  have hempty : ∀ session ∈ oneAccount.lobby.sessions, session.members = [] := by simp [oneAccount]
  have hvalid : ∀ a ∈ oneAccount.store.accounts, validateLogin a.login = .ok () := by
    intro a ha
    obtain rfl := List.mem_singleton.mp ha
    rfl
  have hgenuine : oneAccount.Genuine := by simp [Genuine, oneAccount]
  have hmember : ((oneAccount.run loginThenCreate).lobby.sessions.any fun session =>
      session.members.any (·.login == "alice")) = true := by decide +kernel
  obtain ⟨session, hsession, hany⟩ := List.any_eq_true.mp hmember
  obtain ⟨m, hm, hlogin⟩ := List.any_eq_true.mp hany
  have hlogin : m.login = "alice" := by simpa using hlogin
  obtain ⟨-, -, hmembers⟩ :=
    authentication_of_run oneAccount hfresh hempty hvalid hgenuine loginThenCreate
  have hproved := (hmembers session hsession m hm).2.2
  exact ⟨hfresh, hempty, hvalid, hgenuine, session, hsession, m, hm, hlogin, hlogin ▸ hproved⟩

end PlayServer.ServerState
