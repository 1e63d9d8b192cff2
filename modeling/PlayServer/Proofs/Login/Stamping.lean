import PlayServer.Proofs.Login.Outcome

/-!
# Which accounts a log-in request stamps

The store stamps an account when the last check of its credentials passes, before the connection is
looked at again. So a stamp says that credentials were accepted, and not that somebody was logged
in: a connection that has closed is not logged in, but the account is stamped all the same.
`stamp_authenticate` says which outcomes may leave a stamp, and what the store is after each where
nothing comes in between.
-/

namespace PlayServer

namespace AccountStore

/-- The stamp of the last log-in to the account under a login. -/
def stamp? (s : AccountStore) (login : String) : Option Nat := (s.account? login).bind (·.lastLogin)

/-- No stamp has changed but under the logins of some. -/
def KeepsStamps (who : String → Prop) (s s' : AccountStore) : Prop :=
  ∀ login, ¬ who login → s'.stamp? login = s.stamp? login

variable {s s' s'' : AccountStore} {who who' : String → Prop}

/-- The stamp under a login once the account under one has been changed. -/
theorem stamp?_updateAccount (s : AccountStore) (login login' : String)
    (change : Account → Account) (keeps : ∀ a, (change a).login = a.login) :
    (s.updateAccount login change).stamp? login' =
      (s.account? login').bind fun a => (if a.login == login then change a else a).lastLogin := by
  have hsame : ((fun a : Account => a.login == login') ∘ fun a =>
      if a.login == login then change a else a) = fun a => a.login == login' := by
    funext a
    change ((if a.login == login then change a else a).login == login') = _
    split
    · rw [keeps]
    · rfl
  rw [stamp?, account?, updateAccount, List.find?_map, hsame, Option.bind_map, account?]
  rfl

namespace KeepsStamps

/-- Stores with the same accounts have the same stamps. -/
theorem of_accounts (same : s'.accounts = s.accounts) : KeepsStamps who s s' := by
  intro login _
  rw [stamp?, stamp?, account?, account?, same]

/-- Keeping goes on. -/
theorem trans (first : KeepsStamps who s s') (second : KeepsStamps who s' s'') :
    KeepsStamps who s s'' :=
  fun login hother => (second login hother).trans (first login hother)

/-- What is kept of all is kept of all others. -/
theorem mono (kept : KeepsStamps who s s') (wider : ∀ login, who login → who' login) :
    KeepsStamps who' s s' :=
  fun login hother => kept login fun hwho => hother (wider login hwho)

/-- Banning an account stamps none. -/
theorem setBanned (s : AccountStore) (login : String) (banned : Bool) :
    KeepsStamps who s (s.setBanned login banned).2 := by
  unfold AccountStore.setBanned
  split
  · exact of_accounts rfl
  · intro login' _
    refine (s.stamp?_updateAccount login login' (fun a => { a with banned }) fun _ => rfl).trans ?_
    apply Option.bind_congr
    intro a _
    split <;> rfl

/-- Stamping an account stamps no other, and none if it fails. -/
theorem touchLastLogin (s : AccountStore) (login : String) (now : Nat) :
    KeepsStamps (fun login' => login' = login ∧ (s.touchLastLogin login now).1 = .ok true) s
      (s.touchLastLogin login now).2 := by
  unfold AccountStore.touchLastLogin
  split
  · exact of_accounts rfl
  split
  · exact of_accounts rfl
  · intro login' hother
    have hother : login' ≠ login := by simpa using hother
    refine (s.stamp?_updateAccount login login' (fun a => { a with lastLogin := some now })
      fun _ => rfl).trans ?_
    apply Option.bind_congr
    intro a haccount
    have hlogin : a.login = login' := by simpa using List.find?_some haccount
    simp [hlogin, hother]

end KeepsStamps

end AccountStore

/-- A password is verified by the credential derived from it. -/
theorem Credential.verify_derive (password : String) (salt : Vector UInt8 16) (iterations : UInt32)
    (positive : iterations ≠ 0) :
    (derive password salt iterations positive).verify password = true := by
  simp [verify, derive]

namespace ServerState

open AccountStore (KeepsStamps)

variable {s : ServerState} {h : Handle} {p : Packet}

/-- A call of the store stamps what the store stamps if it gives the answer that the store gives,
and nothing if it gives another. -/
theorem stamps_callStore {α : Type} (s : ServerState) (call : StoreCall)
    (override : Bool → Option α) (run : AccountStore → Except StoreError α × AccountStore)
    (who : Except StoreError α → String → Prop)
    (stamps : ∀ store, KeepsStamps (who (run store).1) store (run store).2) :
    KeepsStamps (who (s.callStore call override run).1) s.store
      (s.callStore call override run).2.store := by
  unfold callStore
  dsimp only
  split
  · exact stamps s.store
  · exact stamps s.store
  · exact (KeepsStamps.setBanned s.store _ true).trans (stamps _)
  · exact KeepsStamps.trans (.of_accounts rfl) (stamps _)
  · split
    · exact .of_accounts rfl
    · exact stamps s.store
  · exact .of_accounts rfl

/-- A question to the store stamps nothing. -/
theorem stamps_question (s : ServerState) (call : StoreCall)
    (ask : AccountStore → Except StoreError Bool) (who : String → Prop) :
    KeepsStamps who s.store (s.callStore call some fun store => (ask store, store)).2.store :=
  s.stamps_callStore call some _ (fun _ => who) fun _ => .of_accounts rfl

/-- Checking credentials stamps their account if they pass, and nothing if not. -/
theorem stamps_checkCredentials (s : ServerState) (login password : String) :
    KeepsStamps (fun l => l = login ∧ (s.checkCredentials login password).1 = .ok none) s.store
      (s.checkCredentials login password).2.store := by
  have h₁ (who : String → Prop) : KeepsStamps who s.store (s.hasAccount login).2.store :=
    s.stamps_question .hasAccount _ who
  unfold checkCredentials
  generalize s.hasAccount login = known at h₁ ⊢
  obtain ⟨e | _ | _, s₁⟩ := known
  · exact h₁ _
  · exact h₁ _
  have h₂ (who : String → Prop) : KeepsStamps who s.store (s₁.isBanned login).2.store :=
    (h₁ who).trans (s₁.stamps_question .isBanned _ who)
  dsimp only
  generalize s₁.isBanned login = banned at h₂ ⊢
  obtain ⟨e | _ | _, s₂⟩ := banned
  · exact h₂ _
  · have h₃ (who : String → Prop) : KeepsStamps who s.store (s₂.verify login password).2.store :=
      (h₂ who).trans (s₂.stamps_question .verify _ who)
    dsimp only
    generalize s₂.verify login password = right at h₃ ⊢
    obtain ⟨e | _ | _, s₃⟩ := right
    · exact h₃ _
    · exact h₃ _
    have h₄ : KeepsStamps (fun l => l = login ∧ (s₃.touchLastLogin login).1 = .ok true) s.store
        (s₃.touchLastLogin login).2.store :=
      (h₃ _).trans (s₃.stamps_callStore .touch some _
        (fun answer l => l = login ∧ answer = .ok true)
        fun store => .touchLastLogin store login s₃.now)
    dsimp only
    generalize s₃.touchLastLogin login = stamped at h₄ ⊢
    obtain ⟨e | _ | _, s₄⟩ := stamped
    · exact h₄.mono (by simp)
    · exact h₄.mono (by simp)
    · exact h₄.mono (by simp)
  · exact h₂ _

/-- Judging credentials stamps their account if they are good, and nothing if not. -/
theorem stamps_judgeCredentials (s : ServerState) (login password : String) :
    KeepsStamps (fun l => l = login ∧ (s.judgeCredentials login password).1 = none) s.store
      (s.judgeCredentials login password).2.store := by
  have hchecked := s.stamps_checkCredentials login password
  unfold judgeCredentials
  generalize s.checkCredentials login password = checked at hchecked ⊢
  obtain ⟨e | verdict, s'⟩ := checked
  · exact hchecked.mono (by simp)
  · exact hchecked.mono (by simp)

/-- The end of a log-in leaves the store alone. -/
theorem store_concludeLogin (s : ServerState) (h : Handle) (p : Packet) (login : String)
    (verdict : Option LoginFailure) : (s.concludeLogin h p login verdict).2.store = s.store := by
  cases verdict <;> rfl

/-- A request that cannot be read or may not begin a log-in leaves the store alone. -/
theorem store_authenticate_or_begins (s : ServerState) (h : Handle) (p : Packet) :
    (s.authenticate h p).2.store = s.store ∧
        ((s.authenticate h p).1 = .malformed ∨ (s.authenticate h p).1 = .ignored) ∨
      ∃ request, LoginRequest.parse p.body = .ok request ∧
        (s.connection h).mayBeginAuth = true := by
  cases hparse : LoginRequest.parse p.body with
  | error e =>
    rw [authenticate_of_error hparse]
    exact .inl ⟨rfl, .inl rfl⟩
  | ok request =>
    cases hmay : (s.connection h).mayBeginAuth with
    | true => exact .inr ⟨request, rfl, rfl⟩
    | false =>
      rw [authenticate_of_busy hparse hmay]
      exact .inl ⟨rfl, .inr rfl⟩

/-- Once its credentials have been judged, a log-in ends with the store as the judgement left it. It
succeeds if they are good and the connection is still open, and is given up if it is not. -/
theorem store_authenticate_of_begins {request : LoginRequest}
    (parsed : LoginRequest.parse p.body = .ok request)
    (may : (s.connection h).mayBeginAuth = true) :
    let judged := (s.attempted h request.login).judgeCredentials request.login request.password
    (s.authenticate h p).2.store = judged.2.store ∧
      ((s.authenticate h p).1 = .disconnected ∨
        judged.1 = none ∧ (s.authenticate h p).1 = .authenticated request.login ∨
        ∃ failure, judged.1 = some failure ∧ (s.authenticate h p).1 = .rejected failure) := by
  intro judged
  have hresult : s.authenticate h p =
      if (judged.2.connection h).isOpen then judged.2.concludeLogin h p request.login judged.1
      else judged.2.abandonLogin h request.login judged.1 := authenticate_of_may parsed may
  rw [hresult]
  split
  · refine ⟨store_concludeLogin .., .inr ?_⟩
    cases judged.1 with
    | none => exact .inl ⟨rfl, rfl⟩
    | some failure => exact .inr ⟨failure, rfl, rfl⟩
  · exact ⟨rfl, .inl rfl⟩

/-- A request may have stamped the account under a login: it was to log in there, its credentials
were judged good, and it succeeded or its connection had closed. -/
structure MayHaveStamped (s : ServerState) (h : Handle) (p : Packet) (login : String) : Prop where
  credentials : ∃ password, LoginRequest.parse p.body = .ok { login, password } ∧
    ((s.attempted h login).judgeCredentials login password).1 = none
  outcome : (s.authenticate h p).1 = .authenticated login ∨ (s.authenticate h p).1 = .disconnected

/-- Whatever comes in between, a log-in request stamps no account but the one to which it is to log
in, and that only if its credentials are judged good and it succeeds or its connection has closed.
Where nothing comes in between, a request that succeeds has stamped the account and changed nothing
else of the store, one that is given up for its closed connection has done so too if its credentials
are good, and any other leaves the store as it was. -/
theorem stamp_authenticate (s : ServerState) (h : Handle) (p : Packet) :
    let result := s.authenticate h p
    (∀ login, result.2.store.stamp? login ≠ s.store.stamp? login → s.MayHaveStamped h p login) ∧
      (s.disturbances = [] →
        match result.1 with
        | .authenticated login => result.2.store = (s.store.touchLastLogin login s.now).2
        | .disconnected => ∃ login password,
            LoginRequest.parse p.body = .ok { login, password } ∧
              result.2.store = s.store.judged login password s.now
        | .rejected _ | .malformed | .ignored => result.2.store = s.store) := by
  intro result
  obtain ⟨hstore, houtcome⟩ | ⟨⟨login, password⟩, hparse, hmay⟩ :=
    s.store_authenticate_or_begins h p
  · refine ⟨fun login hchanged => absurd (congrArg (·.stamp? login) hstore) hchanged, fun _ => ?_⟩
    obtain houtcome | houtcome := houtcome <;> rw [houtcome] <;> exact hstore
  · obtain ⟨hstore, houtcome⟩ := store_authenticate_of_begins hparse hmay
    have hquiet := fun quiet => judgeCredentials_of_quiet (s := s.attempted h login) quiet login
      password
    have hstamps := (s.attempted h login).stamps_judgeCredentials login password
    dsimp only at hstore houtcome
    change result.2.store = _ at hstore
    rw [hstore]
    constructor
    · intro login' hchanged
      obtain ⟨rfl, hgood⟩ := not_not.mp fun hother => hchanged (hstamps login' hother)
      refine ⟨⟨password, hparse, hgood⟩, ?_⟩
      obtain hclosed | ⟨-, hsuccess⟩ | ⟨failure, hbad, -⟩ := houtcome
      · exact .inr hclosed
      · exact .inl hsuccess
      · rw [hgood] at hbad
        cases hbad
    · intro quiet
      have hjudged := hquiet quiet
      rw [hjudged] at houtcome ⊢
      obtain hclosed | ⟨hgood, hsuccess⟩ | ⟨failure, hbad, hrefused⟩ := houtcome
      · rw [hclosed]
        exact ⟨login, password, hparse, rfl⟩
      · rw [hsuccess]
        exact if_pos hgood
      · rw [hrefused]
        exact if_neg fun hgood => absurd (hbad.symm.trans hgood) (by simp)

/-- A server with an account, and a connection that has closed before it asked to log in. -/
def latecomer (credential : Credential) : ServerState where
  lobby := .new 4 16 { opened := [{ id := ⟨1⟩, address := default, isOpen := false }] }
  store :=
    { AccountStore.empty with accounts := [{ id := 1, login := "alice", email := "", credential }] }
  gateway := { maxPerAddress := 8 }
  game := { maxPerAddress := 8 }

/-- Whatever the credential is, a request with the right password over the closed connection is
given up, and leaves a stamp. -/
theorem authenticate_latecomer {credential : Credential}
    (verified : credential.verify "pw" = true) :
    let result := (latecomer credential).authenticate 0 (knock "alice" "pw")
    result.1 = .disconnected ∧ result.2.store.stamp? "alice" = some 0 := by
  intro result
  have hparse : LoginRequest.parse (knock "alice" "pw").body = .ok ⟨"alice", "pw"⟩ := rfl
  have hmay : ((latecomer credential).connection 0).mayBeginAuth = true := rfl
  have hgood : (latecomer credential).store.failure? "alice" "pw" = none := by
    simp [AccountStore.failure?, AccountStore.account?, latecomer, AccountStore.empty, verified]
  have hjudged :=
    judgeCredentials_of_quiet (s := (latecomer credential).attempted 0 "alice") rfl "alice" "pw"
  have hresult : result = _ := authenticate_of_may hparse hmay
  rw [hjudged] at hresult
  have hresult : result = _ := hresult.trans (if_neg Bool.false_ne_true)
  rw [hresult]
  refine ⟨rfl, ?_⟩
  change ((latecomer credential).store.judged "alice" "pw" 0).stamp? "alice" = some 0
  rw [AccountStore.judged, if_pos hgood]
  rfl

/-- A request with the right password over a connection that has closed is given up, but the
account, which had no stamp, has one afterwards. -/
theorem stamped_though_disconnected :
    let server := latecomer (.derive "pw" (AccountStore.saltFor 1) 1 (by decide))
    let result := server.authenticate 0 (knock "alice" "pw")
    server.store.stamp? "alice" = none ∧ result.1 = .disconnected ∧
      result.2.store.stamp? "alice" = some 0 :=
  ⟨rfl, authenticate_latecomer (Credential.verify_derive "pw" _ 1 _)⟩

end ServerState

end PlayServer
