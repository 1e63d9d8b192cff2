import PlayServer.Login.Check
import PlayServer.Proofs.Account.Decline

/-!
# What credentials are judged to be

The checks of a log-in stop at the first that fails. `AccountStore.failure?` names it, and is none
for the credentials that the store accepts, whose account is then stamped. Where nothing comes in
between, the judgement says just that and changes nothing else but the operator's log, to which the
failure of a store that is unavailable is written: `judgeCredentials_of_quiet`.
-/

namespace PlayServer

namespace AccountStore

/-- The first check that credentials fail, in the order in which they are made: whether the store
is available, the account exists, it is not banned, and this is its password. -/
def failure? (s : AccountStore) (login password : String) : Option LoginFailure :=
  if !s.available then some .storeUnavailable
  else match s.account? login with
    | none => some .unknownAccount
    | some a =>
      if a.banned then some .banned
      else if a.credential.verify password then none
      else some .badPassword

/-- The store after credentials have been judged: an account whose credentials are good is
stamped. -/
def judged (s : AccountStore) (login password : String) (now : Nat) : AccountStore :=
  if s.failure? login password = none then (s.touchLastLogin login now).2 else s

end AccountStore

namespace ServerState

/-- What the operator's log receives when the store is unavailable. -/
def outageLine : LogLine :=
  ⟨.error, "Account store error: " ++ AccountStore.offline.message⟩

variable {s : ServerState}

/-- Where nothing comes in between, a call of the store does what the store does. -/
theorem callStore_of_quiet {α : Type} (quiet : s.disturbances = []) (call : StoreCall)
    (override : Bool → Option α) (run : AccountStore → Except StoreError α × AccountStore) :
    s.callStore call override run = ((run s.store).1, { s with store := (run s.store).2 }) := by
  unfold callStore
  rw [quiet, takeDisturbance]

/-- Where nothing comes in between, a question to the store is answered and changes nothing. -/
theorem question_of_quiet (quiet : s.disturbances = []) (call : StoreCall)
    (ask : AccountStore → Except StoreError Bool) :
    s.callStore call some (fun store => (ask store, store)) = (ask s.store, s) :=
  callStore_of_quiet quiet call some _

/-- Where nothing comes in between, the judgement of credentials names the first check that they
fail. If they fail none the account is stamped. -/
theorem judgeCredentials_of_quiet (quiet : s.disturbances = []) (login password : String) :
    s.judgeCredentials login password =
      (s.store.failure? login password,
        { s with
          store := s.store.judged login password s.now
          log := s.log ++ if s.store.available then [] else [outageLine] }) := by
  have hknown : s.hasAccount login = (s.store.hasAccount login, s) :=
    question_of_quiet quiet .hasAccount _
  have hbanned : s.isBanned login = (s.store.isBanned login, s) :=
    question_of_quiet quiet .isBanned _
  have hright : s.verify login password = (s.store.verify login password, s) :=
    question_of_quiet quiet .verify _
  have hstamped : s.touchLastLogin login =
      ((s.store.touchLastLogin login s.now).1,
        { s with store := (s.store.touchLastLogin login s.now).2 }) :=
    callStore_of_quiet quiet .touch some _
  unfold judgeCredentials checkCredentials AccountStore.judged AccountStore.failure?
  rw [hknown, AccountStore.hasAccount, AccountStore.ask]
  cases havailable : s.store.available with
  | false => rfl
  | true =>
    cases haccount : s.store.account? login with
    | none => simp
    | some a =>
      simp only [AccountStore.isBanned, AccountStore.verify, AccountStore.ask, havailable, haccount,
        Option.any_some, if_true] at hbanned hright
      cases hb : a.banned with
      | true => simp [hbanned, hb]
      | false =>
        cases hv : a.credential.verify password with
        | false => simp [hbanned, hright, hb, hv]
        | true =>
          have htrue : (s.store.touchLastLogin login s.now).1 = .ok true := by
            simp [AccountStore.touchLastLogin, havailable, haccount]
          simp [hbanned, hright, hstamped, hb, hv, htrue]

end ServerState

end PlayServer
