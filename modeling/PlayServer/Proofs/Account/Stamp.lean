import PlayServer.Account.Store

/-!
# Stores up to the stamps of their accounts

The store stamps an account when a log-in to it is completed. Nothing that the store answers depends
on these stamps: every call gives the same answer without them, and then makes the same change.
-/

namespace PlayServer

/-- An account without the stamp of its last log-in. -/
def Account.unstamped (a : Account) : Account := { a with lastLogin := none }

namespace AccountStore

/-- A store without the stamps of its accounts. -/
def unstamped (s : AccountStore) : AccountStore :=
  { s with accounts := s.accounts.map Account.unstamped }

variable (s : AccountStore) (login : String)

/-- Accounts are found whatever their stamps. -/
@[simp] theorem account?_unstamped :
    s.unstamped.account? login = (s.account? login).map Account.unstamped := by
  unfold account? unstamped
  rw [List.find?_map]
  rfl

/-- What is asked is answered whatever the stamps. -/
@[simp] theorem ask_unstamped {α : Type} (answer : α) : s.unstamped.ask answer = s.ask answer := rfl

/-- Whether there is an account does not depend on stamps. -/
theorem hasAccount_unstamped : s.unstamped.hasAccount login = s.hasAccount login := by
  simp [hasAccount]

/-- Whether an account is banned does not depend on stamps. -/
theorem isBanned_unstamped : s.unstamped.isBanned login = s.isBanned login := by
  rw [isBanned, account?_unstamped, Option.any_map, ask_unstamped]
  rfl

/-- Whether a password is right does not depend on stamps. -/
theorem verify_unstamped (password : String) :
    s.unstamped.verify login password = s.verify login password := by
  rw [verify, account?_unstamped, Option.any_map, ask_unstamped]
  rfl

/-- The characters of an account do not depend on stamps. -/
theorem charactersOf_unstamped : s.unstamped.charactersOf login = s.charactersOf login := by
  unfold charactersOf
  rw [account?_unstamped, ask_unstamped]
  cases s.account? login <;> rfl

/-- Stores that are the same but for stamps stay so when both are changed in a way that can be made
before or after the stamps are taken away. -/
theorem unstamped_congr {a b : AccountStore} (same : b.unstamped = a.unstamped)
    {change : AccountStore → AccountStore}
    (commutes : ∀ c : AccountStore, change c.unstamped = (change c).unstamped) :
    (change b).unstamped = (change a).unstamped := by
  rw [← commutes, same, commutes]

/-- A change of accounts can be made before or after the stamps are taken away. -/
theorem unstamped_updateAccount {change change' : Account → Account}
    (commutes : ∀ a, (change a).unstamped = change' a.unstamped) :
    (s.updateAccount login change).unstamped = s.unstamped.updateAccount login change' := by
  have haccounts :
      (s.accounts.map fun a => if a.login == login then change a else a).map Account.unstamped =
        (s.accounts.map Account.unstamped).map fun a =>
          if a.login == login then change' a else a := by
    rw [List.map_map, List.map_map]
    apply List.map_congr_left
    intro a _
    change (if a.login == login then change a else a).unstamped =
      if a.login == login then change' a.unstamped else a.unstamped
    split
    · exact commutes a
    · rfl
  exact congrArg (fun accounts => { s with accounts }) haccounts

/-- Opening an account has the same result, and then the store is the same, but for stamps. -/
theorem createAccount_unstamped (email password : String) (salt : Vector UInt8 16) :
    s.unstamped.createAccount login email password salt =
      ((s.createAccount login email password salt).1,
        (s.createAccount login email password salt).2.unstamped) := by
  have havailable : s.unstamped.available = s.available := rfl
  unfold createAccount
  rw [account?_unstamped, Option.isSome_map, havailable]
  split
  · rfl
  split
  · rfl
  split
  · rfl
  · simp [unstamped, Account.unstamped]

/-- Banning has the same result, and then the store is the same, but for stamps. -/
theorem setBanned_unstamped (banned : Bool) :
    s.unstamped.setBanned login banned =
      ((s.setBanned login banned).1, (s.setBanned login banned).2.unstamped) := by
  unfold setBanned
  rw [account?_unstamped]
  cases s.account? login with
  | none => rfl
  | some a =>
    have hsame : (s.updateAccount login fun a => { a with banned }).unstamped =
        s.unstamped.updateAccount login fun a => { a with banned } :=
      s.unstamped_updateAccount login fun _ => rfl
    exact Prod.ext rfl hsame.symm

/-- Adding a character has the same result, and then the store is the same, but for stamps. -/
theorem addCharacter_unstamped (name : String) (classId level : UInt8) :
    s.unstamped.addCharacter login name classId level =
      ((s.addCharacter login name classId level).1,
        (s.addCharacter login name classId level).2.unstamped) := by
  unfold addCharacter
  rw [account?_unstamped]
  cases s.account? login <;> rfl

/-- Stamping an account changes nothing but stamps. -/
theorem unstamped_touchLastLogin (now : Nat) :
    (s.touchLastLogin login now).2.unstamped = s.unstamped := by
  unfold touchLastLogin
  split
  · rfl
  split
  · rfl
  · have hstamped : (s.updateAccount login fun a => { a with lastLogin := some now }).unstamped =
        s.unstamped.updateAccount login id :=
      s.unstamped_updateAccount login fun _ => rfl
    exact hstamped.trans (by simp [updateAccount])

/-- Whether an account is stamped does not depend on stamps, or on the time. -/
theorem touchLastLogin_unstamped (now now' : Nat) :
    (s.unstamped.touchLastLogin login now).1 = (s.touchLastLogin login now').1 := by
  have havailable : s.unstamped.available = s.available := rfl
  unfold touchLastLogin
  rw [account?_unstamped, havailable]
  split
  · rfl
  · cases s.account? login <;> rfl

end AccountStore

end PlayServer
