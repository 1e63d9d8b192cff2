import PlayServer.Account.Store

/-!
# Stores that decline

While a request is served, an account may be banned, a log-in may be stamped and the store may
become unavailable, but no account is opened, no ban is lifted and no password changes. What the
store accepts at the end of a request it would therefore have accepted at its beginning.
-/

namespace PlayServer

/-- An account has been banned or stamped, if anything. -/
structure Account.Declines (a a' : Account) : Prop where
  login : a'.login = a.login
  credential : a'.credential = a.credential
  banned : a.banned = true → a'.banned = true

namespace AccountStore

/-- Accounts have been banned or stamped and the store has become unavailable, if anything. -/
structure Declines (s s' : AccountStore) : Prop where
  accounts : ∃ change : Account → Account,
    (∀ a : Account, a.Declines (change a)) ∧ s'.accounts = s.accounts.map change
  available : s'.available = true → s.available = true

/-- The store knows the account, has not banned it and verifies its password. -/
structure Accepts (s : AccountStore) (login password : String) : Prop where
  known : s.hasAccount login = .ok true
  notBanned : s.isBanned login = .ok false
  verified : s.verify login password = .ok true

/-- A store answers while it is available. -/
theorem ask_eq_ok_iff {α : Type} {s : AccountStore} {answer given : α} :
    s.ask answer = .ok given ↔ s.available = true ∧ answer = given := by
  cases h : s.available <;> simp [ask, h]

namespace Declines

variable {s s' s'' : AccountStore} {login password : String}

/-- A store that stays as it is. -/
theorem refl (s : AccountStore) : s.Declines s :=
  ⟨⟨id, fun _ => ⟨rfl, rfl, id⟩, (List.map_id _).symm⟩, id⟩

/-- Declining goes on. -/
theorem trans (h : s.Declines s') (h' : s'.Declines s'') : s.Declines s'' := by
  obtain ⟨change, hchange, haccounts⟩ := h.accounts
  obtain ⟨change', hchange', haccounts'⟩ := h'.accounts
  refine ⟨⟨change' ∘ change, fun a => ?_, ?_⟩, fun hs => h.available (h'.available hs)⟩
  · have h₁ := hchange a
    have h₂ := hchange' (change a)
    exact ⟨h₂.login.trans h₁.login, h₂.credential.trans h₁.credential,
      fun hb => h₂.banned (h₁.banned hb)⟩
  · rw [haccounts', haccounts, List.map_map]

/-- Changing the account under a login declines the store if it declines the account. -/
theorem updateAccount {change : Account → Account}
    (hchange : ∀ a : Account, a.Declines (change a)) : s.Declines (s.updateAccount login change) := by
  refine ⟨⟨fun a => if a.login == login then change a else a, fun a => ?_, rfl⟩, id⟩
  dsimp only
  split
  · exact hchange a
  · exact ⟨rfl, rfl, id⟩

/-- The accounts under a login before and after. -/
theorem account? (h : s.Declines s') :
    ∃ change : Account → Account, (∀ a : Account, a.Declines (change a)) ∧
      ∀ login, s'.account? login = (s.account? login).map change := by
  obtain ⟨change, hchange, haccounts⟩ := h.accounts
  refine ⟨change, hchange, fun login => ?_⟩
  rw [AccountStore.account?, haccounts, List.find?_map]
  have hlogin : (fun a : Account => a.login == login) ∘ change = fun a => a.login == login := by
    funext a
    simp [(hchange a).login]
  rw [hlogin]
  rfl

/-- An account that is there was there. -/
theorem known (h : s.Declines s') (known : s'.hasAccount login = .ok true) :
    s.hasAccount login = .ok true := by
  obtain ⟨change, -, haccount⟩ := h.account?
  obtain ⟨havailable, hthere⟩ := ask_eq_ok_iff.mp known
  rw [haccount, Option.isSome_map] at hthere
  exact ask_eq_ok_iff.mpr ⟨h.available havailable, hthere⟩

/-- An account that is not banned was not banned. -/
theorem notBanned (h : s.Declines s') (notBanned : s'.isBanned login = .ok false) :
    s.isBanned login = .ok false := by
  obtain ⟨change, hchange, haccount⟩ := h.account?
  obtain ⟨havailable, hfree⟩ := ask_eq_ok_iff.mp notBanned
  apply ask_eq_ok_iff.mpr
  refine ⟨h.available havailable, ?_⟩
  rw [haccount] at hfree
  cases ha : s.account? login with
  | none => rfl
  | some a =>
    simp only [ha, Option.map_some, Option.any_some] at hfree ⊢
    have hbanned := (hchange a).banned
    cases hb : a.banned with
    | false => rfl
    | true => simp [hbanned hb] at hfree

/-- A password that is verified was verified. -/
theorem verified (h : s.Declines s') (verified : s'.verify login password = .ok true) :
    s.verify login password = .ok true := by
  obtain ⟨change, hchange, haccount⟩ := h.account?
  obtain ⟨havailable, hgood⟩ := ask_eq_ok_iff.mp verified
  apply ask_eq_ok_iff.mpr
  refine ⟨h.available havailable, ?_⟩
  rw [haccount] at hgood
  cases ha : s.account? login with
  | none => simp [ha] at hgood
  | some a => simpa [ha, (hchange a).credential] using hgood

/-- No login is new. -/
theorem logins (h : s.Declines s') : s'.accounts.map (·.login) = s.accounts.map (·.login) := by
  obtain ⟨change, hchange, haccounts⟩ := h.accounts
  rw [haccounts, List.map_map]
  exact List.map_congr_left fun a _ => (hchange a).login

end Declines

/-- Banning an account declines the store. -/
theorem declines_ban (s : AccountStore) (login : String) :
    s.Declines (s.setBanned login true).2 := by
  unfold setBanned
  split
  · exact .refl s
  · exact .updateAccount fun a => ⟨rfl, rfl, fun _ => rfl⟩

/-- An outage declines the store. -/
theorem declines_outage (s : AccountStore) : s.Declines (s.setAvailable false) :=
  ⟨(Declines.refl s).accounts, by simp [setAvailable]⟩

/-- Stamping a log-in declines the store. -/
theorem declines_touch (s : AccountStore) (login : String) (now : Nat) :
    s.Declines (s.touchLastLogin login now).2 := by
  unfold touchLastLogin
  split
  · exact .refl s
  split
  · exact .refl s
  · exact .updateAccount fun a => ⟨rfl, rfl, id⟩

end AccountStore

end PlayServer
