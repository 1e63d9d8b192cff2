import PlayServer.Proofs.Account.Decline

/-!
# Runs of an account store

A run of a store is a list of calls, made one after the other in any order. What is known of a run
besides the store at its end is its past: the calls that were made, each with its answer.

A call opens an account, adds a character, or does neither: `effect_perform` says what becomes of
the store in each of these cases. So no call does away with an account, or changes who it belongs
to, `account?_run`, and a call that fails changes nothing at all, `perform_of_error`.
-/

namespace PlayServer

/-- The same account, which may have been banned, freed of a ban or stamped since. -/
structure Account.Same (a a' : Account) : Prop where
  id : a'.id = a.id
  login : a'.login = a.login
  email : a'.email = a.email
  credential : a'.credential = a.credential

/-- An account is the same as itself. -/
theorem Account.Same.refl (a : Account) : a.Same a := ⟨rfl, rfl, rfl, rfl⟩

/-- An account stays the same from change to change. -/
theorem Account.Same.trans {a b c : Account} (hab : a.Same b) (hbc : b.Same c) : a.Same c :=
  ⟨hbc.id.trans hab.id, hbc.login.trans hab.login, hbc.email.trans hab.email,
    hbc.credential.trans hab.credential⟩

namespace AccountStore

/-- A call of the store. -/
inductive Call where
  | createAccount (login email password : String) (salt : Vector UInt8 16)
  | setBanned (login : String) (banned : Bool)
  | addCharacter (login name : String) (classId level : UInt8)
  | setAvailable (available : Bool)
  | hasAccount (login : String)
  | verify (login password : String)
  | isBanned (login : String)
  | touchLastLogin (login : String) (now : Nat)
  | charactersOf (login : String)

/-- What a call answers when it does not fail. -/
inductive Answer where
  | done
  | account (id : UInt32)
  | character (id : UInt64)
  | flag (value : Bool)
  | characters (characters : List Character)

/-- Whether a call is refused while the store is unavailable: the lookups are, and so is the opening
of accounts. -/
def Call.needsStore : Call → Bool
  | .setBanned .. | .addCharacter .. | .setAvailable .. => false
  | _ => true

/-- Makes a call: its answer, and the store after it. -/
def perform (s : AccountStore) : Call → Except StoreError Answer × AccountStore
  | .createAccount login email password salt =>
    ((s.createAccount login email password salt).1.map .account,
      (s.createAccount login email password salt).2)
  | .setBanned login banned =>
    ((s.setBanned login banned).1.map fun _ => .done, (s.setBanned login banned).2)
  | .addCharacter login name classId level =>
    ((s.addCharacter login name classId level).1.map .character,
      (s.addCharacter login name classId level).2)
  | .setAvailable available => (.ok .done, s.setAvailable available)
  | .hasAccount login => ((s.hasAccount login).map .flag, s)
  | .verify login password => ((s.verify login password).map .flag, s)
  | .isBanned login => ((s.isBanned login).map .flag, s)
  | .touchLastLogin login now =>
    ((s.touchLastLogin login now).1.map .flag, (s.touchLastLogin login now).2)
  | .charactersOf login => ((s.charactersOf login).map .characters, s)

/-- A call that was made, and what it answered. -/
structure Entry where
  call : Call
  answer : Except StoreError Answer

/-- Makes some calls, one after the other. -/
def run (s : AccountStore) (calls : List Call) : AccountStore :=
  calls.foldl (fun s call => (s.perform call).2) s

/-- The past of a run: its calls with their answers. -/
def past (s : AccountStore) : List Call → List Entry
  | [] => []
  | call :: rest => ⟨call, (s.perform call).1⟩ :: (s.perform call).2.past rest

/-- A character as it was added: under which login, and with what. -/
structure Addition where
  login : String
  id : UInt64
  name : String
  classId : UInt8
  level : UInt8
  deriving DecidableEq

/-- The character that was added, as one of an account. -/
def Addition.character (d : Addition) (account : UInt32) : Character :=
  { id := d.id, account, name := d.name, classId := d.classId, level := d.level }

/-- Whether an account was opened. -/
def Entry.opens : Entry → Bool
  | ⟨.createAccount .., .ok _⟩ => true
  | _ => false

/-- The character that was added, if one was. -/
def Entry.addition? : Entry → Option Addition
  | ⟨.addCharacter login name classId level, .ok (.character id)⟩ =>
    some ⟨login, id, name, classId, level⟩
  | _ => none

/-- How many accounts were opened. -/
def opened (entries : List Entry) : Nat := entries.countP Entry.opens

/-- The characters that were added, in the order of addition. -/
def additions (entries : List Entry) : List Addition := entries.filterMap Entry.addition?

variable {s s' : AccountStore} {call : Call} {login : String} {a : Account}

/-- Neither an account nor a character more: accounts are the same, though they may have been
banned, freed of a ban or stamped, and the next ids are not touched. -/
structure Keeps (s s' : AccountStore) : Prop where
  accounts : ∃ change : Account → Account,
    (∀ a : Account, a.Same (change a)) ∧ s'.accounts = s.accounts.map change
  characters : s'.characters = s.characters
  nextAccount : s'.nextAccount = s.nextAccount
  nextCharacter : s'.nextCharacter = s.nextCharacter

/-- A store with the same accounts and characters keeps them. -/
theorem Keeps.of_eq (accounts : s'.accounts = s.accounts) (characters : s'.characters = s.characters)
    (nextAccount : s'.nextAccount = s.nextAccount)
    (nextCharacter : s'.nextCharacter = s.nextCharacter) : s.Keeps s' :=
  ⟨⟨id, fun a => .refl a, by rw [accounts, List.map_id]⟩, characters, nextAccount, nextCharacter⟩

/-- Banning or stamping an account keeps it. -/
theorem keeps_updateAccount {change : Account → Account} (hchange : ∀ a : Account, a.Same (change a)) :
    s.Keeps (s.updateAccount login change) where
  accounts := by
    refine ⟨fun a => if a.login == login then change a else a, fun a => ?_, rfl⟩
    dsimp only
    split
    · exact hchange a
    · exact .refl a
  characters := rfl
  nextAccount := rfl
  nextCharacter := rfl

/-- What a call can do to a store. -/
inductive Effect (s : AccountStore) : Entry → AccountStore → Prop where
  /-- It opens no account and adds no character; if it fails, it does nothing. -/
  | keeps (e : Entry) (s' : AccountStore) (hopens : e.opens = false) (hadds : e.addition? = none)
      (hkeeps : s.Keeps s') (hfails : ∀ err, e.answer = .error err → s' = s) : Effect s e s'
  /-- It opens an account under a login that was free. -/
  | opens (login email password : String) (salt : Vector UInt8 16) (credential : Credential)
      (hvalid : validateLogin login = .ok ()) (hfree : s.account? login = none) :
    Effect s ⟨.createAccount login email password salt, .ok (.account s.nextAccount)⟩
      { s with
        accounts := s.accounts ++ [{ id := s.nextAccount, login, email, credential }]
        nextAccount := s.nextAccount + 1 }
  /-- It adds a character to an account. -/
  | adds (login name : String) (classId level : UInt8) (a : Account)
      (hfound : s.account? login = some a) :
    Effect s ⟨.addCharacter login name classId level, .ok (.character s.nextCharacter)⟩
      { s with
        characters := s.characters ++
          [{ id := s.nextCharacter, account := a.id, name, classId, level }]
        nextCharacter := s.nextCharacter + 1 }

/-- What every call does. -/
theorem effect_perform (s : AccountStore) (call : Call) :
    s.Effect ⟨call, (s.perform call).1⟩ (s.perform call).2 := by
  have hsame : s.Keeps s := .of_eq rfl rfl rfl rfl
  cases call with
  | createAccount login email password salt =>
    simp only [perform, createAccount]
    split
    · exact .keeps _ _ rfl rfl hsame fun _ _ => rfl
    next hvalid =>
    split
    · exact .keeps _ _ rfl rfl hsame fun _ _ => rfl
    split
    · exact .keeps _ _ rfl rfl hsame fun _ _ => rfl
    next hfree => exact .opens login email password salt _ hvalid (by simpa using hfree)
  | setBanned login banned =>
    simp only [perform, setBanned]
    split
    · exact .keeps _ _ rfl rfl hsame fun _ _ => rfl
    · refine .keeps _ _ rfl rfl (keeps_updateAccount fun a => ⟨rfl, rfl, rfl, rfl⟩) fun _ h => ?_
      cases h
  | addCharacter login name classId level =>
    simp only [perform, addCharacter]
    split
    · exact .keeps _ _ rfl rfl hsame fun _ _ => rfl
    next a hfound => exact .adds login name classId level a hfound
  | setAvailable available =>
    refine .keeps _ _ rfl rfl (.of_eq rfl rfl rfl rfl) fun _ h => ?_
    cases h
  | touchLastLogin login now =>
    simp only [perform, touchLastLogin]
    split
    · exact .keeps _ _ rfl rfl hsame fun _ _ => rfl
    split
    · exact .keeps _ _ rfl rfl hsame fun _ _ => rfl
    · refine .keeps _ _ rfl rfl (keeps_updateAccount fun a => ⟨rfl, rfl, rfl, rfl⟩) fun _ h => ?_
      cases h
  | hasAccount | verify | isBanned | charactersOf => exact .keeps _ _ rfl rfl hsame fun _ _ => rfl

/-- Where accounts are kept, they are found as before. -/
theorem Keeps.account? (h : s.Keeps s') : ∃ change : Account → Account,
    (∀ a : Account, a.Same (change a)) ∧
      ∀ login, s'.account? login = (s.account? login).map change := by
  obtain ⟨change, hchange, haccounts⟩ := h.accounts
  refine ⟨change, hchange, fun login => ?_⟩
  have hlogin : (fun a : Account => a.login == login) ∘ change = fun a => a.login == login := by
    funext a
    simp [(hchange a).login]
  rw [AccountStore.account?, haccounts, List.find?_map, hlogin]
  rfl

/-- An account that is found under a login is still found there after a call. -/
theorem Effect.account? {e : Entry} (h : s.Effect e s') (hfound : s.account? login = some a) :
    ∃ a', s'.account? login = some a' ∧ a.Same a' := by
  cases h with
  | keeps _ _ _ _ hkeeps _ =>
    obtain ⟨change, hchange, haccount⟩ := hkeeps.account?
    exact ⟨change a, by rw [haccount, hfound, Option.map_some], hchange a⟩
  | opens =>
    refine ⟨a, ?_, .refl a⟩
    rw [AccountStore.account?] at hfound
    rw [AccountStore.account?, List.find?_append, hfound, Option.some_or]
  | adds => exact ⟨a, hfound, .refl a⟩

/-- An account that is found under a login is still found there after any calls. -/
theorem account?_run (hfound : s.account? login = some a) (calls : List Call) :
    ∃ a', (s.run calls).account? login = some a' ∧ a.Same a' := by
  induction calls generalizing s a with
  | nil => exact ⟨a, hfound, .refl a⟩
  | cons call rest ih =>
    obtain ⟨b, hb, hab⟩ := (s.effect_perform call).account? hfound
    obtain ⟨c, hc, hbc⟩ := ih hb
    exact ⟨c, hc, hab.trans hbc⟩

/-- A call that fails leaves the store as it was. -/
theorem perform_of_error {err : StoreError} (h : (s.perform call).1 = .error err) :
    (s.perform call).2 = s := by
  have heffect := s.effect_perform call
  rw [h] at heffect
  cases heffect with
  | keeps _ _ _ _ _ hfails => exact hfails err rfl

/-- No second account is opened under a login. -/
theorem createAccount_of_taken (email password : String) (salt : Vector UInt8 16)
    (taken : (s.account? login).isSome = true) :
    ∃ e, (s.createAccount login email password salt).1 = .error e := by
  unfold createAccount
  split
  · exact ⟨_, rfl⟩
  · split <;> exact ⟨_, rfl⟩

/-- While the store is unavailable, lookups fail and no account is opened. -/
theorem perform_of_unavailable (unavailable : s.available = false) (needs : call.needsStore = true) :
    ∃ e, (s.perform call).1 = .error e := by
  have hask {α : Type} (answer : α) : s.ask answer = .error offline := by simp [ask, unavailable]
  cases call with
  | createAccount login email password salt =>
    simp only [perform, createAccount]
    split
    · exact ⟨_, rfl⟩
    · simp [unavailable, Except.map]
  | touchLastLogin login now => simp [perform, touchLastLogin, unavailable, Except.map]
  | hasAccount login => exact ⟨_, by rw [perform, hasAccount, hask]; rfl⟩
  | verify login password => exact ⟨_, by rw [perform, verify, hask]; rfl⟩
  | isBanned login => exact ⟨_, by rw [perform, isBanned, hask]; rfl⟩
  | charactersOf login => exact ⟨_, by rw [perform, charactersOf, hask]; rfl⟩
  | setBanned | addCharacter | setAvailable => cases needs

end AccountStore

end PlayServer
