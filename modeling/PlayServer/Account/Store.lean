import PlayServer.Account.Credential

/-!
# The account store

Accounts under their logins, each with the list of its characters. Creating an account checks the
login, then that the store is available, then that the login is free. Every lookup fails while the
store is unavailable; banning and adding characters do not ask. A call that fails changes nothing.
-/

namespace PlayServer

/-- Why the store refuses a call. -/
inductive StoreError where
  | unavailable (reason : String)
  | accountExists (login : String)
  | notFound (login : String)
  | invalidLogin (reason : String)
  | malformedCredential
  deriving DecidableEq, Repr

/-- The wording of a store error. -/
def StoreError.message : StoreError → String
  | unavailable reason => s!"account store unavailable: {reason}"
  | accountExists login => s!"account '{login}' already exists"
  | notFound login => s!"account '{login}' not found"
  | invalidLogin reason => s!"invalid login: {reason}"
  | malformedCredential => "malformed credential"

/-- Reads the text form of a credential. -/
def Credential.decode (s : String) : Except StoreError Credential :=
  match Credential.decode? s with
  | some c => .ok c
  | none => .error .malformedCredential

/-- Whether a login may contain a character. -/
def isLoginChar (c : Char) : Bool :=
  c.isAlphanum || c == '_' || c == '-' || c == '.'

/-- Logins have 1 to 32 bytes and hold ASCII letters and digits, `_`, `-` and `.` only. -/
def validateLogin (login : String) : Except StoreError Unit :=
  if login.isEmpty then .error (.invalidLogin "empty")
  else if 32 < login.utf8ByteSize then .error (.invalidLogin "longer than 32 characters")
  else if !login.toList.all isLoginChar then .error (.invalidLogin "unsupported characters")
  else .ok ()

/-- A character of an account. -/
structure Character where
  id : UInt64
  account : UInt32
  name : String
  classId : UInt8
  level : UInt8
  hardcore : Bool := false
  deriving DecidableEq, Repr

/-- An account. `lastLogin` is the instant of its last completed log-in. -/
structure Account where
  id : UInt32
  login : String
  email : String
  credential : Credential
  banned : Bool := false
  lastLogin : Option Nat := none
  deriving DecidableEq

/-- All accounts and characters, the numbers for the next of each, and the work factor of new
credentials. Characters stand in the order in which they were added. -/
structure AccountStore where
  accounts : List Account := []
  characters : List Character := []
  nextAccount : UInt32 := 1
  nextCharacter : UInt64 := 1
  iterations : UInt32 := Credential.defaultIterations
  iterations_ne_zero : iterations ≠ 0 := by decide
  available : Bool := true

namespace AccountStore

/-- An empty store with the default work factor. -/
def empty : AccountStore := {}

instance : Inhabited AccountStore := ⟨empty⟩

/-- An empty store with a work factor. -/
def withIterations (iterations : UInt32) (h : iterations ≠ 0) : AccountStore where
  iterations
  iterations_ne_zero := h

/-- The account under a login. -/
def account? (s : AccountStore) (login : String) : Option Account :=
  s.accounts.find? (·.login == login)

/-- What an unavailable store answers. -/
def offline : StoreError := .unavailable "memory store offline"

/-- Asks the store, which answers only while it is available. -/
def ask (s : AccountStore) (answer : α) : Except StoreError α :=
  if s.available then .ok answer else .error offline

/-- Changes the account under a login. -/
def updateAccount (s : AccountStore) (login : String) (change : Account → Account) : AccountStore :=
  { s with accounts := s.accounts.map fun a => if a.login == login then change a else a }

/-- Opens an account; gives its number. -/
def createAccount (s : AccountStore) (login email password : String) (salt : Vector UInt8 16) :
    Except StoreError UInt32 × AccountStore :=
  match validateLogin login with
  | .error e => (.error e, s)
  | .ok () =>
    if !s.available then (.error offline, s)
    else if (s.account? login).isSome then (.error (.accountExists login), s)
    else
      let credential := Credential.derive password salt s.iterations s.iterations_ne_zero
      (.ok s.nextAccount,
        { s with
          accounts := s.accounts ++ [{ id := s.nextAccount, login, email, credential }]
          nextAccount := s.nextAccount + 1 })

/-- Bans an account or lifts its ban. -/
def setBanned (s : AccountStore) (login : String) (banned : Bool) :
    Except StoreError Unit × AccountStore :=
  match s.account? login with
  | none => (.error (.notFound login), s)
  | some _ => (.ok (), s.updateAccount login fun a => { a with banned })

/-- Adds a character to an account; gives its number. -/
def addCharacter (s : AccountStore) (login name : String) (classId level : UInt8) :
    Except StoreError UInt64 × AccountStore :=
  match s.account? login with
  | none => (.error (.notFound login), s)
  | some a =>
    (.ok s.nextCharacter,
      { s with
        characters := s.characters ++
          [{ id := s.nextCharacter, account := a.id, name, classId, level }]
        nextCharacter := s.nextCharacter + 1 })

/-- Starts or ends an outage. -/
def setAvailable (s : AccountStore) (available : Bool) : AccountStore := { s with available }

/-- Whether there is an account under a login. -/
def hasAccount (s : AccountStore) (login : String) : Except StoreError Bool :=
  s.ask (s.account? login).isSome

/-- Whether the account under a login is banned; an unknown login is not. -/
def isBanned (s : AccountStore) (login : String) : Except StoreError Bool :=
  s.ask ((s.account? login).any (·.banned))

/-- Whether a password is that of the account under a login; no password is that of an unknown
login. -/
def verify (s : AccountStore) (login password : String) : Except StoreError Bool :=
  s.ask ((s.account? login).any (·.credential.verify password))

/-- The characters under a login, in the order in which they were added. -/
def charactersOf (s : AccountStore) (login : String) : Except StoreError (List Character) :=
  s.ask <|
    match s.account? login with
    | none => []
    | some a => s.characters.filter (·.account == a.id)

/-- Stamps a completed log-in; false if the account has gone. -/
def touchLastLogin (s : AccountStore) (login : String) (now : Nat) :
    Except StoreError Bool × AccountStore :=
  if !s.available then (.error offline, s)
  else match s.account? login with
    | none => (.ok false, s)
    | some _ => (.ok true, s.updateAccount login fun a => { a with lastLogin := some now })

/-- The salt of the account with a number. Salts need only differ between accounts. -/
def saltFor (number : UInt32) : Vector UInt8 16 :=
  ⟨(BigEndian.encode 16 number.toNat).toArray, by simp⟩

/-- Opens an account under the salt of its number. -/
def openAccount (s : AccountStore) (login email password : String) :
    Except StoreError UInt32 × AccountStore :=
  s.createAccount login email password (saltFor s.nextAccount)

/-- A store with accounts for some logins and passwords, or the first refusal. -/
def seeded (accounts : List (String × String)) : Except StoreError AccountStore :=
  accounts.foldlM
    (fun s (login, password) =>
      match s.openAccount login "" password with
      | (.ok _, s) => .ok s
      | (.error e, _) => .error e)
    empty

end AccountStore

end PlayServer
