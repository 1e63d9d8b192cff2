import Mathlib.Algebra.Order.Ring.Nat
import Mathlib.Data.List.Forall2
import Mathlib.Data.List.Nodup
import PlayServer.Proofs.Account.Run

/-!
# The integrity of an account store

Accounts are found under their logins, and characters under the ids of their accounts. `Accords`
ties both to the past of the run: each account was opened once, under a login that was free and
valid; the ids were drawn in turn; and each character is one that was added, in the order of
addition, under the login of the account whose id it names. Every call keeps this, `Accords.step`,
and so does every run.

As long as the ids of accounts do not begin again, an id names the login that an account was opened
under, and the characters found under a login are exactly those added under it: `integrity_of_run`.
-/

namespace PlayServer

namespace AccountStore

variable {s s' : AccountStore} {entries : List Entry} {e : Entry} {login : String} {a : Account}

/-- A character is one that was added under the login of its account. -/
def AddedTo (s : AccountStore) (d : Addition) (c : Character) : Prop :=
  ∃ a, s.account? d.login = some a ∧ c = d.character a.id

/-- A store accords with its past. -/
structure Accords (entries : List Entry) (s : AccountStore) : Prop where
  logins : (s.accounts.map (·.login)).Nodup
  valid : ∀ a ∈ s.accounts, validateLogin a.login = .ok ()
  accountIds : s.accounts.map (·.id) = (List.range (opened entries)).map fun n => UInt32.ofNat (n + 1)
  nextAccount : s.nextAccount = UInt32.ofNat (opened entries + 1)
  characterIds : s.characters.map (·.id) =
    (List.range (additions entries).length).map fun n => UInt64.ofNat (n + 1)
  nextCharacter : s.nextCharacter = UInt64.ofNat ((additions entries).length + 1)
  characters : List.Forall₂ s.AddedTo (additions entries) s.characters

/-- Where no two accounts share a login, an account is found under its own. -/
theorem account?_eq_some_iff (hlogins : (s.accounts.map (·.login)).Nodup) :
    s.account? login = some a ↔ a ∈ s.accounts ∧ a.login = login := by
  constructor
  · intro h
    exact ⟨List.mem_of_find?_eq_some h, by simpa using List.find?_some h⟩
  · rintro ⟨hmem, rfl⟩
    obtain ⟨b, hb⟩ : ∃ b, s.account? a.login = some b := by
      apply Option.isSome_iff_exists.mp
      simpa [account?] using ⟨a, hmem, rfl⟩
    have hsame : b.login = a.login := by simpa using List.find?_some hb
    rw [hb, List.inj_on_of_nodup_map hlogins (List.mem_of_find?_eq_some hb) hmem hsame]

/-- Characters stay those that were added while accounts stay. -/
theorem Effect.addedTo (h : s.Effect e s') {d : Addition} {c : Character} (hc : s.AddedTo d c) :
    s'.AddedTo d c := by
  obtain ⟨a, ha, rfl⟩ := hc
  obtain ⟨b, hb, hsame⟩ := h.account? ha
  exact ⟨b, hb, by rw [hsame.id]⟩

/-- A store keeps accord with its past through every call. -/
theorem Accords.step (h : Accords entries s) (heffect : s.Effect e s') :
    Accords (entries ++ [e]) s' := by
  have hcharacters : List.Forall₂ s'.AddedTo (additions entries) s.characters :=
    h.characters.imp fun _ _ => heffect.addedTo
  cases heffect with
  | keeps _ _ hopens hadds hkeeps _ =>
    obtain ⟨change, hchange, haccounts⟩ := hkeeps.accounts
    have hmap {β : Type} (f : Account → β) (hf : ∀ a : Account, f (change a) = f a) :
        s'.accounts.map f = s.accounts.map f := by
      rw [haccounts, List.map_map]
      exact List.map_congr_left fun a _ => hf a
    have hopened : opened (entries ++ [e]) = opened entries := by simp [opened, hopens]
    have hadditions : additions (entries ++ [e]) = additions entries := by simp [additions, hadds]
    constructor
    · rw [hmap (·.login) fun a => (hchange a).login]
      exact h.logins
    · intro a ha
      rw [haccounts] at ha
      obtain ⟨b, hb, rfl⟩ := List.mem_map.mp ha
      rw [(hchange b).login]
      exact h.valid b hb
    · rw [hmap (·.id) fun a => (hchange a).id, hopened]
      exact h.accountIds
    · rw [hkeeps.nextAccount, hopened]
      exact h.nextAccount
    · rw [hkeeps.characters, hadditions]
      exact h.characterIds
    · rw [hkeeps.nextCharacter, hadditions]
      exact h.nextCharacter
    · rw [hkeeps.characters, hadditions]
      exact hcharacters
  | opens login email password salt credential hvalid hfree =>
    have hopened : opened (entries ++ [⟨.createAccount login email password salt,
        .ok (.account s.nextAccount)⟩]) = opened entries + 1 := by
      simp [opened, Entry.opens]
    have hadditions : additions (entries ++ [⟨.createAccount login email password salt,
        .ok (.account s.nextAccount)⟩]) = additions entries := by
      simp [additions, Entry.addition?]
    rw [← hadditions] at hcharacters
    constructor
    · have hnew : login ∉ s.accounts.map (·.login) := by
        simpa [account?] using hfree
      simpa [List.nodup_append] using ⟨h.logins, fun a ha heq => hnew (heq ▸ List.mem_map_of_mem ha)⟩
    · intro a ha
      rcases List.mem_append.mp ha with hold | hnew
      · exact h.valid a hold
      · rw [List.mem_singleton.mp hnew]
        exact hvalid
    · rw [hopened, List.range_succ, List.map_append, List.map_append, h.accountIds, h.nextAccount]
      rfl
    · rw [hopened, UInt32.ofNat_add]
      exact congrArg (· + 1) h.nextAccount
    · rw [hadditions]
      exact h.characterIds
    · rw [hadditions]
      exact h.nextCharacter
    · exact hcharacters
  | adds login name classId level a hfound =>
    have hopened : opened (entries ++ [⟨.addCharacter login name classId level,
        .ok (.character s.nextCharacter)⟩]) = opened entries := by
      simp [opened, Entry.opens]
    have hadditions : additions (entries ++ [⟨.addCharacter login name classId level,
        .ok (.character s.nextCharacter)⟩]) =
        additions entries ++ [⟨login, s.nextCharacter, name, classId, level⟩] := by
      simp [additions, Entry.addition?]
    constructor
    · exact h.logins
    · exact h.valid
    · rw [hopened]
      exact h.accountIds
    · rw [hopened]
      exact h.nextAccount
    · rw [hadditions, List.length_append, List.length_singleton, List.range_succ, List.map_append,
        List.map_append, h.characterIds, h.nextCharacter]
      rfl
    · rw [hadditions, List.length_append, List.length_singleton, UInt64.ofNat_add]
      exact congrArg (· + 1) h.nextCharacter
    · rw [hadditions]
      exact List.rel_append hcharacters (.cons ⟨a, hfound, rfl⟩ .nil)

/-- A store keeps accord with its past through every run. -/
theorem Accords.run (h : Accords entries s) (calls : List Call) :
    Accords (entries ++ s.past calls) (s.run calls) := by
  induction calls generalizing entries s with
  | nil =>
    rw [past, List.append_nil]
    exact h
  | cons call rest ih =>
    have hrest := ih (h.step (s.effect_perform call))
    rw [List.append_assoc] at hrest
    exact hrest

/-- A new store has no past. -/
theorem accords_withIterations (iterations : UInt32) (h : iterations ≠ 0) :
    Accords [] (withIterations iterations h) := by
  constructor <;> simp [withIterations, opened, additions]

/-- The first 2³² ids of accounts differ. -/
theorem Accords.accountIds_nodup (h : Accords entries s) (few : opened entries ≤ 2 ^ 32) :
    (s.accounts.map (·.id)).Nodup := by
  rw [h.accountIds]
  refine List.nodup_range.map_on fun x hx y hy heq => ?_
  rw [List.mem_range] at hx hy
  rw [← UInt32.toNat_inj, UInt32.toNat_ofNat', UInt32.toNat_ofNat'] at heq
  omega

/-- The first 2⁶⁴ ids of characters differ. -/
theorem Accords.characterIds_nodup (h : Accords entries s)
    (few : (additions entries).length ≤ 2 ^ 64) : (s.characters.map (·.id)).Nodup := by
  rw [h.characterIds]
  refine List.nodup_range.map_on fun x hx y hy heq => ?_
  rw [List.mem_range] at hx hy
  rw [← UInt64.toNat_inj, UInt64.toNat_ofNat', UInt64.toNat_ofNat'] at heq
  omega

/-- The characters under the id of an account are those added under its login. -/
theorem Accords.filter_account (h : Accords entries s) (few : opened entries ≤ 2 ^ 32)
    (hfound : s.account? login = some a) :
    s.characters.filter (·.account == a.id) =
      ((additions entries).filter (·.login == login)).map (·.character a.id) := by
  obtain ⟨ha, hlogin⟩ := (account?_eq_some_iff h.logins).mp hfound
  -- an id names one login
  have hid {b : Account} {other : String} (hb : s.account? other = some b) :
      b.id = a.id ↔ other = login := by
    obtain ⟨hmem, hother⟩ := (account?_eq_some_iff h.logins).mp hb
    constructor
    · intro heq
      rw [← hother, List.inj_on_of_nodup_map (h.accountIds_nodup few) hmem ha heq, hlogin]
    · rintro rfl
      rw [Option.some.inj (hb.symm.trans hfound)]
  have hall := h.characters
  generalize additions entries = ds at hall
  generalize s.characters = cs at hall
  induction hall with
  | nil => rfl
  | @cons d c ds cs hadded _ ih =>
    obtain ⟨b, hb, rfl⟩ := hadded
    by_cases heq : d.login = login
    · have hsame : b.id = a.id := (hid hb).mpr heq
      simp [heq, Addition.character, hsame, ih]
    · have hother : b.id ≠ a.id := fun hsame => heq ((hid hb).mp hsame)
      simp [heq, Addition.character, hother, ih]

/-- A store is sound after a past: it has the accounts that were opened, each is found under its own
login, which is valid, and no two have the same id; no two characters have the same id; and, while
the store is available, the characters under a login are those that were added under it, in the
order of addition, and under an unknown login there are none.

Ids of characters have 64 bits and would begin again after 2⁶⁴ additions. No store gets there: it
never lets go of a character, and that many do not fit into a memory with addresses of 64 bits. -/
structure Sound (entries : List Entry) (s : AccountStore) : Prop where
  count : s.accounts.length = opened entries
  found : ∀ a ∈ s.accounts, s.account? a.login = some a
  own : ∀ login a, s.account? login = some a → a.login = login ∧ validateLogin login = .ok ()
  accountIds : (s.accounts.map (·.id)).Nodup
  characterIds : (additions entries).length ≤ 2 ^ 64 → (s.characters.map (·.id)).Nodup
  characters : s.available = true → ∀ login a, s.account? login = some a →
    s.charactersOf login =
      .ok (((additions entries).filter (·.login == login)).map (·.character a.id))
  unknown : s.available = true → ∀ login, s.account? login = none → s.charactersOf login = .ok []

/-- A store that accords with its past is sound. -/
theorem Accords.sound (h : Accords entries s) (few : opened entries ≤ 2 ^ 32) : Sound entries s where
  count := by simpa using congrArg List.length h.accountIds
  found a ha := (account?_eq_some_iff h.logins).mpr ⟨ha, rfl⟩
  own login a hfound := by
    obtain ⟨ha, rfl⟩ := (account?_eq_some_iff h.logins).mp hfound
    exact ⟨rfl, h.valid a ha⟩
  accountIds := h.accountIds_nodup few
  characterIds := h.characterIds_nodup
  characters available login a hfound := by
    rw [charactersOf, hfound, ask, if_pos available]
    exact congrArg Except.ok (h.filter_account few hfound)
  unknown available login hnone := by
    rw [charactersOf, hnone, ask, if_pos available]

/-- What calls cannot do to a store: one that fails changes nothing; none changes whose an account
is, or opens a second one under its login; and while the store is unavailable, lookups fail and no
account is opened. -/
structure Steady (s : AccountStore) : Prop where
  failures : ∀ call err, (s.perform call).1 = .error err → (s.perform call).2 = s
  accounts : ∀ login a, s.account? login = some a → ∀ later, ∃ a',
    (s.run later).account? login = some a' ∧ a'.id = a.id ∧ a'.email = a.email ∧
      a'.credential = a.credential
  duplicates : ∀ login email password salt, (s.account? login).isSome = true →
    ∃ err, (s.createAccount login email password salt).1 = .error err
  outage : s.available = false → ∀ call : Call, call.needsStore = true →
    ∃ err, (s.perform call).1 = .error err

/-- Any store is steady. -/
theorem steady (s : AccountStore) : s.Steady where
  failures _ _ := perform_of_error
  accounts login a hfound later := by
    obtain ⟨a', ha', hsame⟩ := account?_run hfound later
    exact ⟨a', ha', hsame.id, hsame.email, hsame.credential⟩
  duplicates login email password salt := createAccount_of_taken email password salt
  outage unavailable _ := perform_of_unavailable unavailable

/-- After any calls in which fewer than 2³² − 1 accounts were opened, a store is sound and steady. -/
theorem integrity_of_run (iterations : UInt32) (h : iterations ≠ 0) (calls : List Call)
    (few : opened ((withIterations iterations h).past calls) < 2 ^ 32 - 1) :
    Sound ((withIterations iterations h).past calls) ((withIterations iterations h).run calls) ∧
      ((withIterations iterations h).run calls).Steady := by
  have haccords := (accords_withIterations iterations h).run calls
  exact ⟨haccords.sound (by rw [List.nil_append]; omega), steady _⟩

/-- Two players get their characters in turn; a second account under the login of one is refused,
and so is an account that is asked for during an outage. -/
def twoPlayers : List Call :=
  [.createAccount "alice" "alice@example.com" "secret" (saltFor 1),
    .createAccount "bob" "" "pw" (saltFor 2), .addCharacter "alice" "Valla" 3 70,
    .addCharacter "bob" "Tyrael" 1 5, .createAccount "alice" "" "other" (saltFor 3),
    .addCharacter "alice" "Li-Ming" 6 12, .setAvailable false,
    .createAccount "carol" "" "pw" (saltFor 3), .setAvailable true]

/-- The characters of the two players are not mixed up. -/
theorem integrity_of_run_twoPlayers :
    (1 : UInt32) ≠ 0 ∧ opened ((withIterations 1 (by decide)).past twoPlayers) < 2 ^ 32 - 1 ∧
      ∃ a, ((withIterations 1 (by decide)).run twoPlayers).account? "alice" = some a ∧
        ((withIterations 1 (by decide)).run twoPlayers).charactersOf "alice" =
          .ok [{ id := 1, account := a.id, name := "Valla", classId := 3, level := 70 },
            { id := 3, account := a.id, name := "Li-Ming", classId := 6, level := 12 }] := by
  have hfew : opened ((withIterations 1 (by decide)).past twoPlayers) < 2 ^ 32 - 1 := by
    decide +kernel
  have havailable : ((withIterations 1 (by decide)).run twoPlayers).available = true := by
    decide +kernel
  have hadded : (additions ((withIterations 1 (by decide)).past twoPlayers)).filter
      (·.login == "alice") = [⟨"alice", 1, "Valla", 3, 70⟩, ⟨"alice", 3, "Li-Ming", 6, 12⟩] := by
    decide +kernel
  have hfound : (((withIterations 1 (by decide)).run twoPlayers).account? "alice").isSome = true := by
    decide +kernel
  obtain ⟨a, ha⟩ := Option.isSome_iff_exists.mp hfound
  obtain ⟨hsound, -⟩ := integrity_of_run 1 (by decide) twoPlayers hfew
  refine ⟨by decide, hfew, a, ha, ?_⟩
  rw [hsound.characters havailable "alice" a ha, hadded]
  rfl

end AccountStore

end PlayServer
