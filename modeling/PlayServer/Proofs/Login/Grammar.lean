import PlayServer.Login.Request
import PlayServer.Proofs.Wire.Cursor

/-!
# The grammar of log-in requests

A log-in request is spelled as its message type, its login and its password, and `Spells` says so
without a word about how it is read. `Faulty` says in the same way what is wrong with bytes that do
not begin with a request, and which of the things that are wrong comes first.

The main result is `parse_exact`. Reading accepts exactly the bytes that begin with a request, every
request that is spelled is spelled as it is written, all other bytes are refused for the first thing
that is wrong with them, and what is written for any two texts reads back as much of them as fits.
-/

namespace PlayServer
namespace LoginRequest

/-- A request is spelled by its message type and the spellings of its login and its password. -/
inductive Spells : LoginRequest → Bytes → Prop where
  | mk (login password : String) (loginBytes passwordBytes : Bytes)
      (hlogin : SpellsShortText login loginBytes)
      (hpassword : SpellsShortText password passwordBytes) :
    Spells ⟨login, password⟩ (0x01 :: (loginBytes ++ passwordBytes))

/-- The first thing from left to right that is wrong with some bytes. -/
inductive Faulty : Bytes → BodyError → Prop where
  /-- There is no message type. -/
  | noType : Faulty [] (.truncated 1 0)
  /-- The message type is another one. -/
  | otherType (kind : UInt8) (rest : Bytes) (other : kind ≠ 0x01) :
    Faulty (kind :: rest) (.unexpectedType kind)
  /-- There is no login. -/
  | inLogin (rest : Bytes) (e : BodyError) (fault : ShortTextFault "login" rest e) :
    Faulty (0x01 :: rest) e
  /-- There is a login but no password. -/
  | inPassword (login : String) (loginBytes rest : Bytes) (e : BodyError)
      (hlogin : SpellsShortText login loginBytes)
      (fault : ShortTextFault "password" rest e) :
    Faulty (0x01 :: (loginBytes ++ rest)) e

/-- A request is written as its message type and then both texts. -/
theorem encode_eq (r : LoginRequest) :
    r.encode = 0x01 :: (encodeShortText r.login ++ encodeShortText r.password) := by
  simp [encode, Field.encodeAll, Field.encode, MessageType.loginRequest, BigEndian.encode]

/-- What is written for a request spells as much of its texts as fits. -/
theorem spells_clipped (r : LoginRequest) :
    Spells ⟨Text.clipped maxShortText r.login, Text.clipped maxShortText r.password⟩
      r.encode := by
  rw [encode_eq]
  exact .mk _ _ _ _ (spellsShortText_clipped r.login) (spellsShortText_clipped r.password)

/-- A request that is spelled is spelled as it is written. -/
theorem Spells.eq_encode {r : LoginRequest} {bs : Bytes} (h : r.Spells bs) : bs = r.encode := by
  obtain ⟨login, password, loginBytes, passwordBytes, hlogin, hpassword⟩ := h
  rw [hlogin.eq_encodeShortText, hpassword.eq_encodeShortText, encode_eq]

/-- After the message type come the login and the password. -/
theorem parse_cons (left : Bytes) : parse (0x01 :: left) =
    match (Cursor.between [0x01] left).shortText "login" with
    | (.error e, _) => .error e
    | (.ok login, c) =>
      match c.shortText "password" with
      | (.error e, _) => .error e
      | (.ok password, _) => .ok { login, password } := by
  rw [parse, Cursor.mk_zero, Cursor.u8_cons]
  rfl

/-- After a login comes the password. -/
theorem parse_login {login : String} {loginBytes : Bytes}
    (hlogin : SpellsShortText login loginBytes) (left : Bytes) :
    parse (0x01 :: (loginBytes ++ left)) =
      match (Cursor.between (0x01 :: loginBytes) left).shortText "password" with
      | (.error e, _) => .error e
      | (.ok password, _) => .ok { login, password } := by
  rw [parse_cons, Cursor.shortText_of_spells _ hlogin]
  rfl

/-- Bytes that begin with a request are read as it. -/
theorem parse_of_spells {r : LoginRequest} {bs : Bytes} (h : r.Spells bs) (rest : Bytes) :
    parse (bs ++ rest) = .ok r := by
  obtain ⟨login, password, loginBytes, passwordBytes, hlogin, hpassword⟩ := h
  rw [List.cons_append, List.append_assoc, parse_login hlogin,
    Cursor.shortText_of_spells _ hpassword]

/-- A fault is told as it is. -/
theorem parse_of_faulty {b : Bytes} {e : BodyError} (h : Faulty b e) : parse b = .error e := by
  cases h with
  | noType =>
    rw [parse, Cursor.mk_zero, Cursor.u8_nil]
  | otherType kind rest other =>
    have hkind : kind ≠ MessageType.loginRequest := other
    rw [parse, Cursor.mk_zero, Cursor.u8_cons]
    dsimp only
    rw [if_pos hkind]
  | inLogin rest e fault =>
    obtain ⟨after, hread⟩ := Cursor.shortText_of_fault [0x01] fault
    rw [parse_cons, hread]
  | inPassword login loginBytes rest e hlogin fault =>
    obtain ⟨after, hread⟩ := Cursor.shortText_of_fault (0x01 :: loginBytes) fault
    rw [parse_login hlogin, hread]

/-- Any bytes begin with a request or are faulty. -/
theorem spells_or_faulty (b : Bytes) :
    (∃ r bs rest, Spells r bs ∧ b = bs ++ rest) ∨ ∃ e, Faulty b e := by
  cases b with
  | nil => exact .inr ⟨_, .noType⟩
  | cons kind left =>
    by_cases hkind : kind = 0x01
    · subst hkind
      obtain ⟨login, loginBytes, left', hlogin, rfl⟩ | ⟨e, hfault⟩ :=
        Cursor.shortText_cases "login" left
      · obtain ⟨password, passwordBytes, rest, hpassword, rfl⟩ | ⟨e, hfault⟩ :=
          Cursor.shortText_cases "password" left'
        · left
          refine ⟨_, _, rest, .mk login password _ _ hlogin hpassword, ?_⟩
          rw [List.cons_append, List.append_assoc]
        · exact .inr ⟨e, .inPassword login loginBytes left' e hlogin hfault⟩
      · exact .inr ⟨e, .inLogin left e hfault⟩
    · exact .inr ⟨_, .otherType kind left hkind⟩

/-- Reading accepts exactly the bytes that begin with a request. -/
theorem parse_eq_ok_iff {b : Bytes} {r : LoginRequest} :
    parse b = .ok r ↔ ∃ bs rest, Spells r bs ∧ b = bs ++ rest := by
  constructor
  · intro hparse
    obtain ⟨r', bs, rest, hspelled, rfl⟩ | ⟨e, hfaulty⟩ := spells_or_faulty b
    · rw [parse_of_spells hspelled] at hparse
      cases hparse
      exact ⟨bs, rest, hspelled, rfl⟩
    · rw [parse_of_faulty hfaulty] at hparse
      cases hparse
  · rintro ⟨bs, rest, hspelled, rfl⟩
    exact parse_of_spells hspelled rest

/-- Reading refuses bytes for the first thing that is wrong with them. -/
theorem parse_eq_error_iff {b : Bytes} {e : BodyError} : parse b = .error e ↔ Faulty b e := by
  constructor
  · intro hparse
    obtain ⟨r, bs, rest, hspelled, rfl⟩ | ⟨e', hfaulty⟩ := spells_or_faulty b
    · rw [parse_of_spells hspelled] at hparse
      cases hparse
    · rw [parse_of_faulty hfaulty] at hparse
      cases hparse
      exact hfaulty
  · exact parse_of_faulty

/-- The texts of a request that is read fit. -/
theorem fits_of_parse {body : Bytes} {request : LoginRequest}
    (parsed : parse body = .ok request) : (utf8 request.login).length ≤ maxShortText := by
  obtain ⟨bs, rest, hspelled, -⟩ := parse_eq_ok_iff.mp parsed
  cases hspelled with
  | mk login password loginBytes passwordBytes hlogin hpassword => exact hlogin.fits

/-- Reading accepts exactly the bytes that begin with a request, and the request that it gives is
written as these bytes. All other bytes are refused for the first thing that is wrong with them.
What is written for any two texts reads back as the longest texts of at most 255 bytes that they
begin with. -/
theorem parse_exact (b : Bytes) (r : LoginRequest) :
    (parse b = .ok r ↔ ∃ bs rest, Spells r bs ∧ b = bs ++ rest) ∧
      (∀ bs, Spells r bs → r.encode = bs) ∧
      (∀ e, parse b = .error e ↔ Faulty b e) ∧
      ∃ login password, parse r.encode = .ok ⟨login, password⟩ ∧
        Text.IsLongestPrefix 255 r.login login ∧
        Text.IsLongestPrefix 255 r.password password := by
  refine ⟨parse_eq_ok_iff, fun bs h => h.eq_encode.symm, fun e => parse_eq_error_iff, ?_⟩
  have hread := parse_of_spells r.spells_clipped []
  rw [List.append_nil] at hread
  exact ⟨_, _, hread, Text.isLongestPrefix_clipped _ _, Text.isLongestPrefix_clipped _ _⟩

end LoginRequest
end PlayServer
