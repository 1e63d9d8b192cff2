import PlayServer.Account.Store
import PlayServer.Proofs.Text.Base64
import PlayServer.Proofs.Text.Numeral
import PlayServer.Proofs.Text.Pieces

/-!
# The grammar of credentials in text form

A text spells a credential when it is the scheme, a numeral for the number of iterations, and the
Base64 of the salt and of the key, with `$` between them: `Credential.Spells`. Reading accepts
exactly these texts. Several texts spell one credential, since a number has several numerals;
writing gives the one among them whose numeral is canonical.

The main result is `Credential.decode_exact`. It rests on the grammars of the parts: of a text that
is split at a character, of numerals, and of Base64.
-/

namespace PlayServer

namespace Credential

variable {c : Credential} {numeral s : String}

/-- The text form of a credential with a given text for the number of its iterations. -/
def form (c : Credential) (numeral : String) : String :=
  "$".intercalate
    [scheme, numeral, String.ofList (Base64.encode c.salt.toList),
      String.ofList (Base64.encode c.key.toList)]

/-- A text spells a credential, the number of its iterations by a numeral. -/
structure Spells (c : Credential) (numeral s : String) : Prop where
  text : s = c.form numeral
  numeral : Text.Numeral numeral.toList c.iterations.toNat

/-- What is written for a credential spells it. -/
theorem spells_encode (c : Credential) : c.Spells (toString c.iterations.toNat) c.encode where
  text := rfl
  numeral := Text.numeral_toString _

/-- Of all texts that spell a credential the one with the canonical numeral is written. -/
theorem Spells.encode_eq (h : c.Spells numeral s) : c.encode = c.form (Text.canonical numeral) := by
  have hne : c.iterations.toNat ≠ 0 := fun hzero =>
    c.iterations_ne_zero (UInt32.toNat_inj.mp hzero)
  rw [Text.canonical_of_numeral h.numeral hne]
  rfl

/-- A vector is read from exactly its own bytes. -/
theorem ofLength?_eq_some_iff {n : Nat} {bs : Bytes} {v : Vector UInt8 n} :
    ofLength? n bs = some v ↔ bs = v.toList := by
  unfold ofLength?
  split
  · next h =>
    rw [Option.some_inj, ← Vector.toList_inj]
    simp [Vector.toList_mk]
  · next h =>
    constructor
    · intro hnone
      cases hnone
    · rintro rfl
      exact absurd v.length_toList h

/-- A vector is read from exactly the Base64 that is written for it. -/
theorem decodeVector_eq_some_iff {n : Nat} {text : String} {v : Vector UInt8 n} :
    (Base64.decode text.toList).bind (ofLength? n) = some v ↔
      text = String.ofList (Base64.encode v.toList) := by
  rw [Option.bind_eq_some_iff, ← String.toList_inj, String.toList_ofList]
  constructor
  · rintro ⟨bs, hread, hbs⟩
    rw [← ofLength?_eq_some_iff.mp hbs]
    exact Base64.decode_eq_some_iff.mp hread
  · intro htext
    exact ⟨v.toList, Base64.decode_eq_some_iff.mpr htext, ofLength?_eq_some_iff.mpr rfl⟩

/-- A text is read by its parts. -/
theorem decode?_of_parts {name count salt key : String}
    (parts : Text.splitAtChar '$' s = [name, count, salt, key]) :
    decode? s = some c ↔ name = scheme ∧
      Text.unsigned? UInt32.size count = some c.iterations.toNat ∧
      (Base64.decode salt.toList).bind (ofLength? 16) = some c.salt ∧
      (Base64.decode key.toList).bind (ofLength? 32) = some c.key := by
  unfold decode?
  rw [parts]
  by_cases hname : name = scheme
  · subst hname
    simp only [Option.bind_eq_bind, ne_eq, not_true_eq_false, if_false, true_and]
    constructor
    · intro h
      obtain ⟨n, hn, h⟩ := Option.bind_eq_some_iff.mp h
      obtain ⟨salt', hsalt, h⟩ := Option.bind_eq_some_iff.mp h
      obtain ⟨key', hkey, h⟩ := Option.bind_eq_some_iff.mp h
      obtain ⟨hne, heq⟩ := Option.dite_none_right_eq_some.mp h
      cases heq
      have hlt : n < UInt32.size := (Text.unsigned?_eq_some_iff.mp hn).2
      refine ⟨?_, hsalt, hkey⟩
      rw [hn, UInt32.toNat_ofNat', Nat.mod_eq_of_lt hlt]
    · rintro ⟨hn, hsalt, hkey⟩
      simp [hn, hsalt, hkey, c.iterations_ne_zero]
  · simp [hname]

/-- Only a text of four parts is read. -/
theorem exists_parts_of_decode? (h : decode? s = some c) :
    ∃ name count salt key, Text.splitAtChar '$' s = [name, count, salt, key] := by
  unfold decode? at h
  split at h
  · next name count salt key hparts => exact ⟨name, count, salt, key, hparts⟩
  · cases h

/-- The parts of a text that spells a credential. -/
theorem Spells.parts (h : c.Spells numeral s) :
    Text.splitAtChar '$' s =
      [scheme, numeral, String.ofList (Base64.encode c.salt.toList),
        String.ofList (Base64.encode c.key.toList)] := by
  have hnumeral : '$' ∉ numeral.toList := fun hmem => by
    rcases h.numeral.forall_mem '$' hmem with heq | hdigit
    · cases heq
    · cases hdigit
  have hbase64 (bs : Bytes) : '$' ∉ (String.ofList (Base64.encode bs)).toList := by
    rw [String.toList_ofList]
    intro hmem
    rcases Base64.forall_mem_encode bs '$' hmem with heq | hdigit
    · cases heq
    · cases hdigit
  refine Text.splitAtChar_eq_iff.mpr ⟨by simp, ?_, h.text⟩
  simp only [List.forall_mem_cons]
  exact ⟨by decide, hnumeral, hbase64 _, hbase64 _, by simp⟩

/-- Reading finds a credential in exactly the texts that spell it. -/
theorem decode?_eq_some_iff : decode? s = some c ↔ ∃ numeral, c.Spells numeral s := by
  constructor
  · intro h
    obtain ⟨name, count, salt, key, hparts⟩ := exists_parts_of_decode? h
    obtain ⟨rfl, hcount, hsalt, hkey⟩ := (decode?_of_parts hparts).mp h
    refine ⟨count, ?_, (Text.unsigned?_eq_some_iff.mp hcount).1⟩
    obtain ⟨-, -, htext⟩ := Text.splitAtChar_eq_iff.mp hparts
    rw [decodeVector_eq_some_iff.mp hsalt, decodeVector_eq_some_iff.mp hkey] at htext
    exact htext
  · rintro ⟨numeral, h⟩
    have hcount : Text.unsigned? UInt32.size numeral = some c.iterations.toNat :=
      Text.unsigned?_eq_some_iff.mpr ⟨h.numeral, c.iterations.toNat_lt⟩
    exact (decode?_of_parts h.parts).mpr
      ⟨rfl, hcount, decodeVector_eq_some_iff.mpr rfl, decodeVector_eq_some_iff.mpr rfl⟩

/-- Reading accepts exactly the texts that spell a credential. -/
theorem decode_eq_ok_iff : decode s = .ok c ↔ ∃ numeral, c.Spells numeral s := by
  rw [← decode?_eq_some_iff, decode]
  cases decode? s <;> simp

/-- What is written is read back. -/
theorem decode_encode (c : Credential) : decode c.encode = .ok c :=
  decode_eq_ok_iff.mpr ⟨_, c.spells_encode⟩

/-- All other texts are refused as malformed. -/
theorem decode_eq_error_iff {e : StoreError} :
    decode s = .error e ↔ e = .malformedCredential ∧ ∀ c numeral, ¬Spells c numeral s := by
  have hnone : decode? s = none ↔ ∀ c numeral, ¬Spells c numeral s := by
    rw [Option.eq_none_iff_forall_ne_some]
    exact forall_congr' fun c => by rw [ne_eq, decode?_eq_some_iff, not_exists]
  rw [← hnone, decode]
  cases decode? s <;> simp [eq_comm]

/-- Reading accepts exactly the texts that spell a credential: the scheme, a numeral for the number
of iterations, and the Base64 of the 16 bytes of the salt and the 32 bytes of the key, with `$`
between them. All other texts are refused as malformed. What is written is read back, and what was
read is written as it was, but for its numeral, which becomes canonical; doing so again changes
nothing. -/
theorem decode_exact (s : String) (c : Credential) :
    decode c.encode = .ok c ∧
      (decode s = .ok c ↔ ∃ numeral, c.Spells numeral s) ∧
      (∀ numeral, c.Spells numeral s → c.encode = c.form (Text.canonical numeral)) ∧
      (∀ e, decode s = .error e ↔
        e = .malformedCredential ∧ ∀ c numeral, ¬Spells c numeral s) ∧
      ((decode s).map encode).bind (fun t => (decode t).map encode) = (decode s).map encode := by
  refine ⟨c.decode_encode, decode_eq_ok_iff, fun numeral h => h.encode_eq,
    fun e => decode_eq_error_iff, ?_⟩
  cases hread : decode s with
  | error e => rfl
  | ok c' =>
    change (decode c'.encode).map encode = .ok c'.encode
    rw [c'.decode_encode]
    rfl

end Credential

end PlayServer
