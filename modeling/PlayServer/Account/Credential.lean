import PlayServer.Hash.Sha256
import PlayServer.Text.Base64
import PlayServer.Text.Blank
import PlayServer.Text.Numeral
import PlayServer.Text.Utf8

/-!
# Password credentials

A credential holds a salted key derived from a password, never the password. Its text form has
four parts with `$` between them: the scheme, the number of iterations, and the salt and the key
in Base64. Reading accepts any spelling of the number and nothing else; writing then gives the
one canonical form.
-/

namespace PlayServer

/-- A salted, iterated hash of a password. -/
structure Credential where
  iterations : UInt32
  salt : Vector UInt8 16
  key : Vector UInt8 32
  iterations_ne_zero : iterations ≠ 0 := by decide
  deriving DecidableEq

namespace Credential

/-- The name of the scheme in the text form. -/
def scheme : String := "pbkdf2-sha256"

/-- The work factor of a store that is given none. -/
def defaultIterations : UInt32 := 10000

/-- The key for a password under a salt and a work factor. -/
def keyOf (password : String) (salt : Vector UInt8 16) (iterations : UInt32) : Vector UInt8 32 :=
  ⟨(Sha256.derive (utf8 password) salt.toList iterations.toNat).toArray,
    by simp [Sha256.length_derive]⟩

/-- A credential for a password. -/
def derive (password : String) (salt : Vector UInt8 16) (iterations : UInt32)
    (h : iterations ≠ 0) : Credential where
  iterations
  salt
  key := keyOf password salt iterations
  iterations_ne_zero := h

/-- Whether a password is the one the credential was derived from. -/
def verify (c : Credential) (password : String) : Bool :=
  keyOf password c.salt c.iterations == c.key

/-- The text form. -/
def encode (c : Credential) : String :=
  "$".intercalate
    [scheme, toString c.iterations.toNat, String.ofList (Base64.encode c.salt.toList),
      String.ofList (Base64.encode c.key.toList)]

/-- A byte string as a vector, if it has the length asked for. -/
def ofLength? (n : Nat) (bs : Bytes) : Option (Vector UInt8 n) :=
  if h : bs.length = n then some ⟨bs.toArray, by simpa using h⟩ else none

/-- Reads the text form. -/
def decode? (s : String) : Option Credential :=
  match Text.splitAtChar '$' s with
  | [name, count, salt, key] => do
    if name ≠ scheme then none
    let n ← Text.unsigned? UInt32.size count
    let salt ← (Base64.decode salt.toList).bind (ofLength? 16)
    let key ← (Base64.decode key.toList).bind (ofLength? 32)
    if h : UInt32.ofNat n ≠ 0 then some ⟨UInt32.ofNat n, salt, key, h⟩ else none
  | _ => none

/-- What may be shown of a credential: the work factor alone. -/
def redacted (c : Credential) : String :=
  "Credential \x7b iterations: " ++ toString c.iterations.toNat ++ ", .. \x7d"

end Credential

end PlayServer
