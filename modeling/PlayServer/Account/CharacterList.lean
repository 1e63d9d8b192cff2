import PlayServer.Account.Store
import PlayServer.Wire.Body

/-!
# The character list

The body that lists the characters of an account: their number in one byte, and then the id, the
name, the class and the level of each. It lists at most the first 255.
-/

namespace PlayServer

/-- The most characters that one list tells of. -/
def maxListedCharacters : Nat := 255

/-- The fields of one character in a list. -/
def Character.fields (c : Character) : List Field :=
  [.u64 c.id, .shortText c.name, .u8 c.classId, .u8 c.level]

/-- The body that lists some characters. -/
def characterListBody (characters : List Character) : Bytes :=
  let listed := characters.take maxListedCharacters
  Field.encodeAll (.u8 (UInt8.ofNat listed.length) :: listed.flatMap Character.fields)

end PlayServer
