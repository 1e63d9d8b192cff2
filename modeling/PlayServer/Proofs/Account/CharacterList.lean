import Mathlib.Data.List.Forall2
import PlayServer.Account.CharacterList
import PlayServer.Proofs.Wire.Cursor

/-!
# Lists of characters are read as they were written

Nothing in the body of a character list separates one entry from the next: where an entry ends is
known only from the length of its name. `Cursor.characterList` reads such a body field by field, as
a client does, and `readsBack_characterListBody` says that it finds every entry where it was
written. This holds for one entry whatever follows it, `Cursor.listedCharacter_fields`, and so for
any number of them by induction.
-/

namespace PlayServer

/-- What a list tells of one character. -/
structure ListedCharacter where
  id : UInt64
  name : String
  classId : UInt8
  level : UInt8
  deriving DecidableEq, Repr

/-- An entry tells of a character: all as it is stored, but of the name only as much as fits. -/
structure ListedCharacter.TellsOf (entry : ListedCharacter) (c : Character) : Prop where
  id : entry.id = c.id
  name : Text.IsLongestPrefix 255 c.name entry.name
  classId : entry.classId = c.classId
  level : entry.level = c.level

/-- What a list tells of a character, when it does. -/
def Character.listed (c : Character) : ListedCharacter where
  id := c.id
  name := Text.clipped maxShortText c.name
  classId := c.classId
  level := c.level

/-- What a list tells of a character is right. -/
theorem Character.tellsOf_listed (c : Character) : c.listed.TellsOf c where
  id := rfl
  name := Text.isLongestPrefix_clipped _ _
  classId := rfl
  level := rfl

/-- The bytes of one entry. -/
theorem Character.encodeAll_fields (c : Character) : Field.encodeAll c.fields =
    BigEndian.encode 8 c.id.toNat ++ (encodeShortText c.name ++ [c.classId, c.level]) := by
  simp [fields, Field.encodeAll, Field.encode, BigEndian.encode]

/-- One byte can tell how many characters are listed. -/
theorem toNat_length_take (characters : List Character) :
    (UInt8.ofNat (characters.take maxListedCharacters).length).toNat =
      (characters.take maxListedCharacters).length := by
  rw [UInt8.toNat_ofNat', List.length_take, maxListedCharacters]
  omega

namespace Cursor

/-- Reads one entry. -/
def listedCharacter (c : Cursor) : Option (ListedCharacter × Cursor) := do
  let (some id, c) := c.u64 | none
  let (.ok name, c) := c.shortText "name" | none
  let (some classId, c) := c.u8 | none
  let (some level, c) := c.u8 | none
  return ({ id, name, classId, level }, c)

/-- Reads so many entries, one after the other. -/
def listedCharacters : (count : Nat) → Cursor → Option (List ListedCharacter × Cursor)
  | 0, c => some ([], c)
  | count + 1, c => do
    let (entry, c) ← c.listedCharacter
    let (entries, c) ← listedCharacters count c
    return (entry :: entries, c)

/-- Reads a list: the number of its entries, and then these. -/
def characterList (c : Cursor) : Option (UInt8 × List ListedCharacter × Cursor) := do
  let (some count, c) := c.u8 | none
  let (entries, c) ← c.listedCharacters count.toNat
  return (count, entries, c)

/-- An entry that was written is read, whatever follows it. -/
theorem listedCharacter_fields (passed : Bytes) (c : Character) (left : Bytes) :
    (between passed (Field.encodeAll c.fields ++ left)).listedCharacter =
      some (c.listed, between (passed ++ Field.encodeAll c.fields) left) := by
  rw [c.encodeAll_fields, List.append_assoc, List.append_assoc, listedCharacter, u64_encode]
  dsimp only
  rw [shortText_encodeShortText]
  dsimp only
  rw [List.cons_append, u8_cons]
  dsimp only
  rw [List.cons_append, u8_cons]
  simp [Character.listed]

/-- Entries that were written one after the other are read, whatever follows them. -/
theorem listedCharacters_fields (passed : Bytes) (characters : List Character) (left : Bytes) :
    (between passed (Field.encodeAll (characters.flatMap Character.fields) ++ left)).listedCharacters
        characters.length =
      some (characters.map Character.listed,
        between (passed ++ Field.encodeAll (characters.flatMap Character.fields)) left) := by
  induction characters generalizing passed with
  | nil => simp [listedCharacters, Field.encodeAll]
  | cons c rest ih =>
    rw [List.flatMap_cons, Field.encodeAll_append, List.append_assoc, List.length_cons,
      listedCharacters, listedCharacter_fields]
    simp only [Option.bind_eq_bind, Option.bind_some]
    rw [ih, List.append_assoc]
    rfl

/-- A list that was written is read to its end. -/
theorem characterList_characterListBody (characters : List Character) :
    (mk (characterListBody characters) 0).characterList =
      some (UInt8.ofNat (characters.take maxListedCharacters).length,
        (characters.take maxListedCharacters).map Character.listed,
        between (characterListBody characters) []) := by
  have hentries := listedCharacters_fields
    [UInt8.ofNat (characters.take maxListedCharacters).length]
    (characters.take maxListedCharacters) []
  rw [List.append_nil] at hentries
  rw [mk_zero, characterListBody, Field.encodeAll_cons, Field.encode_u8, List.singleton_append,
    characterList, u8_cons]
  dsimp only
  rw [toNat_length_take, List.nil_append, hentries]
  rfl

end Cursor

/-- A list that was written is read without a fault and to its end. It tells of the first 255
characters, of all if there are no more, and of each it tells the id, the class and the level as
they are stored and the longest name of at most 255 bytes that the stored name begins with. -/
theorem readsBack_characterListBody (characters : List Character) :
    ∃ count entries after,
      (Cursor.mk (characterListBody characters) 0).characterList = some (count, entries, after) ∧
        count.toNat = min 255 characters.length ∧
        List.Forall₂ ListedCharacter.TellsOf entries (characters.take count.toNat) ∧
        after.data = characterListBody characters ∧
        after.position = (characterListBody characters).length := by
  have hcount : (UInt8.ofNat (characters.take maxListedCharacters).length).toNat =
      min 255 characters.length := by
    rw [toNat_length_take, List.length_take, maxListedCharacters]
  have hlisted : characters.take (min 255 characters.length) =
      characters.take maxListedCharacters := by
    rw [maxListedCharacters, List.take_eq_take_iff]
    omega
  refine ⟨_, _, _, Cursor.characterList_characterListBody characters, hcount, ?_, ?_, rfl⟩
  · rw [hcount, hlisted, List.forall₂_map_left_iff, List.forall₂_same]
    intro c _
    exact c.tellsOf_listed
  · exact List.append_nil _

end PlayServer
