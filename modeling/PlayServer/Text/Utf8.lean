import PlayServer.Bytes

/-!
# UTF-8

Text travels as UTF-8. `utf8` gives the bytes of a text and `ofUtf8?` reads bytes back, refusing
whatever is not the encoding of some text. `ofUtf8Lossy` never refuses: it puts the replacement
character in the place of each maximal ill-formed run.

`boundaryBelow` finds where a text may be cut: the greatest offset, not above a limit, at which
a character begins or the text ends. `clip` cuts there.
-/

namespace PlayServer

/-- The UTF-8 bytes of a text. -/
def utf8 (s : String) : Bytes := s.toByteArray.data.toList

/-- The text that a byte string encodes, if it is well-formed UTF-8. -/
def ofUtf8? (bs : Bytes) : Option String := String.fromUTF8? ⟨bs.toArray⟩

/-- Reading back what was written gives the text. -/
@[simp] theorem ofUtf8?_utf8 (s : String) : ofUtf8? (utf8 s) = some s := by
  have h : (⟨(utf8 s).toArray⟩ : ByteArray) = s.toByteArray := by simp [utf8]
  unfold ofUtf8? String.fromUTF8?
  rw [h, dif_pos s.isValidUTF8]
  rfl

/-- Bytes that read as a text are the bytes of that text. -/
theorem utf8_of_ofUtf8? {bs : Bytes} {s : String} (h : ofUtf8? bs = some s) : utf8 s = bs := by
  unfold ofUtf8? String.fromUTF8? at h
  split at h
  · cases h; rfl
  · cases h

namespace Text

/-- Whether a byte can begin a character, being no continuation byte. -/
def startsChar (b : UInt8) : Bool := b &&& 0xC0 != 0x80

/-- Whether a text may be cut at an offset: at its start, at its end, or where a character
begins. -/
def isBoundary (bs : Bytes) (offset : Nat) : Bool :=
  offset == 0 || match bs[offset]? with
    | some b => startsChar b
    | none => offset == bs.length

/-- The greatest place to cut at or below an offset. The search ends at the start of the text at
the latest, which is always such a place. -/
def boundaryBelow (bs : Bytes) : (offset : Nat) → Nat
  | 0 => 0
  | offset + 1 => if isBoundary bs (offset + 1) then offset + 1 else boundaryBelow bs offset

/-- The bytes of a text up to the last place to cut within the first `limit` bytes. -/
def clip (limit : Nat) (s : String) : Bytes :=
  let bs := utf8 s
  bs.take (boundaryBelow bs (min limit bs.length))

/-- The cut is never above the offset from which it is sought. -/
theorem boundaryBelow_le (bs : Bytes) (offset : Nat) : boundaryBelow bs offset ≤ offset := by
  induction offset with
  | zero => exact Nat.le_refl 0
  | succ offset ih =>
    unfold boundaryBelow
    split <;> omega

/-- A cut text respects its limit. -/
theorem length_clip_le (limit : Nat) (s : String) : (clip limit s).length ≤ limit := by
  have h := boundaryBelow_le (utf8 s) (min limit (utf8 s).length)
  simp only [clip, List.length_take]
  omega

/-- The number of continuation bytes a first byte calls for, with the range its second byte must
lie in; absent for a byte that begins no character. -/
def leadByte? (b : UInt8) : Option (Nat × UInt8 × UInt8) :=
  if b < 0x80 then some (0, 0, 0)
  else if 0xC2 ≤ b && b ≤ 0xDF then some (1, 0x80, 0xBF)
  else if b == 0xE0 then some (2, 0xA0, 0xBF)
  else if b == 0xED then some (2, 0x80, 0x9F)
  else if 0xE1 ≤ b && b ≤ 0xEF then some (2, 0x80, 0xBF)
  else if b == 0xF0 then some (3, 0x90, 0xBF)
  else if 0xF1 ≤ b && b ≤ 0xF3 then some (3, 0x80, 0xBF)
  else if b == 0xF4 then some (3, 0x80, 0x8F)
  else none

/-- How many of the bytes, at most `count` of them, continue the character: the first one within
the given range and the others as plain continuation bytes. -/
def continuation : (count : Nat) → (low high : UInt8) → Bytes → Nat
  | count + 1, low, high, b :: bs =>
    if low ≤ b && b ≤ high then continuation count 0x80 0xBF bs + 1 else 0
  | _, _, _, _ => 0

/-- The text of a byte string in which each maximal ill-formed run reads as the replacement
character, given at most `fuel` characters. -/
def lossyChars : (fuel : Nat) → Bytes → List Char
  | 0, _ => []
  | _ + 1, [] => []
  | fuel + 1, b :: bs =>
    match leadByte? b with
    | none => '\uFFFD' :: lossyChars fuel bs
    | some (count, low, high) =>
      let found := continuation count low high bs
      let char :=
        if found = count then
          match (ofUtf8? (b :: bs.take count)).map String.toList with
          | some (c :: _) => c
          | _ => '\uFFFD'
        else '\uFFFD'
      char :: lossyChars fuel (bs.drop found)

end Text

/-- The text of a byte string, with the replacement character for whatever is ill-formed. -/
def ofUtf8Lossy (bs : Bytes) : String := String.ofList (Text.lossyChars bs.length bs)

end PlayServer
