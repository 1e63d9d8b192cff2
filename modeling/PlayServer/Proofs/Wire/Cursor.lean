import PlayServer.Proofs.Text.Prefix
import PlayServer.Wire.Body

/-!
# Reading bodies back

What a cursor reads depends on the bytes that are left and on nothing else. So a cursor is taken
apart into the bytes that it has passed and those that it has not, `Cursor.between`, and each read
has a law in these terms: over a field that was written, whatever follows it, the read gives the
field and passes exactly its bytes.

The law of short texts comes in two halves. What was written is read as the longest text within the
limit, `Cursor.shortText_encodeShortText`. In the other direction any bytes at all either begin with
a short text that was written in full or show one of three faults, and the read tells which:
`Cursor.shortText_cases`.
-/

namespace PlayServer

/-- Bytes that do not read as a text are not those of any. -/
theorem ofUtf8?_eq_none_iff {bs : Bytes} : ofUtf8? bs = none ↔ ∀ text, utf8 text ≠ bs := by
  constructor
  · rintro hnone text rfl
    rw [ofUtf8?_utf8] at hnone
    cases hnone
  · intro h
    cases htext : ofUtf8? bs with
    | none => rfl
    | some text => exact absurd (utf8_of_ofUtf8? htext) (h text)

namespace Field

/-- The bytes of one field and those of the others. -/
@[simp] theorem encodeAll_cons (field : Field) (fields : List Field) :
    encodeAll (field :: fields) = field.encode ++ encodeAll fields :=
  List.flatMap_cons ..

/-- The bytes of some fields and those of the fields after them. -/
@[simp] theorem encodeAll_append (fields fields' : List Field) :
    encodeAll (fields ++ fields') = encodeAll fields ++ encodeAll fields' :=
  List.flatMap_append

/-- One byte is written as it is. -/
theorem encode_u8 (value : UInt8) : (u8 value).encode = [value] := by
  simp [encode, BigEndian.encode]

end Field

/-- A text is spelled as a short text by its length in one byte, and then its bytes. -/
inductive SpellsShortText (text : String) : Bytes → Prop where
  | mk (length : UInt8) (size : length.toNat = (utf8 text).length) :
    SpellsShortText text (length :: utf8 text)

/-- Why some bytes do not begin with a short text. -/
inductive ShortTextFault (field : String) : Bytes → BodyError → Prop where
  /-- There is no length. -/
  | noLength : ShortTextFault field [] (.truncated 1 0)
  /-- There are fewer bytes than the length tells. -/
  | cutOff (length : UInt8) (rest : Bytes) (short : rest.length < length.toNat) :
    ShortTextFault field (length :: rest) (.truncated length.toNat rest.length)
  /-- The bytes are there but are those of no text. -/
  | illFormed (length : UInt8) (bs rest : Bytes) (size : length.toNat = bs.length)
      (noText : ∀ text, utf8 text ≠ bs) :
    ShortTextFault field (length :: (bs ++ rest)) (.invalidText field)

namespace SpellsShortText

variable {text : String} {bs : Bytes}

/-- A text that is spelled as a short text fits. -/
theorem fits (h : SpellsShortText text bs) : (utf8 text).length ≤ maxShortText := by
  obtain ⟨length, size⟩ := h
  have hbyte := length.toNat_lt
  rw [← size]
  exact Nat.le_of_lt_succ hbyte

/-- A short text is written as it is spelled. -/
theorem eq_encodeShortText (h : SpellsShortText text bs) : bs = encodeShortText text := by
  have hfits := h.fits
  obtain ⟨length, size⟩ := h
  rw [encodeShortText, clip_of_fits hfits, ← size, UInt8.ofNat_toNat]

end SpellsShortText

/-- What is written for a text spells as much of it as fits. -/
theorem spellsShortText_clipped (s : String) :
    SpellsShortText (Text.clipped maxShortText s) (encodeShortText s) := by
  have hsize := Text.length_clip_le maxShortText s
  rw [encodeShortText, ← Text.utf8_clipped]
  rw [← Text.utf8_clipped] at hsize
  refine ⟨_, ?_⟩
  rw [UInt8.toNat_ofNat']
  exact Nat.mod_eq_of_lt (Nat.lt_succ_of_le hsize)

namespace Cursor

/-- The cursor that has passed some bytes and has others left. -/
def between (passed left : Bytes) : Cursor := ⟨passed ++ left, passed.length⟩

/-- At the start of a body nothing has been passed. -/
theorem mk_zero (body : Bytes) : Cursor.mk body 0 = between [] body := rfl

@[simp] theorem remaining_between (passed left : Bytes) :
    (between passed left).remaining = left := List.drop_left

/-- Where enough is left, exactly as many bytes are taken. -/
theorem read_append (passed bs left : Bytes) :
    (between passed (bs ++ left)).read bs.length =
      (some bs, between (passed ++ bs) left) := by
  have hroom : (between passed (bs ++ left)).position + bs.length ≤
      (between passed (bs ++ left)).data.length := by
    simp only [between, List.length_append]
    omega
  rw [read, if_pos hroom, remaining_between, List.take_left]
  simp [between]

/-- Where too little is left, nothing is taken. -/
theorem read_of_lt (passed : Bytes) {left : Bytes} {n : Nat} (short : left.length < n) :
    (between passed left).read n = (none, between passed left) := by
  have hroom : ¬(between passed left).position + n ≤ (between passed left).data.length := by
    simp only [between, List.length_append]
    omega
  rw [read, if_neg hroom]

/-- A number that was written is read. -/
theorem number_encode (passed : Bytes) {width n : Nat} (fits : n < BigEndian.bound width)
    (left : Bytes) : (between passed (BigEndian.encode width n ++ left)).number width =
      (some n, between (passed ++ BigEndian.encode width n) left) := by
  have hread := read_append passed (BigEndian.encode width n) left
  rw [BigEndian.length_encode] at hread
  rw [number, hread]
  simp only [Option.map_some, BigEndian.decode_encode fits]

/-- One byte is read. -/
@[simp] theorem u8_cons (passed : Bytes) (b : UInt8) (left : Bytes) :
    (between passed (b :: left)).u8 = (some b, between (passed ++ [b]) left) := by
  have hbyte : BigEndian.encode 1 b.toNat = [b] := Field.encode_u8 b
  have hfits : b.toNat < BigEndian.bound 1 := b.toNat_lt
  have hnumber := number_encode passed hfits left
  rw [hbyte, List.singleton_append] at hnumber
  rw [u8, hnumber]
  simp only [Option.map_some, UInt8.ofNat_toNat]

/-- From nothing no byte is read. -/
@[simp] theorem u8_nil (passed : Bytes) :
    (between passed []).u8 = (none, between passed []) := by
  rw [u8, number, read_of_lt passed (by decide)]
  rfl

/-- A 16-bit number that was written is read. -/
theorem u16_encode (passed : Bytes) (v : UInt16) (left : Bytes) :
    (between passed (BigEndian.encode 2 v.toNat ++ left)).u16 =
      (some v, between (passed ++ BigEndian.encode 2 v.toNat) left) := by
  rw [u16, number_encode passed v.toNat_lt]
  simp only [Option.map_some, UInt16.ofNat_toNat]

/-- A 32-bit number that was written is read. -/
theorem u32_encode (passed : Bytes) (v : UInt32) (left : Bytes) :
    (between passed (BigEndian.encode 4 v.toNat ++ left)).u32 =
      (some v, between (passed ++ BigEndian.encode 4 v.toNat) left) := by
  rw [u32, number_encode passed v.toNat_lt]
  simp only [Option.map_some, UInt32.ofNat_toNat]

/-- A 64-bit number that was written is read. -/
theorem u64_encode (passed : Bytes) (v : UInt64) (left : Bytes) :
    (between passed (BigEndian.encode 8 v.toNat ++ left)).u64 =
      (some v, between (passed ++ BigEndian.encode 8 v.toNat) left) := by
  rw [u64, number_encode passed v.toNat_lt]
  simp only [Option.map_some, UInt64.ofNat_toNat]

/-- Bytes that are there are a text or the fault that they are none. -/
theorem shortText_read (passed : Bytes) {length : UInt8} {bs : Bytes}
    (size : length.toNat = bs.length) (left : Bytes) (field : String) :
    (between passed (length :: (bs ++ left))).shortText field =
      ((ofUtf8? bs).elim (.error (.invalidText field)) .ok,
        between (passed ++ length :: bs) left) := by
  have hread := read_append (passed ++ [length]) bs left
  rw [List.append_assoc, List.singleton_append] at hread
  rw [shortText, u8_cons]
  dsimp only
  rw [size, hread]
  dsimp only
  cases ofUtf8? bs <;> rfl

/-- A short text that is spelled out is read. -/
theorem shortText_of_spells (passed : Bytes) {text : String} {bs : Bytes}
    (spelled : SpellsShortText text bs) (left : Bytes) (field : String) :
    (between passed (bs ++ left)).shortText field = (.ok text, between (passed ++ bs) left) := by
  obtain ⟨length, size⟩ := spelled
  rw [List.cons_append, shortText_read passed size left field, ofUtf8?_utf8]
  rfl

/-- What was written for a text reads as much of it as fits. -/
theorem shortText_encodeShortText (passed : Bytes) (s : String) (left : Bytes) (field : String) :
    (between passed (encodeShortText s ++ left)).shortText field =
      (.ok (Text.clipped maxShortText s), between (passed ++ encodeShortText s) left) :=
  shortText_of_spells passed (spellsShortText_clipped s) left field

/-- A fault is told as it is. -/
theorem shortText_of_fault (passed : Bytes) {field : String} {left : Bytes} {e : BodyError}
    (fault : ShortTextFault field left e) :
    ∃ after, (between passed left).shortText field = (.error e, after) := by
  cases fault with
  | noLength =>
    refine ⟨between passed [], ?_⟩
    rw [shortText, u8_nil]
    dsimp only
    rw [remaining_between]
    rfl
  | cutOff length rest short =>
    refine ⟨between (passed ++ [length]) rest, ?_⟩
    rw [shortText, u8_cons]
    dsimp only
    rw [read_of_lt _ short]
    dsimp only
    rw [remaining_between]
  | illFormed length bs rest size noText =>
    refine ⟨between (passed ++ length :: bs) rest, ?_⟩
    rw [shortText_read passed size, ofUtf8?_eq_none_iff.mpr noText]
    rfl

/-- Any bytes begin with a short text or show a fault. -/
theorem shortText_cases (field : String) (left : Bytes) :
    (∃ text bs left', SpellsShortText text bs ∧ left = bs ++ left') ∨
      ∃ e, ShortTextFault field left e := by
  cases left with
  | nil => exact .inr ⟨_, .noLength⟩
  | cons length rest =>
    by_cases hshort : rest.length < length.toNat
    · exact .inr ⟨_, .cutOff length rest hshort⟩
    have hsize : length.toNat = (rest.take length.toNat).length := by
      rw [List.length_take]
      omega
    have hsplit : length :: rest =
        length :: (rest.take length.toNat ++ rest.drop length.toNat) := by
      rw [List.take_append_drop]
    cases htext : ofUtf8? (rest.take length.toNat) with
    | none =>
      right
      rw [hsplit]
      exact ⟨_, .illFormed length _ _ hsize (ofUtf8?_eq_none_iff.mp htext)⟩
    | some text =>
      have hbytes := utf8_of_ofUtf8? htext
      rw [← hbytes] at hsize hsplit
      exact .inl ⟨text, _, _, .mk length hsize, hsplit⟩

end Cursor

end PlayServer
