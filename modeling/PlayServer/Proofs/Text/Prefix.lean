import PlayServer.Text.Utf8

/-!
# Where a text is cut

A text that is too long for its place is cut where one of its characters ends. The search for that
place goes down byte by byte and looks at nothing but the byte that it stands at: a byte begins a
character, or it continues one. In UTF-8 the places that it accepts are exactly the ends of the
texts that the whole begins with: `isBoundary_utf8_iff`. So what is left is the longest of these
within the limit, `isLongestPrefix_clipped`, and at most three bytes of the limit are given away,
since no character takes more than four.
-/

namespace PlayServer

/-- The bytes of a text are those of its characters. -/
theorem utf8_eq_flatMap (s : String) : utf8 s = s.toList.flatMap String.utf8EncodeChar := by
  have hbytes : s.toByteArray = s.toList.utf8Encode := String.utf8Encode_toList.symm
  rw [utf8, hbytes, List.utf8Encode, List.data_toByteArray]

/-- The bytes of one text after the other. -/
@[simp] theorem utf8_append (s t : String) : utf8 (s ++ t) = utf8 s ++ utf8 t := by
  simp [utf8_eq_flatMap]

/-- One character again and again takes its own number of bytes each time. -/
theorem length_utf8_replicate (count : Nat) (c : Char) :
    (utf8 (String.ofList (List.replicate count c))).length = count * c.utf8Size := by
  simp [utf8_eq_flatMap]

/-- Texts with the same bytes are the same. -/
theorem utf8_inj {s t : String} : utf8 s = utf8 t ↔ s = t := by
  constructor
  · intro h
    have hread := ofUtf8?_utf8 s
    rw [h, ofUtf8?_utf8] at hread
    exact (Option.some.inj hread).symm
  · rintro rfl
    rfl

namespace Text

/-- A byte continues a character if its two upper bits are 1 and 0. -/
theorem startsChar_eq_false_iff {b : UInt8} :
    startsChar b = false ↔ 0x80 ≤ b.toNat ∧ b.toNat < 0xC0 := by
  have hall : ∀ n : Fin 256, startsChar (UInt8.ofNat n) = false ↔
      0x80 ≤ (UInt8.ofNat n).toNat ∧ (UInt8.ofNat n).toNat < 0xC0 := by decide +kernel
  have hb := hall ⟨b.toNat, b.toNat_lt⟩
  rwa [UInt8.ofNat_toNat] at hb

/-- The first byte of a character begins it, and all others continue it. -/
theorem exists_utf8EncodeChar (c : Char) : ∃ first others,
    String.utf8EncodeChar c = first :: others ∧ startsChar first = true ∧
      ∀ b ∈ others, startsChar b = false := by
  have begins {n : Nat} (h : n < 0x80 ∨ 0xC0 ≤ n ∧ n < 0x100) :
      startsChar (UInt8.ofNat n) = true := by
    rw [← Bool.not_eq_false, startsChar_eq_false_iff, UInt8.toNat_ofNat']
    omega
  have continues (n : Nat) : startsChar (UInt8.ofNat (n % 64 + 128)) = false := by
    rw [startsChar_eq_false_iff, UInt8.toNat_ofNat']
    omega
  unfold String.utf8EncodeChar
  dsimp only
  split
  · exact ⟨_, [], rfl, begins (by omega), fun _ hb => nomatch hb⟩
  split
  · refine ⟨_, _, rfl, begins (by omega), ?_⟩
    simp only [List.mem_singleton, forall_eq, continues]
  split
  · refine ⟨_, _, rfl, begins (by omega), ?_⟩
    simp only [List.mem_cons, List.not_mem_nil, or_false, forall_eq_or_imp, forall_eq, continues,
      and_self]
  · refine ⟨_, _, rfl, begins (by omega), ?_⟩
    simp only [List.mem_cons, List.not_mem_nil, or_false, forall_eq_or_imp, forall_eq, continues,
      and_self]

/-- The start of a text is a place to cut. -/
@[simp] theorem isBoundary_zero (bs : Bytes) : isBoundary bs 0 = true := rfl

/-- Within a text it is a place to cut where a character begins. -/
theorem isBoundary_of_lt {bs : Bytes} {offset : Nat} (pos : 0 < offset)
    (inside : offset < bs.length) : isBoundary bs offset = startsChar bs[offset] := by
  have hne : (offset == 0) = false := by simp [Nat.ne_of_gt pos]
  rw [isBoundary, hne, Bool.false_or, List.getElem?_eq_getElem inside]

/-- From the end of a text on only the end is a place to cut. -/
theorem isBoundary_of_ge {bs : Bytes} {offset : Nat} (pos : 0 < offset)
    (outside : bs.length ≤ offset) : isBoundary bs offset = (offset == bs.length) := by
  have hne : (offset == 0) = false := by simp [Nat.ne_of_gt pos]
  rw [isBoundary, hne, Bool.false_or, List.getElem?_eq_none outside]

/-- The first byte of some characters begins one. -/
theorem startsChar_flatMap {cs : List Char} (h : 0 < (cs.flatMap String.utf8EncodeChar).length) :
    startsChar (cs.flatMap String.utf8EncodeChar)[0] = true := by
  cases cs with
  | nil => simp at h
  | cons c cs =>
    obtain ⟨first, others, hbytes, hfirst, -⟩ := exists_utf8EncodeChar c
    simpa [hbytes] using hfirst

/-- A text may be cut before its first character, and where the text after that may be cut. -/
theorem isBoundary_cons_iff (c : Char) (cs : List Char) (offset : Nat) :
    isBoundary ((c :: cs).flatMap String.utf8EncodeChar) offset = true ↔
      offset = 0 ∨ ∃ rest, offset = (String.utf8EncodeChar c).length + rest ∧
        isBoundary (cs.flatMap String.utf8EncodeChar) rest = true := by
  obtain ⟨first, others, hbytes, -, hothers⟩ := exists_utf8EncodeChar c
  rw [List.flatMap_cons]
  generalize hlater : cs.flatMap String.utf8EncodeChar = later
  have hsize : (String.utf8EncodeChar c).length = others.length + 1 := by rw [hbytes]; rfl
  rcases Nat.eq_zero_or_pos offset with rfl | hpos
  · simp
  by_cases hin : offset < (String.utf8EncodeChar c).length
  · -- Inside the first character every byte continues it.
    have hbyte : isBoundary (String.utf8EncodeChar c ++ later) offset = false := by
      rw [isBoundary_of_lt hpos (by rw [List.length_append]; omega),
        List.getElem_append_left hin]
      apply hothers
      obtain ⟨i, rfl⟩ : ∃ i, offset = i + 1 := ⟨offset - 1, by omega⟩
      simp only [hbytes, List.getElem_cons_succ, List.getElem_mem]
    rw [hbyte]
    simp only [Bool.false_eq_true, false_iff, not_or, not_exists, not_and]
    exact ⟨by omega, fun rest hrest => by omega⟩
  · obtain ⟨rest, rfl⟩ := Nat.exists_eq_add_of_le (Nat.le_of_not_lt hin)
    have hcut : isBoundary (String.utf8EncodeChar c ++ later)
        ((String.utf8EncodeChar c).length + rest) = isBoundary later rest := by
      by_cases hinside : rest < later.length
      · rw [isBoundary_of_lt hpos (by rw [List.length_append]; omega),
          List.getElem_append_right (by omega)]
        simp only [Nat.add_sub_cancel_left]
        rcases Nat.eq_zero_or_pos rest with rfl | hrest
        · subst hlater
          rw [startsChar_flatMap hinside, isBoundary_zero]
        · rw [isBoundary_of_lt hrest hinside]
      · rw [isBoundary_of_ge hpos (by rw [List.length_append]; omega), List.length_append]
        rcases Nat.eq_zero_or_pos rest with rfl | hrest
        · have hnone : later.length = 0 := by omega
          simp [hnone]
        · rw [isBoundary_of_ge hrest (by omega), Bool.eq_iff_iff, beq_iff_eq, beq_iff_eq]
          omega
    rw [hcut]
    constructor
    · exact fun h => .inr ⟨rest, rfl, h⟩
    · rintro (hzero | ⟨rest', hrest', h⟩)
      · omega
      · obtain rfl : rest = rest' := by omega
        exact h

/-- Some characters may be cut exactly where the first of them end. -/
theorem isBoundary_flatMap_iff (cs : List Char) (offset : Nat) :
    isBoundary (cs.flatMap String.utf8EncodeChar) offset = true ↔
      ∃ front back, cs = front ++ back ∧
        (front.flatMap String.utf8EncodeChar).length = offset := by
  induction cs generalizing offset with
  | nil =>
    have hend : isBoundary [] offset = true ↔ offset = 0 := by simp [isBoundary]
    rw [List.flatMap_nil, hend]
    constructor
    · rintro rfl
      exact ⟨[], [], rfl, rfl⟩
    · rintro ⟨front, back, hsplit, rfl⟩
      obtain ⟨rfl, rfl⟩ := List.append_eq_nil_iff.mp hsplit.symm
      rfl
  | cons c cs ih =>
    rw [isBoundary_cons_iff]
    constructor
    · rintro (rfl | ⟨rest, rfl, hrest⟩)
      · exact ⟨[], c :: cs, rfl, rfl⟩
      · obtain ⟨front, back, rfl, rfl⟩ := (ih rest).mp hrest
        exact ⟨c :: front, back, rfl, by simp⟩
    · rintro ⟨front, back, hsplit, rfl⟩
      cases front with
      | nil => exact .inl rfl
      | cons d front =>
        obtain ⟨rfl, rfl⟩ := List.cons.inj hsplit
        exact .inr ⟨_, by simp, (ih _).mpr ⟨front, back, rfl, rfl⟩⟩

/-- A text may be cut exactly where a text that it begins with ends. -/
theorem isBoundary_utf8_iff (s : String) (offset : Nat) :
    isBoundary (utf8 s) offset = true ↔
      ∃ front back : String, s = front ++ back ∧ (utf8 front).length = offset := by
  rw [utf8_eq_flatMap, isBoundary_flatMap_iff]
  constructor
  · rintro ⟨front, back, hsplit, rfl⟩
    refine ⟨String.ofList front, String.ofList back, ?_, by simp [utf8_eq_flatMap]⟩
    rw [← String.ofList_append, ← hsplit, String.ofList_toList]
  · rintro ⟨front, back, rfl, rfl⟩
    exact ⟨front.toList, back.toList, String.toList_append, by rw [utf8_eq_flatMap]⟩

/-- The search for a place to cut, in which a step below the start of the text is a failure. -/
def searchBelow? (bs : Bytes) : (offset : Nat) → Option Nat
  | 0 => if isBoundary bs 0 then some 0 else none
  | offset + 1 => if isBoundary bs (offset + 1) then some (offset + 1) else searchBelow? bs offset

/-- The search never fails. -/
theorem searchBelow?_eq (bs : Bytes) (offset : Nat) :
    searchBelow? bs offset = some (boundaryBelow bs offset) := by
  induction offset with
  | zero => rfl
  | succ offset ih =>
    rw [searchBelow?, boundaryBelow, ih]
    split <;> rfl

/-- The search ends at a place to cut. -/
theorem isBoundary_boundaryBelow (bs : Bytes) (offset : Nat) :
    isBoundary bs (boundaryBelow bs offset) = true := by
  induction offset with
  | zero => rfl
  | succ offset ih =>
    rw [boundaryBelow]
    split
    · next h => exact h
    · exact ih

/-- The search passes over no place to cut. -/
theorem le_boundaryBelow {bs : Bytes} {cut offset : Nat} (place : isBoundary bs cut = true)
    (below : cut ≤ offset) : cut ≤ boundaryBelow bs offset := by
  induction offset with
  | zero => exact below
  | succ offset ih =>
    rw [boundaryBelow]
    split
    · exact below
    · next hnone =>
      have hne : cut ≠ offset + 1 := by
        rintro rfl
        exact hnone place
      exact ih (by omega)

/-- A text is the longest of those that another one begins with and that take at most so many
bytes. -/
structure IsLongestPrefix (limit : Nat) (s front : String) : Prop where
  begins : ∃ back, s = front ++ back
  fits : (utf8 front).length ≤ limit
  longest : ∀ front' back' : String, s = front' ++ back' → (utf8 front').length ≤ limit →
    (utf8 front').length ≤ (utf8 front).length

/-- What is left of a text that is cut at a limit. -/
def clipped (limit : Nat) (s : String) : String := (ofUtf8? (clip limit s)).getD ""

/-- A text that is cut is a text again, and the longest that fits. -/
theorem clip_spec (limit : Nat) (s : String) :
    utf8 (clipped limit s) = clip limit s ∧ IsLongestPrefix limit s (clipped limit s) := by
  have hplace := isBoundary_boundaryBelow (utf8 s) (min limit (utf8 s).length)
  obtain ⟨front, back, hsplit, hlength⟩ := (isBoundary_utf8_iff s _).mp hplace
  have hclip : clip limit s = utf8 front := by
    rw [clip, ← hlength, hsplit, utf8_append, List.take_left]
  have hclipped : clipped limit s = front := by rw [clipped, hclip, ofUtf8?_utf8]; rfl
  rw [hclipped]
  refine ⟨hclip.symm, ⟨back, hsplit⟩, ?_, ?_⟩
  · rw [← hclip]
    exact length_clip_le limit s
  · intro front' back' hsplit' hfits
    have hwithin : (utf8 front').length ≤ (utf8 s).length := by
      rw [hsplit', utf8_append, List.length_append]
      omega
    rw [hlength]
    exact le_boundaryBelow ((isBoundary_utf8_iff s _).mpr ⟨front', back', hsplit', rfl⟩)
      (by omega)

/-- The bytes of a text that is cut. -/
@[simp] theorem utf8_clipped (limit : Nat) (s : String) : utf8 (clipped limit s) = clip limit s :=
  (clip_spec limit s).1

/-- What is left of a text that is cut is the longest that fits. -/
theorem isLongestPrefix_clipped (limit : Nat) (s : String) :
    IsLongestPrefix limit s (clipped limit s) :=
  (clip_spec limit s).2

/-- The search for the place to cut a text ends where the text that is left ends. -/
theorem searchBelow?_utf8 (limit : Nat) (s : String) :
    searchBelow? (utf8 s) (min limit (utf8 s).length) = some (utf8 (clipped limit s)).length := by
  have hle := boundaryBelow_le (utf8 s) (min limit (utf8 s).length)
  rw [searchBelow?_eq, utf8_clipped, clip, List.length_take]
  congr 1
  omega

namespace IsLongestPrefix

variable {limit : Nat} {s front : String}

/-- A text that fits is not cut. -/
theorem eq_of_fits (h : IsLongestPrefix limit s front) (fits : (utf8 s).length ≤ limit) :
    front = s := by
  obtain ⟨back, rfl⟩ := h.begins
  have hwhole := h.longest (front ++ back) "" String.append_empty.symm fits
  rw [utf8_append, List.length_append] at hwhole
  have hback : utf8 back = utf8 "" := List.length_eq_zero_iff.mp (by omega)
  rw [utf8_inj.mp hback, String.append_empty]

/-- Of the limit at most three bytes are given away by a text that does not fit. -/
theorem limit_lt (h : IsLongestPrefix limit s front) (exceeds : limit < (utf8 s).length) :
    limit < (utf8 front).length + 4 := by
  obtain ⟨back, rfl⟩ := h.begins
  have hfits := h.fits
  cases hchars : back.toList with
  | nil =>
    have hnone : utf8 back = [] := by rw [utf8_eq_flatMap, hchars]; rfl
    rw [utf8_append, hnone, List.append_nil] at exceeds
    omega
  | cons c rest =>
    -- With one character more it would not fit, and no character takes more than four bytes.
    have hsplit : front ++ back = (front ++ String.ofList [c]) ++ String.ofList rest := by
      rw [String.append_assoc, ← String.ofList_append, List.singleton_append, ← hchars,
        String.ofList_toList]
    have hmore : (utf8 (front ++ String.ofList [c])).length =
        (utf8 front).length + c.utf8Size := by
      rw [utf8_append, List.length_append, utf8_eq_flatMap (String.ofList [c])]
      simp
    have hpos := c.utf8Size_pos
    have hsize := c.utf8Size_le_four
    refine Nat.lt_of_not_le fun hfar => ?_
    have hlongest := h.longest _ _ hsplit (by omega)
    omega

end IsLongestPrefix

/-- Of a text that fits everything is left. -/
theorem clipped_of_fits {limit : Nat} {s : String} (fits : (utf8 s).length ≤ limit) :
    clipped limit s = s :=
  (isLongestPrefix_clipped limit s).eq_of_fits fits

end Text

/-- The bytes of a text that fits are not clipped. -/
theorem clip_of_fits {limit : Nat} {s : String} (fits : (utf8 s).length ≤ limit) :
    Text.clip limit s = utf8 s := by
  rw [← Text.utf8_clipped, Text.clipped_of_fits fits]

end PlayServer
