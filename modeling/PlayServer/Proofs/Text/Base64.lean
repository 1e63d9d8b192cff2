import PlayServer.Text.Base64

/-!
# Each byte string has one Base64 form

Reading Base64 accepts exactly what is written: `Base64.decode_eq_some_iff`. Digits and their values
are inverse to each other, `value?_digit` and `digit_of_value?`. Three bytes and their four digits
are told apart from what follows them in the same way, `encode_group` and `decode_group`. How many
bytes the last group has is told by its padding.
-/

namespace PlayServer.Base64

/-- The digit of a value reads back as it. -/
theorem value?_digit {n : Nat} (h : n < 64) : value? (digit n) = some n := by
  have hall : ∀ n < 64, value? (digit n) = some n := by decide
  exact hall n h

/-- Digits are ASCII. -/
theorem toNat_lt_of_value? {c : Char} {n : Nat} (h : value? c = some n) : c.toNat < 128 := by
  apply Nat.lt_of_not_le
  intro hc
  have hbeyond {d : Char} (hd : d.toNat < 128) : ¬c ≤ d :=
    fun hle => Nat.not_le_of_lt hd (Nat.le_trans hc hle)
  have hne {d : Char} (hd : d.toNat < 128) : c ≠ d := fun heq => hbeyond hd (heq ▸ Char.le_refl c)
  have hnone : value? c = none := by
    simp [value?, hbeyond (d := 'Z') (by decide), hbeyond (d := 'z') (by decide),
      hbeyond (d := '9') (by decide), hne (d := '+') (by decide), hne (d := '/') (by decide)]
  rw [hnone] at h
  cases h

/-- What reads as a value is the digit of that value. -/
theorem digit_of_value? {c : Char} {n : Nat} (h : value? c = some n) : n < 64 ∧ digit n = c := by
  have hall : ∀ k < 128,
      (value? (Char.ofNat k)).all (fun n => n < 64 && digit n == Char.ofNat k) = true := by
    decide
  have hc := hall c.toNat (toNat_lt_of_value? h)
  rw [Char.ofNat_toNat, h] at hc
  simpa using hc

/-- Padding is no digit. -/
theorem digit_ne_padding {n : Nat} (h : n < 64) : digit n ≠ '=' := by
  intro hpadding
  have hvalue := value?_digit h
  rw [hpadding] at hvalue
  cases hvalue

/-- The number that four digits spell together. -/
def groupValue (w x y z : Nat) : Nat := ((w * 64 + x) * 64 + y) * 64 + z

/-- The three bytes of a number below 2²⁴. -/
def groupBytes (n : Nat) : Bytes := [UInt8.ofNat (n / 65536), UInt8.ofNat (n / 256), UInt8.ofNat n]

section Groups

variable {w x y z : Nat} (hw : w < 64) (hx : x < 64) (hy : y < 64) (hz : z < 64)

include hw hx hy hz

/-- The three bytes that four digits spell are written as these digits, whatever follows. -/
theorem encode_group (rest : Bytes) :
    encode (groupBytes (groupValue w x y z) ++ rest) =
      digit w :: digit x :: digit y :: digit z :: encode rest := by
  have hn : ((UInt8.ofNat (groupValue w x y z / 65536)).toNat * 256 +
      (UInt8.ofNat (groupValue w x y z / 256)).toNat) * 256 +
        (UInt8.ofNat (groupValue w x y z)).toNat = groupValue w x y z := by
    simp only [UInt8.toNat_ofNat', groupValue]
    omega
  have hdigits : groupValue w x y z / 262144 = w ∧ groupValue w x y z / 4096 % 64 = x ∧
      groupValue w x y z / 64 % 64 = y ∧ groupValue w x y z % 64 = z := by
    unfold groupValue
    omega
  obtain ⟨h₁, h₂, h₃, h₄⟩ := hdigits
  rw [groupBytes, List.cons_append, List.cons_append, List.singleton_append, encode]
  simp only [hn, h₁, h₂, h₃, h₄]

/-- Four digits are read as three bytes, whatever follows. -/
theorem decode_group (rest : List Char) :
    decode (digit w :: digit x :: digit y :: digit z :: rest) =
      (decode rest).map (groupBytes (groupValue w x y z) ++ ·) := by
  cases rest with
  | nil =>
    simp [decode, decodeLast, value?_digit, digit_ne_padding, hw, hx, hy, hz, groupBytes, groupValue]
  | cons c rest =>
    cases hrest : decode (c :: rest) <;>
      simp [decode, value?_digit, hw, hx, hy, hz, hrest, groupBytes, groupValue]

end Groups

/-- Three bytes are those of the four digits that they are written in. -/
theorem exists_group (a b c : UInt8) :
    ∃ w x y z, w < 64 ∧ x < 64 ∧ y < 64 ∧ z < 64 ∧ groupBytes (groupValue w x y z) = [a, b, c] := by
  have ha := a.toNat_lt
  have hb := b.toNat_lt
  have hc := c.toNat_lt
  obtain ⟨n, hn⟩ : ∃ n, n = (a.toNat * 256 + b.toNat) * 256 + c.toNat := ⟨_, rfl⟩
  refine ⟨n / 262144, n / 4096 % 64, n / 64 % 64, n % 64, by omega, by omega, by omega, by omega, ?_⟩
  have hvalue : groupValue (n / 262144) (n / 4096 % 64) (n / 64 % 64) (n % 64) = n := by
    unfold groupValue
    omega
  have hbyte {k : Nat} {byte : UInt8} (h : k % 256 = byte.toNat) : UInt8.ofNat k = byte := by
    apply UInt8.toNat_inj.mp
    rw [UInt8.toNat_ofNat', h]
  rw [hvalue, groupBytes, hbyte (by omega : n / 65536 % 256 = a.toNat),
    hbyte (by omega : n / 256 % 256 = b.toNat), hbyte (by omega : n % 256 = c.toNat)]

section LastGroup

variable {w x y : Nat} (hw : w < 64) (hx : x < 64) (hy : y < 64)

include hw hx

/-- One byte is written as two digits, of which the second leaves four bits over. -/
theorem encode_one (hover : x % 16 = 0) :
    encode [UInt8.ofNat (w * 4 + x / 16)] = [digit w, digit x, '=', '='] := by
  have hdigits : (w * 4 + x / 16) % 256 / 4 = w ∧ (w * 4 + x / 16) % 256 % 4 * 16 = x := by omega
  simp only [encode, UInt8.toNat_ofNat', Nat.reducePow, hdigits.1, hdigits.2]

/-- Two digits are read as one byte if the bits that they leave over are zero. -/
theorem decodeLast_one : decodeLast (digit w) (digit x) '=' '=' =
    if x % 16 = 0 then some [UInt8.ofNat (w * 4 + x / 16)] else none := by
  simp [decodeLast, value?_digit hw, value?_digit hx]

include hy

/-- Two bytes are written as three digits, of which the third leaves two bits over. -/
theorem encode_two (hover : y % 4 = 0) :
    encode [UInt8.ofNat (((w * 64 + x) * 64 + y) / 1024),
      UInt8.ofNat (((w * 64 + x) * 64 + y) / 4)] = [digit w, digit x, digit y, '='] := by
  obtain ⟨n, hn⟩ : ∃ n, n = (w * 64 + x) * 64 + y := ⟨_, rfl⟩
  have hbytes : n / 1024 % 256 * 256 + n / 4 % 256 = n / 4 := by omega
  have hdigits : n / 4 / 1024 = w ∧ n / 4 / 16 % 64 = x ∧ n / 4 % 16 * 4 = y := by omega
  simp only [← hn, encode, UInt8.toNat_ofNat', Nat.reducePow, hbytes, hdigits.1, hdigits.2.1,
    hdigits.2.2]

/-- Three digits are read as two bytes if the bits that they leave over are zero. -/
theorem decodeLast_two : decodeLast (digit w) (digit x) (digit y) '=' =
    if y % 4 = 0 then
      some [UInt8.ofNat (((w * 64 + x) * 64 + y) / 1024), UInt8.ofNat (((w * 64 + x) * 64 + y) / 4)]
    else none := by
  simp [decodeLast, value?_digit hw, value?_digit hx, value?_digit hy, digit_ne_padding hy]

end LastGroup

/-- One byte is that of the two digits that it is written in. -/
theorem exists_one (a : UInt8) :
    ∃ w x, w < 64 ∧ x < 64 ∧ x % 16 = 0 ∧ UInt8.ofNat (w * 4 + x / 16) = a := by
  have ha := a.toNat_lt
  refine ⟨a.toNat / 4, a.toNat % 4 * 16, by omega, by omega, by omega, ?_⟩
  rw [show a.toNat / 4 * 4 + a.toNat % 4 * 16 / 16 = a.toNat by omega, UInt8.ofNat_toNat]

/-- Two bytes are those of the three digits that they are written in. -/
theorem exists_two (a b : UInt8) :
    ∃ w x y, w < 64 ∧ x < 64 ∧ y < 64 ∧ y % 4 = 0 ∧
      UInt8.ofNat (((w * 64 + x) * 64 + y) / 1024) = a ∧
      UInt8.ofNat (((w * 64 + x) * 64 + y) / 4) = b := by
  have ha := a.toNat_lt
  have hb := b.toNat_lt
  refine ⟨a.toNat / 4, a.toNat % 4 * 16 + b.toNat / 16, b.toNat % 16 * 4, by omega, by omega,
    by omega, by omega, ?_, ?_⟩ <;> apply UInt8.toNat_inj.mp <;> rw [UInt8.toNat_ofNat'] <;> omega

/-- What is read from a last group is written as it. -/
theorem encode_of_decodeLast {a b c d : Char} {bs : Bytes} (h : decodeLast a b c d = some bs) :
    encode bs = [a, b, c, d] := by
  simp only [decodeLast, Option.bind_eq_bind, Option.bind_eq_some_iff] at h
  obtain ⟨w, ha, x, hb, h⟩ := h
  obtain ⟨hw, rfl⟩ := digit_of_value? ha
  obtain ⟨hx, rfl⟩ := digit_of_value? hb
  -- the padding tells how many bytes there are
  by_cases hc : c = '='
  · rw [if_pos hc] at h
    obtain ⟨hlast, hbs⟩ := Option.ite_none_right_eq_some.mp h
    obtain ⟨hd, hover⟩ : d = '=' ∧ x % 16 = 0 := by simpa using hlast
    rw [← Option.some.inj hbs, encode_one hw hx hover, hc, hd]
  · rw [if_neg hc] at h
    obtain ⟨y, hthird, hlast⟩ := Option.bind_eq_some_iff.mp h
    obtain ⟨hy, rfl⟩ := digit_of_value? hthird
    by_cases hd : d = '='
    · rw [if_pos hd] at hlast
      obtain ⟨hover, hbs⟩ := Option.ite_none_right_eq_some.mp hlast
      rw [← Option.some.inj hbs, encode_two hw hx hy hover, hd]
    · rw [if_neg hd] at hlast
      obtain ⟨z, hfourth, hbs⟩ := Option.bind_eq_some_iff.mp hlast
      obtain ⟨hz, rfl⟩ := digit_of_value? hfourth
      rw [← Option.some.inj hbs]
      exact encode_group hw hx hy hz []

/-- What is written is read back. -/
theorem decode_encode (bs : Bytes) : decode (encode bs) = some bs := by
  match bs with
  | [] => rfl
  | [a] =>
    obtain ⟨w, x, hw, hx, hover, rfl⟩ := exists_one a
    rw [encode_one hw hx hover, decode, decodeLast_one hw hx, if_pos hover]
  | [a, b] =>
    obtain ⟨w, x, y, hw, hx, hy, hover, rfl, rfl⟩ := exists_two a b
    rw [encode_two hw hx hy hover, decode, decodeLast_two hw hx hy, if_pos hover]
  | a :: b :: c :: rest =>
    obtain ⟨w, x, y, z, hw, hx, hy, hz, hbytes⟩ := exists_group a b c
    rw [show a :: b :: c :: rest = [a, b, c] ++ rest from rfl, ← hbytes,
      encode_group hw hx hy hz, decode_group hw hx hy hz, decode_encode rest]
    rfl

/-- What is read is written as it was. -/
theorem encode_of_decode {cs : List Char} {bs : Bytes} (h : decode cs = some bs) :
    encode bs = cs := by
  fun_induction decode cs generalizing bs with
  | case1 =>
    cases h
    rfl
  | case2 a b c d => exact encode_of_decodeLast h
  | case3 a b c d rest hrest ih =>
    simp only [Option.bind_eq_bind, Option.bind_eq_some_iff] at h
    obtain ⟨w, ha, x, hb, y, hc, z, hd, left, hleft, hbs⟩ := h
    obtain ⟨hw, rfl⟩ := digit_of_value? ha
    obtain ⟨hx, rfl⟩ := digit_of_value? hb
    obtain ⟨hy, rfl⟩ := digit_of_value? hc
    obtain ⟨hz, rfl⟩ := digit_of_value? hd
    cases hbs
    rw [← ih hleft, ← encode_group hw hx hy hz]
    rfl
  | case4 => cases h

/-- What is written consists of digits and padding. -/
theorem forall_mem_encode (bs : Bytes) :
    ∀ c ∈ encode bs, c = '=' ∨ (value? c).isSome = true := by
  match bs with
  | [] => simp [encode]
  | [a] =>
    obtain ⟨w, x, hw, hx, hover, rfl⟩ := exists_one a
    rw [encode_one hw hx hover]
    simp [value?_digit hw, value?_digit hx]
  | [a, b] =>
    obtain ⟨w, x, y, hw, hx, hy, hover, rfl, rfl⟩ := exists_two a b
    rw [encode_two hw hx hy hover]
    simp [value?_digit hw, value?_digit hx, value?_digit hy]
  | a :: b :: c :: rest =>
    obtain ⟨w, x, y, z, hw, hx, hy, hz, hbytes⟩ := exists_group a b c
    rw [show a :: b :: c :: rest = [a, b, c] ++ rest from rfl, ← hbytes, encode_group hw hx hy hz]
    simpa [value?_digit hw, value?_digit hx, value?_digit hy, value?_digit hz]
      using forall_mem_encode rest

/-- Reading Base64 accepts exactly what is written. -/
theorem decode_eq_some_iff {cs : List Char} {bs : Bytes} : decode cs = some bs ↔ cs = encode bs := by
  constructor
  · intro h
    exact (encode_of_decode h).symm
  · rintro rfl
    exact decode_encode bs

end PlayServer.Base64
