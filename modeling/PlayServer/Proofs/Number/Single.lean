import Mathlib

/-!
# Single precision

A number in single precision is a significand of 24 bits times a power of two; `Denotes` says which
it is. A product has up to 48 bits, of which the first 24 are kept: it is divided by a power of two
and rounded to the nearest whole number, to the even one if two are equally near. So what is
computed in single precision is a matter of whole numbers, `Denotes.mul`, as long as nothing is too
large or too small to be told.
-/

namespace PlayServer.Single

open Float.Model (Format UnpackedFloat totalExponent)
open Float.Model.UnpackedFloat

/-- The whole number nearest to a quotient, and the even one in the middle between two. -/
def roundedQuotient (m d : Nat) : Nat :=
  if 2 * (m % d) < d then m / d
  else if d < 2 * (m % d) then m / d + 1
  else m / d + m / d % 2

/-- A number in single precision is `m` times the `e`-th power of two, where `m` has 24 bits of
which the first is set. -/
structure Denotes (x : Float32) (m : Nat) (e : Int) : Prop where
  lower : 2 ^ 23 ≤ m
  upper : m < 2 ^ 24
  least : -149 ≤ e
  greatest : e ≤ 104
  unpacked : x.toModel.unpack = .finite .positive m e (by omega)

/-- Shifting to the right keeps the last bit that is lost and whether any bit before it was set. -/
theorem shiftRight_succ (m k : Nat) :
    (⟨m, false, false⟩ : ExtendedMantissa) >>> (k + 1) =
      ⟨m / 2 ^ (k + 1), m / 2 ^ k % 2 != 0, m % 2 ^ k != 0⟩ := by
  induction k with
  | zero =>
    change ExtendedMantissa.shiftRightOne ⟨m, false, false⟩ = _
    simp [ExtendedMantissa.shiftRightOne, Nat.mod_one]
  | succ k ih =>
    change ExtendedMantissa.shiftRightOne ((⟨m, false, false⟩ : ExtendedMantissa) >>> (k + 1)) = _
    have hlost : (m / 2 ^ k % 2 != 0 || m % 2 ^ k != 0) = (m % 2 ^ (k + 1) != 0) := by
      have hpos := Nat.two_pow_pos k
      rw [Nat.pow_succ, Nat.mod_mul, Bool.eq_iff_iff]
      simp only [Bool.or_eq_true, bne_iff_ne, ne_eq, Nat.add_eq_zero_iff, Nat.mul_eq_zero]
      omega
    rw [ih]
    simp only [ExtendedMantissa.shiftRightOne, hlost, Nat.div_div_eq_div_mul, ← Nat.pow_succ]

/-- The last bit that was lost decides how to round, and if it was set, whether any before it
was. -/
theorem roundedMantissa_mk (q : Nat) (last before : Bool) :
    (⟨q, last, before⟩ : ExtendedMantissa).roundedMantissa =
      if last then (if before then q + 1 else q + q % 2) else q := by
  cases last <;> cases before <;> rfl

/-- What is shifted to the right is rounded to the nearest whole number. -/
theorem roundedMantissa_shiftRight (m k : Nat) :
    ((⟨m, false, false⟩ : ExtendedMantissa) >>> k).roundedMantissa = roundedQuotient m (2 ^ k) := by
  cases k with
  | zero =>
    change m = _
    simp [roundedQuotient, Nat.mod_one]
  | succ k =>
    have hlost := Nat.mod_lt m (Nat.two_pow_pos k)
    rw [shiftRight_succ, roundedMantissa_mk, roundedQuotient, Nat.pow_succ, Nat.mod_mul]
    generalize 2 ^ k = half, m / (2 ^ k * 2) = q, m % 2 ^ k = before at *
    rcases Nat.mod_two_eq_zero_or_one (m / half) with hlast | hlast
    · have hless : 2 * (before + half * 0) < half * 2 := by omega
      rw [hlast, if_pos hless]
      rfl
    · have hless : ¬2 * (before + half * 1) < half * 2 := by omega
      rw [hlast, if_neg hless]
      by_cases hbefore : before = 0
      · have hmore : ¬half * 2 < 2 * (before + half * 1) := by omega
        rw [if_neg hmore, hbefore]
        rfl
      · have hmore : half * 2 < 2 * (before + half * 1) := by omega
        rw [if_pos hmore]
        simp [hbefore]

/-- A significand of 24 bits is neither shifted nor rounded. -/
theorem targetExponent_of_bits {m : Nat} {e : Int} (lower : 2 ^ 23 ≤ m) (upper : m < 2 ^ 24)
    (least : -149 ≤ e) : Format.binary32.targetExponent (totalExponent m e) = e := by
  have hlog : m.log2 = 23 := (Nat.log2_eq_iff (by omega)).mpr ⟨lower, upper⟩
  simp only [Format.targetExponent, totalExponent, hlog, Format.mantissaBits, Format.minExponent]
  omega

/-- A number of more than 24 bits is rounded to 24 bits. -/
theorem roundWithAccuracy_eq {m k : Nat} {e : Int} (bits : m.log2 = 23 + k) (least : -149 ≤ e + k)
    (lower : 2 ^ 23 ≤ roundedQuotient m (2 ^ k)) (upper : roundedQuotient m (2 ^ k) < 2 ^ 24) :
    roundWithAccuracy Format.binary32 .positive m e .exact =
      .finite .positive (roundedQuotient m (2 ^ k)) (e + k) (by omega) := by
  have htarget : Format.binary32.targetExponent (totalExponent m e) = e + k := by
    simp only [Format.targetExponent, totalExponent, bits, Format.mantissaBits, Format.minExponent]
    omega
  have hshift : (e + k - e).toNat = k := by omega
  have hnone (em : ExtendedMantissa) : em >>> (0 : Nat) = em := rfl
  have hback : (e + k - (e + k)).toNat = 0 := by omega
  have hpos : roundedQuotient m (2 ^ k) ≠ 0 := by omega
  simp only [roundWithAccuracy, shiftToTargetExponent, htarget, shiftToExponent, hshift,
    ExtendedMantissa.ofMantissaAndAccuracy, roundedMantissa_shiftRight,
    targetExponent_of_bits lower upper least, hback, hnone]
  simp [hpos]

/-- A number of 24 bits is not rounded. -/
theorem roundWithAccuracy_of_bits {m : Nat} {e : Int} (lower : 2 ^ 23 ≤ m) (upper : m < 2 ^ 24)
    (least : -149 ≤ e) : roundWithAccuracy Format.binary32 .positive m e .exact =
      .finite .positive m e (by omega) := by
  have hlog : m.log2 = 23 + 0 := (Nat.log2_eq_iff (by omega)).mpr ⟨lower, upper⟩
  have hwhole : roundedQuotient m (2 ^ 0) = m := by simp [roundedQuotient, Nat.mod_one]
  have hround := roundWithAccuracy_eq (e := e) hlog (by omega) (by rwa [hwhole]) (by rwa [hwhole])
  simpa only [hwhole, Int.natCast_zero, Int.add_zero] using hround

/-- The first bit of a significand is not stored, and comes back before the others. -/
theorem toNat_implicit_append {m : Nat} (lower : 2 ^ 23 ≤ m) (upper : m < 2 ^ 24) :
    (1#1 ++ BitVec.ofNat 23 m).toNat = m := by
  rw [BitVec.toNat_append, ← Nat.shiftLeft_add_eq_or_of_lt (BitVec.isLt _)]
  simp only [BitVec.toNat_ofNat, Nat.shiftLeft_eq]
  omega

/-- What is stored for a number is the number. -/
theorem unpack_pack {m : Nat} {e : Int} (lower : 2 ^ 23 ≤ m) (upper : m < 2 ^ 24)
    (least : -149 ≤ e) (greatest : e ≤ 104) :
    unpack Format.binary32 (pack Format.binary32 (.finite .positive m e (by omega))) =
      .finite .positive m e (by omega) := by
  have hlog : m.log2 = 23 := (Nat.log2_eq_iff (by omega)).mpr ⟨lower, upper⟩
  have hbias : e + Format.binary32.exponentBias + (23 : Nat) = e + 150 := by
    change e + 127 + 23 = _
    omega
  have hroom : ¬2 ^ Format.binary32.exponentBits ≤ (e + 150).toNat + 1 := by
    change ¬256 ≤ (e + 150).toNat + 1
    omega
  simp only [pack, hbias, if_neg hroom, hlog]
  rw [if_pos (show 23 + 1 = Format.binary32.mantissaBits from rfl)]
  simp only [unpack, unpackMantissa_packComponents, unpackExponent_packComponents,
    unpackSign_packComponents, toNat_implicit_append lower upper]
  -- The stored exponent is neither that of infinity nor that of zero.
  generalize hcode : BitVec.ofNat 8 (e + 150).toNat = code
  have hvalue : code.toNat = (e + 150).toNat := by
    rw [← hcode, BitVec.toNat_ofNat]
    omega
  have hfinite : code ≠ -1#8 := by
    rintro rfl
    change 255 = _ at hvalue
    omega
  have hnormal : code ≠ 0#8 := by
    rintro rfl
    change 0 = _ at hvalue
    omega
  have hexponent : (code.toNat : Int) - (Format.binary32.exponentBias + (23 : Nat)) = e := by
    change (code.toNat : Int) - (127 + 23) = e
    omega
  rw [if_neg hfinite, if_neg hnormal]
  simp only [hexponent]
  rfl

/-- A number that is stored is denoted. -/
theorem denotes_pack {m : Nat} {e : Int} (lower : 2 ^ 23 ≤ m) (upper : m < 2 ^ 24)
    (least : -149 ≤ e) (greatest : e ≤ 104) :
    Denotes ⟨.pack (.finite .positive m e (by omega))⟩ m e :=
  ⟨lower, upper, least, greatest, unpack_pack lower upper least greatest⟩

/-- What is stored tells which number it is. -/
theorem denotes_of_eq {x : Float32} {m : Nat} {e : Int} (lower : 2 ^ 23 ≤ m) (upper : m < 2 ^ 24)
    (least : -149 ≤ e) (greatest : e ≤ 104)
    (stored : x = ⟨.pack (.finite .positive m e (by omega))⟩) : Denotes x m e := by
  rw [stored]
  exact denotes_pack lower upper least greatest

variable {x y : Float32} {m m' n k : Nat} {e e' : Int}

/-- Rounding to 24 bits leaves 24 bits, or just one more. -/
theorem le_roundedQuotient (bits : n.log2 = 23 + k) : 2 ^ 23 ≤ roundedQuotient n (2 ^ k) := by
  have hne : n ≠ 0 := by
    rintro rfl
    rw [Nat.log2_zero] at bits
    omega
  have hquotient : 2 ^ 23 ≤ n / 2 ^ k := by
    rw [Nat.le_div_iff_mul_le (Nat.two_pow_pos k), ← Nat.pow_add, ← bits]
    exact Nat.log2_self_le hne
  unfold roundedQuotient
  split
  · exact hquotient
  · split <;> omega

/-- The product of two numbers is rounded to 24 bits. -/
theorem Denotes.mul (hx : Denotes x m e) (hy : Denotes y m' e') (bits : (m * m').log2 = 23 + k)
    (upper : roundedQuotient (m * m') (2 ^ k) < 2 ^ 24) (least : -149 ≤ e + e' + k)
    (greatest : e + e' + k ≤ 104) :
    Denotes (x * y) (roundedQuotient (m * m') (2 ^ k)) (e + e' + k) := by
  have hlower := le_roundedQuotient bits
  have hproduct : x * y = ⟨.pack (.finite .positive (roundedQuotient (m * m') (2 ^ k)) (e + e' + k)
      (by omega))⟩ := by
    change Float32.ofModel (.pack (UnpackedFloat.mul Format.binary32 x.toModel.unpack
      y.toModel.unpack)) = _
    rw [hx.unpacked, hy.unpacked, ← roundWithAccuracy_eq bits least hlower upper]
    rfl
  rw [hproduct]
  exact denotes_pack hlower upper least greatest

/-- A whole number of at most 24 bits is converted without loss. -/
theorem denotes_ofUInt64 {n : UInt64} {l : Nat} (lower : 2 ^ l ≤ n.toNat)
    (upper : n.toNat < 2 ^ (l + 1)) (few : l ≤ 23) :
    Denotes n.toFloat32 (n.toNat * 2 ^ (23 - l)) (l - 23) := by
  have hpos := Nat.two_pow_pos l
  have hlog : n.toNat.log2 = l := (Nat.log2_eq_iff (by omega)).mpr ⟨lower, upper⟩
  have hlower : 2 ^ 23 ≤ n.toNat * 2 ^ (23 - l) := by
    have hscaled := Nat.mul_le_mul_right (2 ^ (23 - l)) lower
    rwa [← Nat.pow_add, Nat.add_sub_cancel' few] at hscaled
  have hupper : n.toNat * 2 ^ (23 - l) < 2 ^ 24 := by
    have hscaled := Nat.mul_lt_mul_of_pos_right upper (Nat.two_pow_pos (23 - l))
    rwa [← Nat.pow_add, show l + 1 + (23 - l) = 24 by omega] at hscaled
  have hsign : compare (n.toNat : Int) 0 = .gt := by
    rw [Int.compare_eq_gt]
    omega
  have htarget : Format.binary32.targetExponent (totalExponent n.toNat 0) = l - 23 := by
    simp only [Format.targetExponent, totalExponent, hlog, Format.mantissaBits, Format.minExponent]
    omega
  have hshift : (0 - ((l : Int) - 23)).toNat = 23 - l := by omega
  have hexponent : (0 : Int) - ((23 - l : Nat) : Int) = l - 23 := by omega
  have hround : UnpackedFloat.ofUInt64 Format.binary32 n =
      .finite .positive (n.toNat * 2 ^ (23 - l)) (l - 23) (by omega) := by
    rw [ofUInt64, ofNat, ofInt, UnpackedFloat.normalize, hsign]
    simp only [Int.toNat_natCast, UnpackedFloat.round, htarget, decreaseExponent, hshift,
      Nat.shiftLeft_eq, hexponent]
    exact roundWithAccuracy_of_bits hlower hupper (by omega)
  have hstored : n.toFloat32 = ⟨.pack (.finite .positive (n.toNat * 2 ^ (23 - l)) (l - 23)
      (by omega))⟩ := by
    rw [← hround]
    rfl
  rw [hstored]
  exact denotes_pack hlower hupper (by omega) (by omega)

/-- A number is converted to a whole number by leaving out what is after the point. -/
theorem Denotes.toUInt64 (hx : Denotes x m e) (small : e ≤ 0) :
    x.toUInt64.toNat = m / 2 ^ (-e).toNat := by
  have hmantissa (k : Nat) :
      ((⟨m, false, false⟩ : ExtendedMantissa) >>> k).mantissa = m / 2 ^ k := by
    cases k with
    | zero => exact (Nat.div_one m).symm
    | succ k => rw [shiftRight_succ]
  have hnone : (e - 0).toNat = 0 := by omega
  have hshift : (0 - (e - ((0 : Nat) : Int))).toNat = (-e).toNat := by omega
  have hvalue : roundToInt .positive m e = (m / 2 ^ (-e).toNat : Nat) := by
    simp only [roundToInt, decreaseExponent, hnone, shiftToExponent, hshift,
      ExtendedMantissa.ofMantissaAndAccuracy, Nat.shiftLeft_zero, hmantissa]
    rfl
  have hle := Nat.div_le_self m (2 ^ (-e).toNat)
  have hupper := hx.upper
  change (UInt64.ofNatClamp (x.toModel.unpack.toInt 0 (UInt64.size - 1)).toNat).toNat = _
  rw [hx.unpacked, toInt, hvalue, Int.toNat_natCast, UInt64.toNat_ofNatClamp_of_lt]
  exact Nat.lt_of_le_of_lt hle (Nat.lt_trans hupper (by decide))

/-- A number times one is the number. -/
theorem Denotes.mul_one (hx : Denotes x m e) : Denotes (x * Float32.ofBits 0x3F800000) m e := by
  have hone : Denotes (Float32.ofBits 0x3F800000) (2 ^ 23) (-23) :=
    denotes_of_eq (by decide) (by decide) (by decide) (by decide) (by decide +kernel)
  have hwhole : roundedQuotient (m * 2 ^ 23) (2 ^ 23) = m := by simp [roundedQuotient]
  have hbits : (m * 2 ^ 23).log2 = 23 + 23 := by
    have hlower := Nat.mul_le_mul_right (2 ^ 23) hx.lower
    have hupper := Nat.mul_lt_mul_of_pos_right hx.upper (Nat.two_pow_pos 23)
    exact (Nat.log2_eq_iff (by omega)).mpr ⟨by omega, by omega⟩
  have hexponent : e + -23 + ((23 : Nat) : Int) = e := by omega
  have hproduct := hx.mul hone hbits (by rw [hwhole]; exact hx.upper)
    (by rw [hexponent]; exact hx.least) (by rw [hexponent]; exact hx.greatest)
  rwa [hwhole, hexponent] at hproduct

/-- A count of less than 24 bits is told without loss. -/
theorem denotes_ofNat {n l : Nat} (lower : 2 ^ l ≤ n) (upper : n < 2 ^ (l + 1)) (few : l < 23) :
    Denotes (Float32.ofNat n) (n * 2 ^ (23 - l)) (l - 23) := by
  have hbound : 2 ^ (l + 1) ≤ 2 ^ 23 := Nat.pow_le_pow_right (by decide) few
  have hword : (UInt64.ofNat n).toNat = n := by
    rw [UInt64.toNat_ofNat']
    exact Nat.mod_eq_of_lt (by omega)
  have hcount : Float32.ofNat n =
      (UInt64.ofNat n).toFloat32 * Float32.ofBits 0x3F800000 := by
    change (if h : n < 2 ^ 23 ∧ 0 ≤ 10 then _ else _) = _
    rw [dif_pos ⟨by omega, by decide⟩]
    rfl
  have hconverted := denotes_ofUInt64 (by rwa [hword]) (by rwa [hword]) (Nat.le_of_lt few)
  rw [hword] at hconverted
  rw [hcount]
  exact hconverted.mul_one

end PlayServer.Single
