import Mathlib.Data.List.Induction
import PlayServer.Text.Numeral

/-!
# The grammar of unsigned numerals

`Numeral` says which texts are decimal numerals, and of which number: an optional plus sign, and
then decimal digits, one at least. Reading a numeral below a bound accepts exactly these texts,
`unsigned?_eq_some_iff`.

A number has many numerals, which differ in the plus sign and in leading zeros. Without these they
are all the same, the canonical numeral that is printed for the number: `canonical_of_numeral`.
-/

namespace PlayServer.Text

/-- Decimal digits, one at least, that spell a number. -/
inductive Digits : List Char → Nat → Prop where
  | one (d : Nat) (hd : d < 10) : Digits [d.digitChar] d
  | more (digits : List Char) (n d : Nat) (hdigits : Digits digits n) (hd : d < 10) :
    Digits (digits ++ [d.digitChar]) (10 * n + d)

/-- A decimal numeral of a number: its digits, perhaps with a plus sign before them. -/
inductive Numeral : List Char → Nat → Prop where
  | plain (digits : List Char) (n : Nat) (hdigits : Digits digits n) : Numeral digits n
  | plus (digits : List Char) (n : Nat) (hdigits : Digits digits n) : Numeral ('+' :: digits) n

/-- A numeral without the plus sign and the leading zeros that it may have. -/
def canonical (numeral : String) : String :=
  String.ofList ((unsignedDigits numeral).dropWhile (· == '0'))

/-- A decimal digit is the digit of its value. -/
theorem digitChar_of_isDigit {c : Char} (h : c.isDigit = true) :
    c.toNat - '0'.toNat < 10 ∧ (c.toNat - '0'.toNat).digitChar = c := by
  have hrange : 48 ≤ c.toNat ∧ c.toNat ≤ 57 := by
    simpa [Char.isDigit, UInt32.le_iff_toNat_le] using h
  have hzero : '0'.toNat = 48 := rfl
  have hlt : c.toNat - '0'.toNat < 10 := by omega
  refine ⟨hlt, Char.toNat_inj.mp ?_⟩
  rw [Nat.toNat_digitChar_of_lt_ten hlt]
  omega

/-- A digit more makes the value ten times as much and its own more. -/
theorem decimalValue_concat (digits : List Char) (c : Char) :
    decimalValue (digits ++ [c]) = 10 * decimalValue digits + (c.toNat - '0'.toNat) := by
  rw [decimalValue, List.foldl_append, Nat.mul_comm]
  rfl

/-- Digits spell their value. -/
theorem digits_decimalValue {cs : List Char} (hne : cs ≠ []) (hdigits : ∀ c ∈ cs, c.isDigit = true) :
    Digits cs (decimalValue cs) := by
  induction cs using List.reverseRecOn with
  | nil => exact absurd rfl hne
  | append_singleton cs c ih =>
    obtain ⟨hcs, hc⟩ : (∀ c ∈ cs, c.isDigit = true) ∧ c.isDigit = true := by
      simpa [or_imp, forall_and] using hdigits
    obtain ⟨hlt, hchar⟩ := digitChar_of_isDigit hc
    rw [decimalValue_concat]
    by_cases hfirst : cs = []
    · have hone := Digits.one _ hlt
      rw [hchar] at hone
      simpa [hfirst, decimalValue] using hone
    · have hmore := (ih hfirst hcs).more _ _ _ hlt
      rwa [hchar] at hmore

/-- What spells a number are digits, and their value is the number. -/
theorem Digits.spec {cs : List Char} {n : Nat} (h : Digits cs n) :
    cs ≠ [] ∧ (∀ c ∈ cs, c.isDigit = true) ∧ decimalValue cs = n := by
  have hchar {d : Nat} (hd : d < 10) : d.digitChar.isDigit = true := by
    simpa [Nat.isDigit_digitChar] using hd
  have hvalue {d : Nat} (hd : d < 10) : d.digitChar.toNat - '0'.toNat = d :=
    Nat.toNat_digitChar_sub_48_of_lt_ten hd
  induction h with
  | one d hd =>
    refine ⟨by simp, by simpa using hchar hd, ?_⟩
    have hone := decimalValue_concat [] d.digitChar
    rw [hvalue hd] at hone
    simpa [decimalValue] using hone
  | more digits n d hdigits hd ih =>
    obtain ⟨-, hall, hn⟩ := ih
    refine ⟨by simp, ?_, ?_⟩
    · simpa [or_imp, forall_and, hchar hd] using hall
    · rw [decimalValue_concat, hn, hvalue hd]

/-- A numeral consists of digits, but for the plus sign. -/
theorem Numeral.forall_mem {cs : List Char} {n : Nat} (h : Numeral cs n) :
    ∀ c ∈ cs, c = '+' ∨ c.isDigit = true := by
  cases h with
  | plain _ _ hdigits => exact fun c hc => .inr (hdigits.spec.2.1 c hc)
  | plus _ _ hdigits =>
    intro c hc
    rcases List.mem_cons.mp hc with rfl | hmem
    · exact .inl rfl
    · exact .inr (hdigits.spec.2.1 c hmem)

/-- The digits of a numeral. -/
theorem Numeral.digits {s : String} {n : Nat} (h : Numeral s.toList n) :
    Digits (unsignedDigits s) n := by
  unfold unsignedDigits
  generalize s.toList = cs at h
  cases h with
  | plain _ _ hdigits =>
    split
    · next digits =>
      -- a plus sign is no digit
      have hplus := hdigits.spec.2.1 '+' (by simp)
      cases hplus
    · exact hdigits
  | plus _ _ hdigits => exact hdigits

/-- Digits are those of a numeral. -/
theorem numeral_of_digits {s : String} {n : Nat} (h : Digits (unsignedDigits s) n) :
    Numeral s.toList n := by
  unfold unsignedDigits at h
  split at h
  · next digits heq =>
    rw [heq]
    exact .plus digits n h
  · exact .plain _ n h

/-- Reading accepts exactly the numerals of the numbers below the bound. -/
theorem unsigned?_eq_some_iff {bound n : Nat} {s : String} :
    unsigned? bound s = some n ↔ Numeral s.toList n ∧ n < bound := by
  unfold unsigned?
  dsimp only
  constructor
  · intro h
    split at h
    · cases h
    next hdigits =>
    obtain ⟨hne, hall⟩ : unsignedDigits s ≠ [] ∧ ∀ c ∈ unsignedDigits s, c.isDigit = true := by
      simpa using hdigits
    obtain ⟨hbound, hn⟩ := Option.ite_none_right_eq_some.mp h
    cases hn
    exact ⟨numeral_of_digits (digits_decimalValue hne hall), hbound⟩
  · rintro ⟨hnumeral, hbound⟩
    obtain ⟨hne, hall, rfl⟩ := hnumeral.digits.spec
    rw [if_neg (by simpa using ⟨hne, hall⟩), if_pos hbound]

/-- Digits without leading zeros are those that are printed; for zero no digit is left. -/
theorem Digits.dropWhile_zero {cs : List Char} {n : Nat} (h : Digits cs n) :
    cs.dropWhile (· == '0') = if n = 0 then [] else Nat.toDigits 10 n := by
  have hone {d : Nat} (hd : d < 10) :
      [d.digitChar].dropWhile (· == '0') = if d = 0 then [] else Nat.toDigits 10 d := by
    by_cases hzero : d = 0
    · simp [hzero]
    · simp [hzero, Nat.toDigits_of_lt_base hd]
  induction h with
  | one d hd => exact hone hd
  | more digits n d hdigits hd ih =>
    rw [List.dropWhile_append, ih]
    by_cases hzero : n = 0
    · simp [hzero, hone hd]
    · have hpos : 0 < n := Nat.pos_of_ne_zero hzero
      have hprinted := Nat.toDigits_append_toDigits (b := 10) (by decide) hpos hd
      rw [Nat.toDigits_of_lt_base hd] at hprinted
      rw [if_neg hzero, if_neg (by simp [Nat.toDigits_ne_nil]), hprinted,
        if_neg (by omega : 10 * n + d ≠ 0)]

/-- The canonical numeral of a positive number is what is printed for it, whichever of its numerals
it is made from. -/
theorem canonical_of_numeral {numeral : String} {n : Nat} (h : Numeral numeral.toList n)
    (hn : n ≠ 0) : canonical numeral = toString n := by
  rw [canonical, h.digits.dropWhile_zero, if_neg hn, Nat.toString_eq_ofList_toDigits]

/-- What is printed for a number are digits that spell it. -/
theorem digits_toDigits (n : Nat) : Digits (Nat.toDigits 10 n) n := by
  induction n using Nat.strongRecOn with
  | ind n ih =>
    by_cases hn : n < 10
    · rw [Nat.toDigits_of_lt_base hn]
      exact .one n hn
    · have hprinted := Nat.toDigits_append_toDigits (b := 10) (n := n / 10) (d := n % 10)
        (by decide) (by omega) (by omega)
      rw [Nat.toDigits_of_lt_base (by omega : n % 10 < 10)] at hprinted
      have hmore := (ih (n / 10) (by omega)).more _ _ (n % 10) (by omega)
      rw [hprinted] at hmore
      rwa [Nat.div_add_mod n 10] at hmore

/-- What is printed for a number is a numeral of it. -/
theorem numeral_toString (n : Nat) : Numeral (toString n).toList n := by
  rw [Nat.toString_eq_ofList_toDigits, String.toList_ofList]
  exact .plain _ n (digits_toDigits n)

end PlayServer.Text
