/-!
# Byte strings and big-endian numbers

Every integer on the wire is written most significant byte first. `BigEndian.encode` writes a
number in a given width and `BigEndian.decode` reads a byte string back; for a number that fits
its width the two are inverse, and a number that does not fit keeps its low-order bytes.
-/

namespace PlayServer

/-- A byte string. -/
abbrev Bytes := List UInt8

/-- Byte strings grow at their end: what holds of the empty one and survives one more byte holds
of all. -/
theorem Bytes.snocInduction {P : Bytes → Prop} (nil : P [])
    (snoc : ∀ (bs : Bytes) (b : UInt8), P bs → P (bs ++ [b])) (bs : Bytes) : P bs := by
  rw [← List.reverse_reverse bs]
  induction bs.reverse with
  | nil => exact nil
  | cons b bs ih =>
    rw [List.reverse_cons]
    exact snoc _ b ih

namespace BigEndian

/-- The low `width` bytes of a number, most significant first. -/
def encode : (width : Nat) → (n : Nat) → Bytes
  | 0, _ => []
  | width + 1, n => encode width (n / 256) ++ [UInt8.ofNat n]

/-- The number that a byte string spells, most significant byte first. -/
def decode (bs : Bytes) : Nat :=
  bs.foldl (fun n b => n * 256 + b.toNat) 0

/-- How many numbers fit a width. -/
def bound (width : Nat) : Nat := Nat.pow 256 width

/-- Each byte makes room for 256 times as many numbers. -/
theorem bound_succ (width : Nat) : bound (width + 1) = bound width * 256 := rfl

/-- A written number has its width. -/
@[simp] theorem length_encode (width n : Nat) : (encode width n).length = width := by
  induction width generalizing n with
  | zero => rfl
  | succ width ih => simp [encode, ih]

/-- Reading one more byte shifts what was read before it. -/
theorem decode_append_singleton (bs : Bytes) (b : UInt8) :
    decode (bs ++ [b]) = decode bs * 256 + b.toNat := by
  simp [decode, List.foldl_append]

/-- A byte string spells a number below the bound of its width. -/
theorem decode_lt (bs : Bytes) : decode bs < bound bs.length := by
  induction bs using Bytes.snocInduction with
  | nil => decide
  | snoc bs b ih =>
    have hb := b.toNat_lt
    rw [decode_append_singleton, List.length_append, List.length_singleton, bound_succ]
    omega

/-- A number that fits its width reads back. -/
theorem decode_encode {width n : Nat} (h : n < bound width) : decode (encode width n) = n := by
  induction width generalizing n with
  | zero =>
    have : n = 0 := by simpa [bound] using h
    simp [encode, decode, this]
  | succ width ih =>
    have hq : n / 256 < bound width := by
      rw [bound_succ] at h
      omega
    have hb : (UInt8.ofNat n).toNat = n % 256 := by simp
    rw [encode, decode_append_singleton, ih hq, hb]
    omega

/-- Writing what was read gives the byte string back. -/
theorem encode_decode (bs : Bytes) : encode bs.length (decode bs) = bs := by
  induction bs using Bytes.snocInduction with
  | nil => rfl
  | snoc bs b ih =>
    have hb := b.toNat_lt
    have hq : (decode bs * 256 + b.toNat) / 256 = decode bs := by omega
    have hr : UInt8.ofNat (decode bs * 256 + b.toNat) = b := by
      apply UInt8.toNat_inj.mp
      simp
    rw [decode_append_singleton, List.length_append, List.length_singleton, encode, hq, hr, ih]

end BigEndian

/-- One hexadecimal digit, in lower case. -/
def hexDigit (n : Nat) : Char :=
  if n < 10 then Char.ofNat (n + 48) else Char.ofNat (n + 87)

/-- A number in lower-case hexadecimal, with at least `width` digits. -/
def hexNumeral (width n : Nat) : String :=
  let digits := (Nat.toDigits 16 n)
  String.ofList (List.replicate (width - digits.length) '0' ++ digits)

/-- A byte string as lower-case hexadecimal text, two digits a byte. -/
def Bytes.hex (bs : Bytes) : String :=
  String.ofList (bs.flatMap fun b => [hexDigit (b.toNat / 16), hexDigit (b.toNat % 16)])

end PlayServer
