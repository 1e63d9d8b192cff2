/-!
# The shortest decimal of a floating-point number

`Shortest.ofFloat` gives the decimal with the fewest digits that reads back as a given positive
number, and of those the nearest to it. The search is exact: a number stands for all reals that
round to it, its end points included when its significand is even, and a decimal is taken when it
lies in that interval. `Shortest.print` writes it: positional for numbers from 10⁻⁵ up to 10¹⁶,
always with a point, and otherwise with an exponent that bears its sign.
-/

namespace PlayServer

/-- A decimal: its digits as a number, and the power of ten that it is to be multiplied by. -/
structure Decimal where
  digits : Nat
  exponent : Int
  deriving DecidableEq, Repr

namespace Shortest

/-- A positive fraction and the interval of reals that round to it, over one denominator. -/
structure Interval where
  low : Nat
  value : Nat
  high : Nat
  denominator : Nat
  closed : Bool

/-- The bit of the significand that a normal double does not store. -/
def hiddenBit : Nat := Nat.pow 2 52

/-- The interval of a positive double with a biased exponent and a fraction field. -/
def interval (biased fraction : Nat) : Interval :=
  let significand := if biased = 0 then fraction else fraction + hiddenBit
  let exponent : Int := (if biased = 0 then 1 else biased) - 1075
  -- The gap below a power of two is half the gap above it.
  let below := if fraction = 0 && 1 < biased then 1 else 2
  let scale := (exponent - 2).toNat
  { low := (4 * significand - below) * Nat.pow 2 scale
    value := 4 * significand * Nat.pow 2 scale
    high := (4 * significand + 2) * Nat.pow 2 scale
    denominator := Nat.pow 2 (2 - exponent).toNat
    closed := significand % 2 = 0 }

/-- Whether a natural number times a power of ten lies in the interval. -/
def Interval.contains (i : Interval) (digits : Nat) (exponent : Int) : Bool :=
  let d := digits * Nat.pow 10 exponent.toNat * i.denominator
  let unit := Nat.pow 10 (-exponent).toNat
  if i.closed then i.low * unit ≤ d && d ≤ i.high * unit
  else i.low * unit < d && d < i.high * unit

/-- The exponent of the leading decimal digit of a positive fraction. -/
def leadingExponent (value denominator : Nat) : Int :=
  if denominator ≤ value then ((Nat.toDigits 10 (value / denominator)).length : Int) - 1
  else
    match (List.range 400).find? fun n => denominator ≤ value * Nat.pow 10 n with
    | some n => -(n : Int)
    | none => 0

/-- The decimal of a given number of digits that is nearest to the fraction, if it lies in the
interval; an exact tie goes to the even digit. -/
def Interval.decimal? (i : Interval) (count : Nat) : Option Decimal :=
  let exponent := leadingExponent i.value i.denominator - count + 1
  let n := i.value * Nat.pow 10 (-exponent).toNat
  let d := i.denominator * Nat.pow 10 exponent.toNat
  let down := n / d
  let nearest :=
    if 2 * (n % d) < d then down
    else if d < 2 * (n % d) then down + 1
    else if down % 2 = 0 then down else down + 1
  let other := if nearest = down then down + 1 else down
  if i.contains nearest exponent then some ⟨nearest, exponent⟩
  else if i.contains other exponent then some ⟨other, exponent⟩
  else none

/-- Drops zeros at the end of the digits. -/
def trimZeros : (fuel : Nat) → Decimal → Decimal
  | 0, d => d
  | fuel + 1, d =>
    if d.digits ≠ 0 && d.digits % 10 = 0 then trimZeros fuel ⟨d.digits / 10, d.exponent + 1⟩ else d

/-- The shortest decimal of a positive finite double. Seventeen digits are always enough. -/
def ofFloat (x : Float) : Decimal :=
  let bits := x.toBits.toNat
  let i := interval (bits / hiddenBit % 2048) (bits % hiddenBit)
  match (List.range 17).findSome? fun n => i.decimal? (n + 1) with
  | some d => trimZeros 20 d
  | none => ⟨0, 0⟩

/-- The text of a decimal. -/
def printDecimal (d : Decimal) : String :=
  let digits := Nat.toDigits 10 d.digits
  let count := digits.length
  let point : Int := count + d.exponent
  let zeros (n : Int) := String.ofList (List.replicate n.toNat '0')
  if 0 ≤ d.exponent && point ≤ 16 then String.ofList digits ++ zeros d.exponent ++ ".0"
  else if 0 < point && point ≤ 16 then
    String.ofList (digits.take point.toNat) ++ "." ++ String.ofList (digits.drop point.toNat)
  else if -5 < point && point ≤ 0 then "0." ++ zeros (-point) ++ String.ofList digits
  else
    let mantissa :=
      if count = 1 then String.ofList digits
      else String.ofList (digits.take 1) ++ "." ++ String.ofList (digits.drop 1)
    let exponent := point - 1
    mantissa ++ (if 0 ≤ exponent then "e+" else "e-") ++ toString exponent.natAbs

/-- The text of a double that is zero or positive and finite. -/
def print (x : Float) : String := if x == 0 then "0.0" else printDecimal (ofFloat x)

end Shortest

end PlayServer
