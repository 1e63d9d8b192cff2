/-!
# Unsigned numerals

`unsigned? bound` reads a decimal numeral: one digit or more, with an optional `+` in front and
any number of leading zeros, of a value below `bound`. Only the ASCII digits count.
-/

namespace PlayServer.Text

/-- The value of a run of decimal digits. -/
def decimalValue (digits : List Char) : Nat :=
  digits.foldl (fun n c => n * 10 + (c.toNat - '0'.toNat)) 0

/-- The digits of a numeral, without the plus sign it may have. -/
def unsignedDigits (s : String) : List Char :=
  match s.toList with
  | '+' :: digits => digits
  | digits => digits

/-- The value of an unsigned decimal numeral, if it is one and lies below the bound. -/
def unsigned? (bound : Nat) (s : String) : Option Nat :=
  let digits := unsignedDigits s
  if digits.isEmpty || !digits.all Char.isDigit then none
  else
    let n := decimalValue digits
    if n < bound then some n else none

end PlayServer.Text
