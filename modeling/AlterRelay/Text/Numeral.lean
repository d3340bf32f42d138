/-
# AlterRelay.Text.Numeral — unsigned numerals of 32 bits

A numeral is one optional plus sign and at least one ASCII digit; leading zeros
count for nothing. It is read only if its value is below 2 ^ 32.
-/
namespace AlterRelay.Text

set_option autoImplicit false

/-- The number that a run of decimal digits spells. -/
def digitsValue (digits : List Char) : Nat :=
  digits.foldl (fun value digit => 10 * value + (digit.toNat - '0'.toNat)) 0

def unsigned (numeral : List Char) : List Char :=
  match numeral with
  | '+' :: digits => digits
  | digits => digits

def numeral? (text : List Char) : Option UInt32 :=
  let digits := unsigned text
  if digits.isEmpty || !digits.all Char.isDigit then none
  else if fits : digitsValue digits < UInt32.size then
    some (UInt32.ofNatLT (digitsValue digits) fits)
  else none

end AlterRelay.Text
