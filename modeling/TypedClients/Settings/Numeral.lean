import TypedClients.Settings.Data
import TypedClients.Text.CharSet
import TypedClients.Text.Identifier

/-!
# Numerals

The digits of numbers in configurations.
-/
namespace TypedClients.Settings

open TypedClients.Text

/-- The value of digits in a base; digits beyond the base are refused. -/
def valueInBase? (base : Nat) (cs : List Char) : Option Nat :=
  cs.foldlM (fun n c => (hexDigit? c).bind fun d => if d < base then some (n * base + d) else none) 0

/-- The value of decimal digits. -/
def decimalValue (cs : List Char) : Nat := (valueInBase? 10 cs).getD 0

/-- At least one decimal digit, and what follows. -/
def digits? (cs : List Char) : Option (List Char × List Char) :=
  match cs.takeWhile isDigit with
  | [] => none
  | ds => some (ds, cs.dropWhile isDigit)

/-- Whether a sign is minus, and what follows the sign. -/
def sign : List Char → Bool × List Char
  | '-' :: cs => (true, cs)
  | '+' :: cs => (false, cs)
  | cs => (false, cs)

/-- The number with the given sign and absolute value. -/
def signed (negative : Bool) (n : Nat) : Int := if negative then -n else n

/-- The number written with these digits before and after the point, and this power of ten. -/
def floating (negative : Bool) (whole part : List Char) (power : Int) : Data :=
  .ofBinary negative (Binary64.ofDecimal (decimalValue (whole ++ part)) (power - part.length))

end TypedClients.Settings
