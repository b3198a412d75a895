/-!
# Binary floating point numbers of 53 bits

A number is a natural significand times a power of two, or the overflow value. `ofDecimal` rounds a
decimal to the nearest number, a tie to the even significand; `shortest` gives the fewest digits
that read back. All arithmetic is exact, on natural numbers.
-/
namespace TypedClients.Text

/-- A number that is not negative. A finite one has a significand below `2 ^ 53`, and of at least
`2 ^ 52` unless the exponent is the least, `-1074`. -/
inductive Binary64 where
  | finite (significand : Nat) (exponent : Int)
  | overflow
  deriving DecidableEq, Repr, Inhabited

namespace Binary64

def zero : Binary64 := .finite 0 (-1074)

/-- The quotient rounded to the nearest natural number, a tie to the even one. -/
def roundDiv (num den : Nat) : Nat :=
  let q := num / den
  let r := num % den
  if 2 * r < den ∨ (2 * r = den ∧ q % 2 = 0) then q else q + 1

/-- Numerator and denominator of `num / den` divided by `2 ^ e`. -/
def scaled (num den : Nat) (e : Int) : Nat × Nat :=
  if e < 0 then (num * Nat.pow 2 e.natAbs, den) else (num, den * Nat.pow 2 e.natAbs)

/-- The nearest number to a positive quotient. -/
def ofQuotient (num den : Nat) : Binary64 :=
  let guess : Int := (num.log2 : Int) - (den.log2 : Int) - 52
  let (n, d) := scaled num den guess
  let fitting := if n / d < Nat.pow 2 52 then guess - 1
    else if Nat.pow 2 53 ≤ n / d then guess + 1 else guess
  let e := max fitting (-1074)
  let (n, d) := scaled num den e
  let m := roundDiv n d
  let (m, e) := if m = Nat.pow 2 53 then (Nat.pow 2 52, e + 1) else (m, e)
  if 971 < e then .overflow else .finite m e

/-- The number of decimal digits; one for zero. -/
def digitCount (n : Nat) : Nat := (Nat.toDigits 10 n).length

/-- The number nearest to `digits * 10 ^ exponent`. Far outside the range of the format the
powers of ten are not computed. -/
def ofDecimal (digits : Nat) (exponent : Int) : Binary64 :=
  if digits = 0 then zero
  else
    let magnitude := exponent + digitCount digits
    if 400 < magnitude then .overflow
    else if magnitude < -400 then zero
    else if exponent < 0 then ofQuotient digits (Nat.pow 10 exponent.natAbs)
    else ofQuotient (digits * Nat.pow 10 exponent.natAbs) 1

/-- The least `p` with `num / den < 10 ^ p`, found from a guess by at most `fuel` steps. -/
def decimalPoint (num den : Nat) : Nat → Int → Int
  | 0, p => p
  | fuel + 1, p =>
      let below (p : Int) : Bool :=
        if p < 0 then num * Nat.pow 10 p.natAbs < den else num < den * Nat.pow 10 p.natAbs
      if ¬ below p then decimalPoint num den fuel (p + 1)
      else if below (p - 1) then decimalPoint num den fuel (p - 1)
      else p

/-- Digits and decimal point: the value is `0.digits * 10 ^ point`. -/
structure Digits where
  digits : List Char
  point : Int

/-- The fewest digits for which some decimal reads back as the number, and of those the nearest.
A decimal reads back when it lies between the midpoints to the neighbours, the midpoints included
when the significand is even. -/
def shortest (m : Nat) (e : Int) : Digits :=
  let den := if e < 0 then Nat.pow 2 (e.natAbs + 2) else 4
  let unit := if e < 0 then 1 else Nat.pow 2 e.natAbs
  let value := 4 * m * unit
  let high := (4 * m + 2) * unit
  let low := if m = Nat.pow 2 52 ∧ e ≠ -1074 then (4 * m - 1) * unit else (4 * m - 2) * unit
  let guess := ((value.log2 : Int) - (den.log2 : Int)) * 30103 / 100000
  let point := decimalPoint value den 8 guess
  /- `value / den / 10 ^ k` with `k = point - n`, as scaled numerators over one denominator. -/
  let rec go (fuel n : Nat) : Digits :=
    let k := point - n
    let num (x : Nat) := if k < 0 then x * Nat.pow 10 k.natAbs else x
    let den := if k < 0 then den else den * Nat.pow 10 k.natAbs
    let inside (d : Nat) : Bool :=
      if m % 2 = 0 then num low ≤ d * den && d * den ≤ num high
      else num low < d * den && d * den < num high
    let floor := num value / den
    let rest := num value % den
    let lowFirst := 2 * rest < den || (2 * rest == den && floor % 2 == 0)
    let pick : Option Nat :=
      if inside floor && inside (floor + 1) then some (if lowFirst then floor else floor + 1)
      else if inside floor then some floor
      else if inside (floor + 1) then some (floor + 1)
      else none
    match pick, fuel with
    | some d, _ =>
        let ds := Nat.toDigits 10 d
        ⟨(ds.reverse.dropWhile (· == '0')).reverse, point + (ds.length - n : Int)⟩
    | none, 0 => ⟨Nat.toDigits 10 floor, point⟩
    | none, fuel + 1 => go fuel (n + 1)
  go 16 1

/-- Positional for a decimal point from -3 to 16, with an exponent of at least two digits
otherwise. `whole` is written after a whole number in positional form. -/
def layout (d : Digits) (whole : List Char) : List Char :=
  if -4 < d.point ∧ d.point ≤ 16 then
    if d.point ≤ 0 then "0.".toList ++ List.replicate d.point.natAbs '0' ++ d.digits
    else if d.digits.length ≤ d.point.toNat then
      d.digits ++ List.replicate (d.point.toNat - d.digits.length) '0' ++ whole
    else d.digits.take d.point.toNat ++ '.' :: d.digits.drop d.point.toNat
  else
    let exponent := d.point - 1
    let magnitude := Nat.toDigits 10 exponent.natAbs
    let magnitude := if magnitude.length < 2 then '0' :: magnitude else magnitude
    let fraction := if d.digits.length ≤ 1 then [] else '.' :: d.digits.drop 1
    d.digits.take 1 ++ fraction ++ 'e' :: (if exponent < 0 then '-' else '+') :: magnitude

/-- The overflow value is written as a decimal that overflows. -/
def overflowText : List Char := "1e309".toList

/-- The text of a number; `whole` ends a whole number in positional form. -/
def text (whole : List Char) : Binary64 → List Char
  | .overflow => overflowText
  | .finite m e => if m = 0 then '0' :: whole else layout (shortest m e) whole

example : text ".0".toList (ofDecimal 1 400) = "1e309".toList := by decide +kernel
example : text ".0".toList (ofDecimal 1 (-1)) = "0.1".toList := by decide +kernel
example : text ".0".toList (ofDecimal 1 16) = "1e+16".toList := by decide +kernel
example : text ".0".toList (ofDecimal 1 15) = "1000000000000000.0".toList := by decide +kernel
example : text ".0".toList (ofDecimal 1 (-4)) = "0.0001".toList := by decide +kernel
example : text ".0".toList (ofDecimal 5 (-324)) = "5e-324".toList := by decide +kernel

end Binary64

end TypedClients.Text
