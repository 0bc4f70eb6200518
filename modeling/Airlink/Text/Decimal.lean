/-!
# Decimal numbers

A decimal number as a whole number and a power of ten, read from digits with an optional point and
an optional exponent. What is asked of it is whether it is too large for a double: `overflows` is
decided on whole numbers and builds none that is much longer than the text.
-/

namespace Airlink.Text

/-- The number `mantissa * 10 ^ exponent`. -/
structure Decimal where
  mantissa : Nat
  exponent : Int
  deriving DecidableEq, Repr

namespace Decimal

/-- Whether a character is a decimal digit. -/
def isDigit (c : Char) : Bool := '0' ≤ c && c ≤ '9'

/-- The number that decimal digits stand for. -/
def ofDigits (ds : List Char) : Nat := ds.foldl (fun n c => 10 * n + (c.toNat - '0'.toNat)) 0

/-- The exponent behind a number, zero if there is none. -/
def exponent? : List Char → Option Int
  | [] => some 0
  | e :: cs =>
    let (negative, ds) := match cs with
      | '-' :: ds => (true, ds)
      | '+' :: ds => (false, ds)
      | ds => (false, ds)
    if (e = 'e' ∨ e = 'E') ∧ ds ≠ [] ∧ ds.all isDigit then
      some (if negative then -Int.ofNat (ofDigits ds) else ofDigits ds)
    else none

/-- The number without sign that a text stands for: digits with an optional point among them or
beside them, and an optional exponent. -/
def parse? (cs : List Char) : Option Decimal := do
  let whole := cs.takeWhile isDigit
  let (fraction, rest) := match cs.dropWhile isDigit with
    | '.' :: cs => (cs.takeWhile isDigit, cs.dropWhile isDigit)
    | cs => ([], cs)
  if whole.isEmpty && fraction.isEmpty then none
  else
    let e ← exponent? rest
    return ⟨ofDigits (whole ++ fraction), e - fraction.length⟩

/-- The least number that is nearer to the power of two above the largest double, or as near. -/
def doubleBound : Nat := 1 <<< 1024 - 1 <<< 970

/-- Whether a number is beyond the doubles. A number other than zero lies between the powers of ten
around it, so that only numbers near the bound are compared with it. -/
def overflows (d : Decimal) : Bool :=
  let order : Int := (Nat.toDigits 10 d.mantissa).length + d.exponent
  if d.mantissa = 0 ∨ order ≤ 308 then false
  else if order > 310 then true
  else doubleBound * Nat.pow 10 (-d.exponent).toNat ≤ d.mantissa * Nat.pow 10 d.exponent.toNat

end Decimal

end Airlink.Text
