import Airlink.Bytes

/-!
# Hexadecimal text

Two lower-case digits per octet on output; either case on input. `decode` reads a whole text and
names the first fault: an odd number of digits, or the first octet that is no digit.
-/

namespace Airlink.Bytes.Hex

/-- The lower-case digit of a number below sixteen. -/
def digit (n : Nat) : Char :=
  if n < 10 then Char.ofNat (48 + n) else Char.ofNat (87 + n)

/-- The value of a hexadecimal digit of either case. -/
def value? (c : Char) : Option Nat :=
  if '0' ≤ c ∧ c ≤ '9' then some (c.toNat - 48)
  else if 'a' ≤ c ∧ c ≤ 'f' then some (c.toNat - 87)
  else if 'A' ≤ c ∧ c ≤ 'F' then some (c.toNat - 55)
  else none

/-- The two digits of an octet, high half first. -/
def pair (b : UInt8) : List Char := [digit (b.toNat / 16), digit (b.toNat % 16)]

/-- The octets as text, two digits each. -/
def encode (bs : Bytes) : String := String.ofList (bs.flatMap pair)

/-- Why a text is not the hexadecimal form of any octets. -/
inductive Fault where
  /-- The number of digits is odd. -/
  | oddLength
  /-- The octet at `index` of the text is no digit. -/
  | invalidDigit (octet : UInt8) (index : Nat)
  deriving DecidableEq, Repr

/-- Reads pairs of digits, counting positions from `index`. -/
def decodeFrom (index : Nat) : Bytes → Except Fault Bytes
  | hi :: lo :: rest =>
    match value? (Char.ofNat hi.toNat), value? (Char.ofNat lo.toNat) with
    | none, _ => .error (.invalidDigit hi index)
    | some _, none => .error (.invalidDigit lo (index + 1))
    | some h, some l => (decodeFrom (index + 2) rest).map (UInt8.ofNat (16 * h + l) :: ·)
  | _ => .ok []

/-- The octets that a text, given by its own octets, stands for. The length is judged first. -/
def decode (text : Bytes) : Except Fault Bytes :=
  if text.length % 2 = 1 then .error .oddLength else decodeFrom 0 text

/-- Lower-case digits of a number, at least `width` of them. -/
def padded (width n : Nat) : String :=
  let digits := (Nat.toDigits 16 n)
  String.ofList (List.replicate (width - digits.length) '0' ++ digits)

end Airlink.Bytes.Hex
