import Airlink.Bytes

/-!
# UTF-8

Reading octets as text. `Utf8.decode?` takes well-formed UTF-8 only. `Utf8.decodeLossy` takes all
octets and shows the replacement character for each ill-formed stretch, where a stretch is as long
as it could have begun a character and at least one octet.
-/

namespace Airlink.Text.Utf8

/-- For the first octet of a character: the number of octets that follow, and the range of the
first of them. Later ones range from 0x80 to 0xbf. -/
def lead? (b : Nat) : Option (Nat × Nat × Nat) :=
  if b ≤ 0x7f then some (0, 0, 0)
  else if 0xc2 ≤ b ∧ b ≤ 0xdf then some (1, 0x80, 0xbf)
  else if b = 0xe0 then some (2, 0xa0, 0xbf)
  else if b = 0xed then some (2, 0x80, 0x9f)
  else if 0xe1 ≤ b ∧ b ≤ 0xef then some (2, 0x80, 0xbf)
  else if b = 0xf0 then some (3, 0x90, 0xbf)
  else if b = 0xf4 then some (3, 0x80, 0x8f)
  else if 0xf1 ≤ b ∧ b ≤ 0xf3 then some (3, 0x80, 0xbf)
  else none

/-- The bits that the first octet of a character of `n` further octets contributes. -/
def leadBits (n b : Nat) : Nat :=
  match n with
  | 0 => b
  | 1 => b % 32
  | 2 => b % 16
  | _ => b % 8

/-- Follows up a character that has begun: reads up to `n` octets in range and gives the number of
octets read, and the code point if all `n` were there. -/
def follow : Nat → Nat → Nat → Nat → Bytes → Nat × Option Nat
  | 0, _, _, code, _ => (0, some code)
  | _ + 1, _, _, _, [] => (0, none)
  | n + 1, lo, hi, code, b :: rest =>
    if lo ≤ b.toNat ∧ b.toNat ≤ hi then
      let (read, result) := follow n 0x80 0xbf (code * 64 + b.toNat % 64) rest
      (read + 1, result)
    else (0, none)

/-- The first character of some octets, `none` if they begin with no character, and the octets
behind it or behind the ill-formed stretch. -/
def next (b : UInt8) (rest : Bytes) : Option Char × Bytes :=
  match lead? b.toNat with
  | none => (none, rest)
  | some (n, lo, hi) =>
    let (read, code) := follow n lo hi (leadBits n b.toNat) rest
    (code.map Char.ofNat, rest.drop read)

theorem length_next_le (b : UInt8) (rest : Bytes) : (next b rest).2.length ≤ rest.length := by
  unfold next
  cases h : lead? b.toNat <;> simp

/-- The characters of octets, with `none` for each ill-formed stretch. -/
def scan : Bytes → List (Option Char)
  | [] => []
  | b :: rest =>
    (next b rest).1 :: scan (next b rest).2
termination_by data => data.length
decreasing_by
  have := length_next_le b rest
  simp only [List.length_cons]
  omega

/-- The text that well-formed octets stand for. -/
def decode? (data : Bytes) : Option String := ((scan data).mapM id).map String.ofList

/-- The text that octets stand for, with the replacement character for ill-formed stretches. -/
def decodeLossy (data : Bytes) : String :=
  String.ofList ((scan data).map (·.getD '\ufffd'))

/-- The octets of a text. -/
def encode (s : String) : Bytes := s.toUTF8.toList

end Airlink.Text.Utf8
