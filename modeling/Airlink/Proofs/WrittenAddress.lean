import Airlink.Proofs.AddressText

/-!
# Written addresses are read back

The written form of an address is read as that address, and so are the texts that differ from it in
the case of some letters and have dashes for some of its colons (`HwAddr.format_read_back`). Each
character stands for the one in its place (`HwAddr.StandsIn`), so that the groups of such a text are
the digits of the octets.
-/

namespace Airlink.HwAddr

open Bytes.Hex (IsDigit digit pair)

/-! ## Characters -/

/-- A character may have another one in its place: the same letter in upper case, or a dash for a
colon. -/
def StandsIn (c d : Char) : Prop := d = c ∨ d = c.toUpper ∨ (c = ':' ∧ d = '-')

instance (c d : Char) : Decidable (StandsIn c d) := inferInstanceAs (Decidable (_ ∨ _))

/-- What stands for a digit is a digit of the same value. -/
theorem StandsIn.isDigit {n : Nat} (small : n < 16) {d : Char} (h : StandsIn (digit n) d) :
    IsDigit d n := by
  have table : ∀ n < 16, IsDigit (digit n) n ∧ IsDigit (digit n).toUpper n ∧ digit n ≠ ':' := by
    decide +kernel
  obtain ⟨lower, upper, noColon⟩ := table n small
  rcases h with rfl | rfl | ⟨colon, -⟩
  · exact lower
  · exact upper
  · exact absurd colon noColon

/-- What stands for a colon separates groups. -/
theorem StandsIn.separates {d : Char} (h : StandsIn ':' d) : d = ':' ∨ d = '-' := by
  rcases h with colon | colon | ⟨-, dash⟩
  · exact .inl colon
  · exact .inl colon
  · exact .inr dash

/-! ## Octets -/

/-- What stands for the digits of an octet, in front of others. -/
theorem exists_twoDigits {b : UInt8} {rest cs : List Char}
    (h : List.Forall₂ StandsIn (pair b ++ rest) cs) :
    ∃ g cs', cs = g ++ cs' ∧ TwoDigits g b ∧ List.Forall₂ StandsIn rest cs' := by
  obtain ⟨c, _, high, behind, rfl⟩ := List.forall₂_cons_left_iff.1 h
  obtain ⟨d, cs', low, others, rfl⟩ := List.forall₂_cons_left_iff.1 behind
  have bound := b.toNat_lt
  exact ⟨[c, d], cs', rfl, .intro (high.isDigit (by omega)) (low.isDigit (by omega)) (by omega),
    others⟩

/-- Octets in digits, with colons between them. -/
def spelled : Bytes → List Char
  | [] => []
  | [b] => pair b
  | b :: bs => pair b ++ ':' :: spelled bs

theorem chars_eq (a : HwAddr) : a.chars = spelled a.toBytes := rfl

/-- A text that stands for octets in digits has their digits as its groups. -/
theorem exists_groups (b : UInt8) (bs : Bytes) {cs : List Char}
    (h : List.Forall₂ StandsIn (spelled (b :: bs)) cs) :
    ∃ gs, Separated gs cs ∧ List.Forall₂ TwoDigits gs (b :: bs) := by
  induction bs generalizing b cs with
  | nil =>
    have alone : spelled [b] = pair b ++ [] := (List.append_nil _).symm
    rw [alone] at h
    obtain ⟨g, _, rfl, digits, none⟩ := exists_twoDigits h
    obtain rfl := List.forall₂_nil_left_iff.1 none
    rw [List.append_nil]
    exact ⟨[g], .last g, .cons digits .nil⟩
  | cons b' bs ih =>
    obtain ⟨g, _, rfl, digits, behind⟩ := exists_twoDigits h
    obtain ⟨sep, cs, between, spelled, rfl⟩ := List.forall₂_cons_left_iff.1 behind
    obtain ⟨gs, separated, others⟩ := ih b' spelled
    exact ⟨g :: gs, .cons g between.separates separated, .cons digits others⟩

/-! ## Addresses -/

/-- A text that stands for the written form of an address is made of its digits. -/
theorem denotes_of_standsIn {a : HwAddr} {text : String}
    (h : List.Forall₂ StandsIn a.format.toList text.toList) : Denotes text a := by
  rw [format, String.toList_ofList, chars_eq] at h
  exact exists_groups a.b0 _ h

/-- **Written addresses.** The written form of an address is read as that address. So is any text
that has, in the place of some of its letters, the same letters in upper case, and dashes in the
place of some of its colons. No two addresses have the same written form. -/
theorem format_read_back :
    (∀ a : HwAddr, ofText? a.format = some a) ∧
    (∀ (a : HwAddr) (text : String), List.Forall₂ StandsIn a.format.toList text.toList →
      ofText? text = some a) ∧
    Function.Injective format := by
  have variants (a : HwAddr) (text : String)
      (h : List.Forall₂ StandsIn a.format.toList text.toList) : ofText? text = some a :=
    (denotes_of_standsIn h).ofText?_eq_some
  have back (a : HwAddr) : ofText? a.format = some a :=
    variants a _ (List.forall₂_same.2 fun _ _ => .inl rfl)
  refine ⟨back, variants, fun a b same => Option.some_inj.1 ?_⟩
  rw [← back a, same, back b]

/-- A text in both cases and with both separators. -/
theorem format_read_back_mixed :
    ofText? "02:aB-Cd:0E-ef:FF" = some ⟨0x02, 0xab, 0xcd, 0x0e, 0xef, 0xff⟩ :=
  format_read_back.2.1 _ _ (by decide +kernel)

end Airlink.HwAddr
