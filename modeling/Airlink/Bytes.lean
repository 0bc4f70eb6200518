/-!
# Bytes and words

A frame is a list of octets. Words of a given width are written least or most significant octet
first: `leBytes`/`leNat` and `beBytes`/`beNat` are the two orders, for any width. Writing the
number that octets stand for gives the octets back (`leBytes_leNat`).

`slice` cuts a stretch out of a list and `overwrite` replaces one without changing the length.
-/

namespace Airlink

/-- A string of octets. -/
abbrev Bytes := List UInt8

namespace Bytes

/-! ## Least significant octet first -/

/-- The `w` lowest octets of `n`, least significant first. -/
def leBytes : Nat → Nat → Bytes
  | 0, _ => []
  | w + 1, n => UInt8.ofNat n :: leBytes w (n / 256)

/-- The number whose octets, least significant first, are given. -/
def leNat : Bytes → Nat
  | [] => 0
  | b :: bs => b.toNat + 256 * leNat bs

@[simp] theorem length_leBytes (w n : Nat) : (leBytes w n).length = w := by
  induction w generalizing n with
  | zero => rfl
  | succ w ih => simp [leBytes, ih]

theorem leBytes_leNat (bs : Bytes) : leBytes bs.length (leNat bs) = bs := by
  induction bs with
  | nil => rfl
  | cons b bs ih =>
    have hb : b.toNat < 256 := b.toNat_lt
    have hq : (b.toNat + 256 * leNat bs) / 256 = leNat bs := by omega
    have hr : UInt8.ofNat (b.toNat + 256 * leNat bs) = b := by
      apply UInt8.toNat_inj.1
      simp
    simp only [List.length_cons, leNat, leBytes, hq, hr, ih]

/-! ## Most significant octet first -/

/-- The `w` lowest octets of `n`, most significant first. -/
def beBytes (w n : Nat) : Bytes := (leBytes w n).reverse

/-- The number whose octets, most significant first, are given. -/
def beNat (bs : Bytes) : Nat := leNat bs.reverse

@[simp] theorem length_beBytes (w n : Nat) : (beBytes w n).length = w := by simp [beBytes]

/-! ## Words -/

/-- A 16-bit word, least significant octet first. -/
def ofLe16 (v : UInt16) : Bytes := leBytes 2 v.toNat

/-- A 16-bit word, most significant octet first. -/
def ofBe16 (v : UInt16) : Bytes := beBytes 2 v.toNat

/-- A 32-bit word, least significant octet first. -/
def ofLe32 (v : UInt32) : Bytes := leBytes 4 v.toNat

/-- A 64-bit word, least significant octet first. -/
def ofLe64 (v : UInt64) : Bytes := leBytes 8 v.toNat

@[simp] theorem length_ofLe16 (v : UInt16) : (ofLe16 v).length = 2 := by simp [ofLe16]
@[simp] theorem length_ofBe16 (v : UInt16) : (ofBe16 v).length = 2 := by simp [ofBe16]
@[simp] theorem length_ofLe32 (v : UInt32) : (ofLe32 v).length = 4 := by simp [ofLe32]
@[simp] theorem length_ofLe64 (v : UInt64) : (ofLe64 v).length = 8 := by simp [ofLe64]

/-! ## Stretches -/

/-- The `n` octets from position `at_` on, fewer where the list ends before. -/
def slice (data : Bytes) (at_ n : Nat) : Bytes := (data.drop at_).take n

/-- The `n` octets from position `at_` on, if the list holds them all. -/
def slice? (data : Bytes) (at_ n : Nat) : Option Bytes :=
  if at_ + n ≤ data.length then some (slice data at_ n) else none

/-- The octet at a position, zero behind the end. -/
def byteAt (data : Bytes) (at_ : Nat) : UInt8 := data.getD at_ 0

/-- The 16-bit word at a position, least significant octet first. -/
def le16At (data : Bytes) (at_ : Nat) : UInt16 := UInt16.ofNat (leNat (slice data at_ 2))

/-- The 16-bit word at a position, most significant octet first. -/
def be16At (data : Bytes) (at_ : Nat) : UInt16 := UInt16.ofNat (beNat (slice data at_ 2))

/-- The 32-bit word at a position, least significant octet first. -/
def le32At (data : Bytes) (at_ : Nat) : UInt32 := UInt32.ofNat (leNat (slice data at_ 4))

/-- The 64-bit word at a position, least significant octet first. -/
def le64At (data : Bytes) (at_ : Nat) : UInt64 := UInt64.ofNat (leNat (slice data at_ 8))

/-- `data` with `patch` written over it from position `at_` on. What would reach behind the end is
left out, so the length stays. -/
def overwrite (data : Bytes) (at_ : Nat) (patch : Bytes) : Bytes :=
  data.take at_ ++ patch.take (data.length - at_) ++ data.drop (at_ + patch.length)

@[simp] theorem length_overwrite (data : Bytes) (at_ : Nat) (patch : Bytes) :
    (overwrite data at_ patch).length = data.length := by
  simp [overwrite]
  omega

theorem length_slice_of_le {data : Bytes} {at_ n : Nat} (h : at_ + n ≤ data.length) :
    (slice data at_ n).length = n := by
  simp [slice]
  omega

end Bytes

end Airlink
