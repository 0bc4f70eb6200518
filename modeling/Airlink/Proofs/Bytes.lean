import Airlink.Bytes
import Mathlib.Algebra.Group.Nat.Defs

/-!
# Reading what stands in a frame

Reading the octets written for a number gives the number back, modulo the width (`leNat_leBytes`,
`beNat_beBytes`). Writing a word that was read gives its octets back (`ofBe16_be16At`,
`ofLe16_le16At`).

Where octets are put together with `++`, a stretch, an octet or a word that lies in one of the
pieces can be read from that piece. A word written most significant octet first reads back as it was
(`be16At_append`).
-/

namespace Airlink.Bytes

/-! ## Numbers -/

theorem leNat_leBytes (w n : Nat) : leNat (leBytes w n) = n % 256 ^ w := by
  induction w generalizing n with
  | zero => simp [leBytes, leNat, Nat.mod_one]
  | succ w ih =>
    have h : (UInt8.ofNat n).toNat = n % 256 := by simp
    rw [leBytes, leNat, ih, h, Nat.pow_succ', Nat.mod_mul]

theorem leNat_lt (bs : Bytes) : leNat bs < 256 ^ bs.length := by
  induction bs with
  | nil => exact Nat.one_pos
  | cons b bs ih =>
    have hb : b.toNat < 256 := b.toNat_lt
    rw [leNat, List.length_cons, Nat.pow_succ']
    omega

theorem beNat_beBytes (w n : Nat) : beNat (beBytes w n) = n % 256 ^ w := by
  simp [beNat, beBytes, leNat_leBytes]

/-! ## Stretches -/

theorem slice_append_right {pre data : Bytes} {k n : Nat} (h : pre.length = k) :
    slice (pre ++ data) k n = data.take n := by
  rw [slice, List.drop_left' h]

theorem slice_append_left {pre data : Bytes} {k n : Nat} (h : k + n ≤ pre.length) :
    slice (pre ++ data) k n = slice pre k n := by
  rw [slice, slice, List.drop_append_of_le_length (by omega),
    List.take_append_of_le_length (by rw [List.length_drop]; omega)]

/-- A stretch that is not empty starts with the octet at its place. -/
theorem slice_succ {data : Bytes} {k n : Nat} (h : k < data.length) :
    data.slice k (n + 1) = data.byteAt k :: data.slice (k + 1) n := by
  rw [slice, slice, List.drop_eq_getElem_cons h, List.take_succ_cons, byteAt,
    List.getD_eq_getElem?_getD, List.getElem?_eq_getElem h, Option.getD_some]

/-- A stretch and what is behind it. -/
theorem slice_append_drop (data : Bytes) (k n : Nat) :
    data.slice k n ++ data.drop (k + n) = data.drop k := by
  rw [slice, ← List.drop_drop, List.take_append_drop]

/-- A stretch from the start on. -/
theorem slice_zero (data : Bytes) (n : Nat) : data.slice 0 n = data.take n := rfl

/-- A stretch of a stretch. -/
theorem slice_slice {data : Bytes} {k n j m : Nat} (h : j + m ≤ n) :
    (data.slice k n).slice j m = data.slice (k + j) m := by
  simp only [slice, List.drop_take, List.drop_drop, List.take_take]
  rw [Nat.min_eq_left (by omega)]

theorem slice_take {data : Bytes} {k m n : Nat} (h : k + m ≤ n) :
    slice (data.take n) k m = data.slice k m := by
  rw [← slice_zero, slice_slice h, Nat.zero_add]

theorem byteAt_take {data : Bytes} {k n : Nat} (h : k < n) :
    byteAt (data.take n) k = data.byteAt k := by
  rw [byteAt, byteAt, List.getD_eq_getElem?_getD, List.getElem?_take_of_lt h,
    List.getD_eq_getElem?_getD]

theorem le16At_take {data : Bytes} {k n : Nat} (h : k + 2 ≤ n) :
    le16At (data.take n) k = data.le16At k := by
  rw [le16At, slice_take h, le16At]

theorem be16At_take {data : Bytes} {k n : Nat} (h : k + 2 ≤ n) :
    be16At (data.take n) k = data.be16At k := by
  rw [be16At, slice_take h, be16At]

theorem le32At_take {data : Bytes} {k n : Nat} (h : k + 4 ≤ n) :
    le32At (data.take n) k = data.le32At k := by
  rw [le32At, slice_take h, le32At]

/-! ## Words -/

theorem beNat_ofBe16 (v : UInt16) : beNat (ofBe16 v) = v.toNat := by
  rw [ofBe16, beNat_beBytes]
  exact Nat.mod_eq_of_lt v.toNat_lt

theorem be16At_append {pre post : Bytes} {k : Nat} (v : UInt16) (h : pre.length = k) :
    be16At (pre ++ (ofBe16 v ++ post)) k = v := by
  have two : (ofBe16 v).length = 2 := length_ofBe16 v
  rw [be16At, slice_append_right h, List.take_left' two, beNat_ofBe16]
  exact UInt16.ofNat_toNat

/-- A word that was written is read back. -/
theorem ofNat_leNat_ofLe16 (v : UInt16) : UInt16.ofNat (leNat (ofLe16 v)) = v := by
  have same : v.toNat % 256 ^ 2 = v.toNat := Nat.mod_eq_of_lt v.toNat_lt
  rw [ofLe16, leNat_leBytes, same, UInt16.ofNat_toNat]

theorem le16At_append {pre post : Bytes} {k : Nat} (v : UInt16) (h : pre.length = k) :
    le16At (pre ++ (ofLe16 v ++ post)) k = v := by
  have two : (ofLe16 v).length = 2 := length_ofLe16 v
  rw [le16At, slice_append_right h, List.take_left' two, ofNat_leNat_ofLe16]

theorem ofNat_leNat_ofLe32 (v : UInt32) : UInt32.ofNat (leNat (ofLe32 v)) = v := by
  have same : v.toNat % 256 ^ 4 = v.toNat := Nat.mod_eq_of_lt v.toNat_lt
  rw [ofLe32, leNat_leBytes, same, UInt32.ofNat_toNat]

theorem ofNat_leNat_ofLe64 (v : UInt64) : UInt64.ofNat (leNat (ofLe64 v)) = v := by
  have same : v.toNat % 256 ^ 8 = v.toNat := Nat.mod_eq_of_lt v.toNat_lt
  rw [ofLe64, leNat_leBytes, same, UInt64.ofNat_toNat]

/-- The octets of a word that was read are those at its place. -/
theorem ofBe16_be16At {data : Bytes} {k : Nat} (h : k + 2 ≤ data.length) :
    ofBe16 (data.be16At k) = data.slice k 2 := by
  have length : (data.slice k 2).reverse.length = 2 := by
    rw [List.length_reverse, length_slice_of_le h]
  have small : leNat (data.slice k 2).reverse < 2 ^ 16 := by
    have bound := leNat_lt (data.slice k 2).reverse
    rwa [length] at bound
  have back := leBytes_leNat (data.slice k 2).reverse
  rw [length] at back
  rw [be16At, beNat, ofBe16, beBytes, UInt16.toNat_ofNat_of_lt' small, back, List.reverse_reverse]

theorem ofLe16_le16At {data : Bytes} {k : Nat} (h : k + 2 ≤ data.length) :
    ofLe16 (data.le16At k) = data.slice k 2 := by
  have length : (data.slice k 2).length = 2 := length_slice_of_le h
  have small : leNat (data.slice k 2) < 2 ^ 16 := by
    have bound := leNat_lt (data.slice k 2)
    rwa [length] at bound
  have back := leBytes_leNat (data.slice k 2)
  rw [length] at back
  rw [le16At, ofLe16, UInt16.toNat_ofNat_of_lt' small, back]

/-! ## Octets written over others -/

/-- What is written over a frame is what stands at its place. -/
theorem drop_overwrite {data patch : Bytes} {k : Nat} (h : k + patch.length ≤ data.length) :
    (data.overwrite k patch).drop k = patch ++ data.drop (k + patch.length) := by
  have front : (data.take k).length = k := by
    rw [List.length_take]
    omega
  have all : patch.take (data.length - k) = patch := List.take_of_length_le (by omega)
  rw [overwrite, all, List.append_assoc, List.drop_left' front]

theorem overwrite_start {data patch : Bytes} (h : patch.length ≤ data.length) :
    data.overwrite 0 patch = patch ++ data.drop patch.length := by
  have fits : 0 + patch.length ≤ data.length := by rwa [Nat.zero_add]
  have written := drop_overwrite fits
  rwa [List.drop_zero, Nat.zero_add] at written

end Airlink.Bytes
