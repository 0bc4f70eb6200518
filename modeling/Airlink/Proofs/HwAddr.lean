import Airlink.HwAddr
import Airlink.Proofs.Bytes

/-!
# Addresses in a frame

An address is there where a frame holds its six octets (`HwAddr.at?_eq_some_iff`), and its octets
are those that stand there (`HwAddr.toBytes_ofSlice`). No octet behind them makes a difference
(`HwAddr.ofSlice_of_take_eq`).
-/

namespace Airlink.HwAddr

/-- The octets of an address that was read. -/
theorem toBytes_ofSlice {data : Bytes} {k : Nat} (h : k + 6 ≤ data.length) :
    (ofSlice data k).toBytes = data.slice k 6 := by
  rw [Bytes.slice_succ (by omega), Bytes.slice_succ (by omega), Bytes.slice_succ (by omega),
    Bytes.slice_succ (by omega), Bytes.slice_succ (by omega), Bytes.slice_succ (by omega)]
  rfl

/-- An address is there just where a frame holds all of its octets. -/
theorem at?_eq_some_iff {data : Bytes} {k : Nat} {addr : HwAddr} :
    at? data k = some addr ↔ k + 6 ≤ data.length ∧ ofSlice data k = addr := by
  unfold at? Bytes.slice? size
  by_cases h : k + 6 ≤ data.length
  · rw [if_pos h, Option.bind_some, ← toBytes_ofSlice h, ofBytes?_toBytes, Option.some_inj,
      and_iff_right h]
  · rw [if_neg h]
    exact iff_of_false nofun fun there => h there.1

/-- An address that a frame reaches is read. -/
theorem at?_eq_some {data : Bytes} {k : Nat} (h : k + 6 ≤ data.length) :
    at? data k = some (ofSlice data k) := at?_eq_some_iff.2 ⟨h, rfl⟩

theorem toBytes_inj {a b : HwAddr} : a.toBytes = b.toBytes ↔ a = b := by
  refine ⟨fun same => ?_, congrArg toBytes⟩
  have read := congrArg ofBytes? same
  rwa [ofBytes?_toBytes, ofBytes?_toBytes, Option.some_inj] at read

/-- The address in front is that of the first six octets. -/
theorem at?_zero_eq_some_iff {data : Bytes} {addr : HwAddr} :
    at? data 0 = some addr ↔ data.take 6 = addr.toBytes := by
  have front (inside : 0 + 6 ≤ data.length) : (ofSlice data 0).toBytes = data.take 6 :=
    toBytes_ofSlice inside
  rw [at?_eq_some_iff]
  constructor
  · rintro ⟨inside, rfl⟩
    exact (front inside).symm
  · intro starts
    have inside : 0 + 6 ≤ data.length := by
      have size := congrArg List.length starts
      rw [List.length_take, length_toBytes] at size
      omega
    exact ⟨inside, toBytes_inj.1 ((front inside).trans starts)⟩

theorem ofSlice_take {data : Bytes} {k n : Nat} (h : k + 6 ≤ n) :
    ofSlice (data.take n) k = ofSlice data k := by
  simp (disch := omega) only [ofSlice, Bytes.byteAt_take]

/-- An address is that of any frame that starts with the same octets. -/
theorem ofSlice_of_take_eq {data other : Bytes} {n pos : Nat} (h : data.take n = other.take n)
    (inside : pos + size ≤ n) : ofSlice data pos = ofSlice other pos := by
  rw [← ofSlice_take inside, h, ofSlice_take inside]

end Airlink.HwAddr
