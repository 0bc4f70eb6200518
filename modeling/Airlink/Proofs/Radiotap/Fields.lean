import Airlink.Proofs.Bytes
import Airlink.Radiotap

/-!
# Fields read from where they were laid out

Fields stand behind each other, each behind as many zeros as its alignment needs (`layOut`). A
reader *takes* fields if it gives their value and stops behind them, wherever they are laid out and
whatever fields follow (`Takes`). Readers one after the other take what they take one after the
other (`Takes.bind`), so that the reader of a whole header takes all its fields once each reader of
one field does.

A field of several words is written as one and read word by word. That makes no difference as long
as each word starts at its own alignment (`layOut_append_left`).
-/

namespace Airlink

open Bytes

namespace Radiotap

/-! ## Positions -/

theorem le_alignUp {pos align : Nat} (h : 0 < align) : pos ≤ alignUp pos align := by
  have parts := Nat.div_add_mod (pos + align - 1) align
  have small := Nat.mod_lt (pos + align - 1) h
  rw [alignUp, Nat.mul_comm]
  omega

theorem alignUp_le (pos align : Nat) : alignUp pos align ≤ pos + align := by
  have most := Nat.div_mul_le_self (pos + align - 1) align
  rw [alignUp]
  omega

theorem dvd_alignUp (pos align : Nat) : align ∣ alignUp pos align := Nat.dvd_mul_left _ _

/-- A position that is aligned stays. -/
theorem alignUp_of_dvd {pos align : Nat} (h : 0 < align) (aligned : align ∣ pos) :
    alignUp pos align = pos := by
  obtain ⟨n, rfl⟩ := aligned
  have quotient : (align * n + align - 1) / align = n := by
    rw [Nat.add_sub_assoc h, Nat.mul_add_div h, Nat.div_eq_of_lt (by omega), Nat.add_zero]
  rw [alignUp, quotient, Nat.mul_comm]

@[simp] theorem alignUp_one (pos : Nat) : alignUp pos 1 = pos :=
  alignUp_of_dvd Nat.one_pos (Nat.one_dvd pos)

/-! ## Layout -/

/-- The octets that fields may take up at most, with their padding. -/
def room : List (Nat × Bytes) → Nat
  | [] => 0
  | (align, bytes) :: fs => align + bytes.length + room fs

theorem room_append (fs gs : List (Nat × Bytes)) : room (fs ++ gs) = room fs + room gs := by
  induction fs with
  | nil => exact (Nat.zero_add _).symm
  | cons f fs ih => simp only [List.cons_append, room, ih, Nat.add_assoc]

/-- A field that may be missing takes up no more than when it is there. -/
theorem room_toList_map_le {piece : α → Nat × Bytes} {n : Nat} (o : Option α)
    (size : ∀ v, (piece v).1 + (piece v).2.length ≤ n) : room (o.map piece).toList ≤ n := by
  cases o with
  | none => exact Nat.zero_le n
  | some v => exact size v

theorem length_layOut_le (pos : Nat) (fs : List (Nat × Bytes)) :
    (layOut pos fs).length ≤ room fs := by
  induction fs generalizing pos with
  | nil => exact Nat.le_refl 0
  | cons f fs ih =>
    obtain ⟨align, bytes⟩ := f
    have padding := alignUp_le pos align
    have behind := ih (alignUp pos align + bytes.length)
    simp only [layOut, room, List.length_append, List.length_replicate]
    omega

/-- A field of two parts is as good as two fields if the second part starts where it would as a
field. -/
theorem layOut_append_left {align next : Nat} {front back : Bytes} (fs : List (Nat × Bytes))
    (pos : Nat) (h : 0 < next) (aligned : next ∣ alignUp pos align + front.length) :
    layOut pos ((align, front ++ back) :: fs) =
      layOut pos ((align, front) :: (next, back) :: fs) := by
  have stays : alignUp (alignUp pos align + front.length) next =
      alignUp pos align + front.length := alignUp_of_dvd h aligned
  simp only [layOut, stays, Nat.sub_self, List.replicate_zero, List.nil_append,
    List.length_append, List.append_assoc, Nat.add_assoc]

/-- What is laid out alike everywhere is so behind any fields. -/
theorem layOut_append_congr {fs gs : List (Nat × Bytes)} (front : List (Nat × Bytes)) (pos : Nat)
    (alike : ∀ pos, layOut pos fs = layOut pos gs) :
    layOut pos (front ++ fs) = layOut pos (front ++ gs) := by
  induction front generalizing pos with
  | nil => exact alike pos
  | cons f front ih =>
    obtain ⟨align, bytes⟩ := f
    simp only [List.cons_append, layOut]
    rw [ih]

/-! ## Readers -/

/-- A reader that takes given fields of a header: where they are laid out with others behind them,
it gives a value and stops in front of the others. -/
def Takes (header : Bytes) (read : FieldReader α) (fs : List (Nat × Bytes)) (v : α) : Prop :=
  ∀ pos rest, header.drop pos = layOut pos (fs ++ rest) →
    ∃ next, read pos = .ok (v, next) ∧ header.drop next = layOut next rest

namespace Takes

variable {header : Bytes} {α β : Type}

theorem pure (v : α) : Takes header (Pure.pure v) [] v :=
  fun pos _ laid => ⟨pos, rfl, laid⟩

theorem bind {read : FieldReader α} {then_ : α → FieldReader β} {fs gs : List (Nat × Bytes)}
    {v : α} {w : β} (first : Takes header read fs v) (second : Takes header (then_ v) gs w) :
    Takes header (read >>= then_) (fs ++ gs) w := by
  intro pos rest laid
  rw [List.append_assoc] at laid
  obtain ⟨middle, reads, laid⟩ := first pos (gs ++ rest) laid
  obtain ⟨next, goesOn, laid⟩ := second middle rest laid
  refine ⟨next, ?_, laid⟩
  change (read pos >>= fun r => then_ r.1 r.2) = _
  rw [reads]
  exact goesOn

theorem map {read : FieldReader α} {fs : List (Nat × Bytes)} {v : α} (f : α → β)
    (reads : Takes header read fs v) : Takes header (f <$> read) fs (f v) := by
  intro pos rest laid
  obtain ⟨next, reads, laid⟩ := reads pos rest laid
  refine ⟨next, ?_, laid⟩
  change (read pos >>= fun r => Pure.pure (f r.1, r.2)) = _
  rw [reads]
  rfl

/-- What is laid out alike is taken alike. -/
theorem congr {read : FieldReader α} {fs gs : List (Nat × Bytes)} {v : α}
    (reads : Takes header read fs v)
    (alike : ∀ pos rest, layOut pos (gs ++ rest) = layOut pos (fs ++ rest)) :
    Takes header read gs v := by
  intro pos rest laid
  rw [alike] at laid
  exact reads pos rest laid

/-- A field that is not empty is taken where it stands. -/
theorem field {what : String} {align : Nat} {bytes : Bytes} (h : 0 < align) (filled : bytes ≠ []) :
    Takes header (field header what bytes.length align) [(align, bytes)] bytes := by
  intro pos rest laid
  rw [List.singleton_append, layOut] at laid
  have after : pos ≤ alignUp pos align := le_alignUp h
  -- Behind the padding stands the field.
  have here : header.drop (alignUp pos align) =
      bytes ++ layOut (alignUp pos align + bytes.length) rest := by
    have padding : (List.replicate (alignUp pos align - pos) (0 : UInt8)).length =
        alignUp pos align - pos := List.length_replicate
    have skip : pos + (alignUp pos align - pos) = alignUp pos align := by omega
    rw [← skip, ← List.drop_drop, laid, List.append_assoc, List.drop_left' padding, skip]
  have fits : alignUp pos align + bytes.length ≤ header.length := by
    have length := congrArg List.length here
    rw [List.length_drop, List.length_append] at length
    have := List.length_pos_iff.2 filled
    omega
  refine ⟨alignUp pos align + bytes.length, ?_, ?_⟩
  · have stretch : header.slice (alignUp pos align) bytes.length = bytes := by
      rw [slice, here, List.take_left' rfl]
    rw [Radiotap.field, if_neg (Nat.not_lt.2 fits), stretch]
  · rw [← List.drop_drop, here, List.drop_left' rfl]

theorem octet (what : String) (v : UInt8) : Takes header (octet header what) [(1, [v])] v :=
  (field Nat.one_pos (List.cons_ne_nil v [])).map (·.byteAt 0)

theorem signedOctet (what : String) (v : Int8) :
    Takes header (signedOctet header what) [(1, [v.toUInt8])] v := by
  have reads : Takes header (Radiotap.signedOctet header what) _ _ :=
    (octet what v.toUInt8).map UInt8.toInt8
  rwa [Int8.toInt8_toUInt8] at reads

theorem word16 (what : String) (v : UInt16) :
    Takes header (word16 header what) [(2, ofLe16 v)] v := by
  have value : (ofLe16 v).le16At 0 = v := ofNat_leNat_ofLe16 v
  have bytes : Takes header (Radiotap.field header what (ofLe16 v).length 2) _ (ofLe16 v) :=
    field Nat.two_pos (List.ne_nil_of_length_eq_add_one (length_ofLe16 v))
  have reads := bytes.map (·.le16At 0)
  rw [value, length_ofLe16] at reads
  exact reads

theorem word64 (what : String) (v : UInt64) :
    Takes header (word64 header what) [(8, ofLe64 v)] v := by
  have value : (ofLe64 v).le64At 0 = v := ofNat_leNat_ofLe64 v
  have bytes : Takes header (Radiotap.field header what (ofLe64 v).length 8) _ (ofLe64 v) :=
    field (by decide) (List.ne_nil_of_length_eq_add_one (length_ofLe64 v))
  have reads := bytes.map (·.le64At 0)
  rw [value, length_ofLe64] at reads
  exact reads

/-- An HT field is taken octet by octet. -/
theorem mcs (m : Mcs) : Takes header (Mcs.read header) [(1, m.encode)] m := by
  have octets : Takes header (Mcs.read header) [(1, [m.known]), (1, [m.flags]), (1, [m.index])] m :=
    (octet "mcs" m.known).bind <| (octet "mcs" m.flags).bind <| (octet "mcs" m.index).bind (pure m)
  refine octets.congr fun pos rest => ?_
  simp [layOut, Mcs.encode]

/-- A VHT field is taken word by word. -/
theorem vht (v : Vht) : Takes header (Vht.read header) [(2, v.encode)] v := by
  have words : Takes header (Vht.read header)
      [(2, ofLe16 v.known), (1, [v.flags]), (1, [v.bandwidth]), (1, [v.user0]), (1, [v.user1]),
        (1, [v.user2]), (1, [v.user3]), (1, [v.coding]), (1, [v.groupId]),
        (2, ofLe16 v.partialAid)] v :=
    (word16 "vht" v.known).bind <| (octet "vht" v.flags).bind <| (octet "vht" v.bandwidth).bind <|
    (octet "vht" v.user0).bind <| (octet "vht" v.user1).bind <| (octet "vht" v.user2).bind <|
    (octet "vht" v.user3).bind <| (octet "vht" v.coding).bind <| (octet "vht" v.groupId).bind <|
    (word16 "vht" v.partialAid).bind (pure v)
  refine words.congr fun pos rest => ?_
  -- The last word stands ten octets behind the first, so it is aligned too.
  have even : 2 ∣ alignUp pos 2 + 10 := (Nat.dvd_add_right (dvd_alignUp pos 2)).2 ⟨5, rfl⟩
  have stays : alignUp (alignUp pos 2 + 10) 2 = alignUp pos 2 + 10 :=
    alignUp_of_dvd Nat.two_pos even
  simp [layOut, Vht.encode, Nat.add_assoc, stays]

/-- A field that is read if it is announced is taken if it is there. -/
theorem ifPresent {present bit : UInt32} {read : FieldReader α} {piece : α → Nat × Bytes}
    (o : Option α) (announced : (present &&& bit != 0) = o.isSome)
    (reads : ∀ v, Takes header read [piece v] v) :
    Takes header (ifPresent present bit read) (o.map piece).toList o := by
  rw [Radiotap.ifPresent, announced]
  cases o with
  | none => exact pure none
  | some v => exact (reads v).map some

end Takes

end Radiotap

end Airlink
