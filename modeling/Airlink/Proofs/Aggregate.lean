import Airlink.Aggregate
import Airlink.Proofs.Bytes

/-!
# Cutting what was put together

Parts that are put one behind the other, each with its padding, are found again by `Aggregate.cut`,
together with whatever stands behind them that is no part (`cut_laid`). Each part must say its own
length; what the padding holds does not matter, and behind the last part it may be cut short.
-/

namespace Airlink.Aggregate

/-- Octets that are a part: the length field says how many octets follow. -/
structure IsPart (part : Bytes) : Prop where
  header : headerSize ≤ part.length
  length : headerSize + (part.be16At 12).toNat = part.length

/-- Octets that do not start with a part: they are too few for a header, or for the body that the
header announces. -/
def NoPart (rest : Bytes) : Prop :=
  rest.length < headerSize ∨ rest.length < headerSize + (rest.be16At 12).toNat

theorem partSize?_eq_none_iff {rest : Bytes} : partSize? rest = none ↔ NoPart rest := by
  unfold partSize? NoPart
  split
  · next short => exact iff_of_true rfl (.inl short)
  · next long =>
    simp only [long, false_or]
    split
    · next short => exact iff_of_true rfl short
    · next whole => exact iff_of_false nofun whole

/-- The octets start with a part just if they hold what its header announces. -/
theorem partSize?_eq_some_iff {payload : Bytes} {size : Nat} :
    partSize? payload = some size ↔ headerSize ≤ payload.length ∧
      headerSize + (payload.be16At 12).toNat = size ∧ size ≤ payload.length := by
  unfold partSize?
  split
  · next short => exact iff_of_false nofun fun h => absurd h.1 (Nat.not_le.2 short)
  · next long =>
    simp only [Nat.not_lt.1 long, true_and]
    split
    · next short => exact iff_of_false nofun fun ⟨same, whole⟩ => by omega
    · next whole =>
      rw [Option.some.injEq]
      exact ⟨fun same => ⟨same, same ▸ Nat.not_lt.1 whole⟩, And.left⟩

/-- The parts one behind the other, with their padding, and the rest. If nothing follows, the
padding behind the last part may be cut short. -/
inductive Laid (rest : Bytes) : List Bytes → Bytes → Prop where
  | nil : Laid rest [] rest
  | last (part pad : Bytes) (fits : part.length + pad.length ≤ padded part.length)
      (nothing : rest = []) : Laid rest [part] (part ++ pad)
  | cons (part pad : Bytes) {parts : List Bytes} {data : Bytes}
      (full : part.length + pad.length = padded part.length) (laid : Laid rest parts data) :
      Laid rest (part :: parts) (part ++ (pad ++ data))

/-- The parts one behind the other, with their padding, and the rest. The padding behind the last
part may be left out if nothing follows. -/
inductive Joins (rest : Bytes) : List Bytes → Bytes → Prop where
  | nil : Joins rest [] rest
  | last (part : Bytes) (nothing : rest = []) : Joins rest [part] part
  | cons (part pad : Bytes) {parts : List Bytes} {data : Bytes}
      (full : part.length + pad.length = padded part.length) (joins : Joins rest parts data) :
      Joins rest (part :: parts) (part ++ (pad ++ data))

/-- To leave the last padding out is to cut it short. -/
theorem Joins.laid {rest data : Bytes} {parts : List Bytes} (joins : Joins rest parts data) :
    Laid rest parts data := by
  induction joins with
  | nil => exact .nil
  | last part nothing =>
    have alone := Laid.last part [] (le_padded part.length) nothing
    rwa [List.append_nil] at alone
  | cons part pad full _ ih => exact .cons part pad full ih

theorem IsPart.partSize?_append {part : Bytes} (h : IsPart part) (data : Bytes) :
    partSize? (part ++ data) = some part.length := by
  have field : (part ++ data).be16At 12 = part.be16At 12 := by
    have := h.header
    simp only [headerSize] at this
    rw [Bytes.be16At, Bytes.be16At, Bytes.slice_append_left (by omega)]
  have fits : part.length ≤ (part ++ data).length := by
    rw [List.length_append]
    exact Nat.le_add_right _ _
  exact partSize?_eq_some_iff.2 ⟨Nat.le_trans h.header fits, by rw [field, h.length], fits⟩

theorem cut_of_none {data : Bytes} (h : partSize? data = none) : cut data = ([], data) := by
  rw [cut]
  split
  · rfl
  · next size hs => rw [h] at hs; cases hs

theorem cut_of_some {data : Bytes} {size : Nat} (h : partSize? data = some size) :
    cut data = (data.take size :: (cut (data.drop (padded size))).1,
      (cut (data.drop (padded size))).2) := by
  rw [cut]
  split
  · next hs => rw [h] at hs; cases hs
  · next size' hs =>
    rw [h] at hs
    cases hs
    rfl

/-- **Cutting.** The parts that were put together are found again, and so is what is left. -/
theorem cut_laid {rest data : Bytes} {parts : List Bytes} (laid : Laid rest parts data)
    (areParts : ∀ part ∈ parts, IsPart part) (noPart : partSize? rest = none) :
    cut data = (parts, rest) := by
  induction laid with
  | nil => exact cut_of_none noPart
  | last part pad fits nothing =>
    have size := (areParts part List.mem_cons_self).partSize?_append pad
    rw [cut_of_some size, List.take_left' rfl,
      List.drop_of_length_le (by rwa [List.length_append]), ← nothing, cut_of_none noPart]
  | @cons part pad parts data full laid ih =>
    have size := (areParts part List.mem_cons_self).partSize?_append (pad ++ data)
    have next : (part ++ (pad ++ data)).drop (padded part.length) = data := by
      rw [← List.append_assoc]
      exact List.drop_left' (by rw [List.length_append, full])
    rw [cut_of_some size, next, ih fun p h => areParts p (List.mem_cons_of_mem _ h),
      List.take_left' rfl]

/-- No part is longer than what it is put together into. -/
theorem Laid.length_le {rest data : Bytes} {parts : List Bytes} (laid : Laid rest parts data) :
    ∀ part ∈ parts, part.length ≤ data.length := by
  induction laid with
  | nil => simp
  | last part pad fits nothing => simp
  | @cons part pad parts data full laid ih =>
    intro p hp
    simp only [List.length_append]
    rcases List.mem_cons.1 hp with rfl | hp
    · omega
    · have := ih p hp
      omega

end Airlink.Aggregate
