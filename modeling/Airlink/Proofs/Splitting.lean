import Airlink.Proofs.Aggregate

/-!
# Splitting loses nothing

Whatever a payload holds, cutting it finds parts that stand one behind the other with their padding,
and a rest that is no part; and no other parts can be found in it (`cut_eq_iff`). Seen from the
start of the payload, each part begins at a multiple of four, and its padding ends at the next
multiple of four or at the end of the payload (`Laid.exists_pieces`). So the octets of a payload are
those of its parts, of their padding and of the rest, and parts put together with their padding are
found again (`split_lossless`).
-/

namespace Airlink.Aggregate

/-! ## The parts of any payload -/

/-- What a payload starts with is a part, if it holds all of its octets. -/
theorem isPart_take {payload : Bytes} {size : Nat} (h : partSize? payload = some size) :
    IsPart (payload.take size) ∧ (payload.take size).length = size := by
  obtain ⟨-, announced, holds⟩ := partSize?_eq_some_iff.1 h
  obtain ⟨header, -⟩ := le_of_partSize? h
  have length : (payload.take size).length = size := List.length_take_of_le holds
  have field : Bytes.be16At (payload.take size) 12 = payload.be16At 12 := Bytes.be16At_take header
  exact ⟨⟨by rwa [length], by rw [field, length, announced]⟩, length⟩

theorem isPart_of_mem_cut (payload : Bytes) : ∀ part ∈ (cut payload).1, IsPart part := by
  induction payload using cut.induct with
  | case1 payload none =>
    rw [cut_of_none none]
    exact List.forall_mem_nil _
  | case2 payload size some _ _ _ ih =>
    rw [cut_of_some some]
    exact List.forall_mem_cons.2 ⟨(isPart_take some).1, ih⟩

theorem partSize?_rest (payload : Bytes) : partSize? (cut payload).2 = none := by
  induction payload using cut.induct with
  | case1 payload none => rwa [cut_of_none none]
  | case2 payload size some _ _ _ ih => rwa [cut_of_some some]

/-- A payload is its parts with their padding, and the rest. -/
theorem laid_cut (payload : Bytes) : Laid (cut payload).2 (cut payload).1 payload := by
  induction payload using cut.induct with
  | case1 payload none =>
    rw [cut_of_none none]
    exact .nil
  | case2 payload size some _ _ _ ih =>
    obtain ⟨-, length⟩ := isPart_take some
    obtain ⟨-, holds⟩ := le_of_partSize? some
    have ends := le_padded size
    rw [cut_of_some some]
    by_cases full : padded size ≤ payload.length
    · have split : payload.take size ++
          (payload.slice size (padded size - size) ++ payload.drop (padded size)) = payload := by
        have behind := Bytes.slice_append_drop payload size (padded size - size)
        rw [Nat.add_sub_cancel' ends] at behind
        rw [behind, List.take_append_drop]
      have fills : (payload.take size).length + (payload.slice size (padded size - size)).length =
          padded (payload.take size).length := by
        rw [length, Bytes.length_slice_of_le (by omega)]
        omega
      have laid := Laid.cons (payload.take size) _ fills ih
      rwa [split] at laid
    · -- The padding is cut short, and there is nothing behind it.
      have nothing : payload.drop (padded size) = [] := List.drop_eq_nil_of_le (by omega)
      have short : (payload.take size).length + (payload.drop size).length ≤
          padded (payload.take size).length := by
        rw [length, List.length_drop]
        omega
      have none : partSize? [] = none := rfl
      have laid := Laid.last (payload.take size) (payload.drop size) short (rfl : [] = [])
      rw [List.take_append_drop] at laid
      rwa [nothing, cut_of_none none]

/-- **Cutting, in both directions.** The parts that are found stand one behind the other with their
padding, and what is left is no part. Whatever parts stand so are those that are found. -/
theorem cut_eq_iff {payload rest : Bytes} {parts : List Bytes} :
    cut payload = (parts, rest) ↔
      Laid rest parts payload ∧ (∀ part ∈ parts, IsPart part) ∧ NoPart rest := by
  constructor
  · intro found
    have laid := laid_cut payload
    have areParts := isPart_of_mem_cut payload
    have noPart := partSize?_rest payload
    rw [found] at laid areParts noPart
    exact ⟨laid, areParts, partSize?_eq_none_iff.1 noPart⟩
  · rintro ⟨laid, areParts, noPart⟩
    exact cut_laid laid areParts (partSize?_eq_none_iff.2 noPart)

/-! ## Places -/

/-- Parts one behind the other, each with the octets that pad it. -/
def joined (pieces : List (Bytes × Bytes)) : Bytes :=
  pieces.flatMap fun piece => piece.1 ++ piece.2

theorem joined_cons (part pad : Bytes) (pieces : List (Bytes × Bytes)) :
    joined ((part, pad) :: pieces) = part ++ (pad ++ joined pieces) := by
  rw [joined, List.flatMap_cons, List.append_assoc]
  rfl

/-- A part with its padding at a place of a payload of some length. -/
structure Placed (total start : Nat) (part pad : Bytes) : Prop where
  /-- The part begins at a multiple of four. -/
  aligned : 4 ∣ start
  isPart : IsPart part
  short : pad.length < 4
  /-- The padding ends at a multiple of four, or the payload does. -/
  reaches : 4 ∣ start + part.length + pad.length ∨ start + part.length + pad.length = total

/-- What stands in front, up to a multiple of four, moves a part back. -/
theorem Placed.shift {total start : Nat} {part pad : Bytes} (h : Placed total start part pad)
    {front : Nat} (aligned : 4 ∣ front) : Placed (front + total) (front + start) part pad := by
  obtain ⟨start_aligned, isPart, short, reaches⟩ := h
  refine ⟨Nat.dvd_add aligned start_aligned, isPart, short, ?_⟩
  rw [Nat.add_assoc, Nat.add_assoc, ← Nat.add_assoc start]
  rcases reaches with next | last
  · exact .inl (Nat.dvd_add aligned next)
  · exact .inr (congrArg (front + ·) last)

/-- A payload taken apart: parts with their padding, and a rest that is no part. -/
structure Decomposition (payload : Bytes) (pieces : List (Bytes × Bytes)) (rest : Bytes) :
    Prop where
  whole : payload = joined pieces ++ rest
  /-- Each part is in its place behind those in front of it. -/
  placed : ∀ before part pad after, pieces = before ++ (part, pad) :: after →
    Placed payload.length (joined before).length part pad
  noPart : NoPart rest

theorem dvd_padded (size : Nat) : 4 ∣ padded size := Nat.dvd_mul_left 4 _

theorem padded_lt (size : Nat) : padded size < size + 4 := by
  unfold padded
  omega

/-- Parts that stand one behind the other are in their places. -/
theorem Laid.exists_pieces {rest payload : Bytes} {parts : List Bytes}
    (laid : Laid rest parts payload) (areParts : ∀ part ∈ parts, IsPart part)
    (noPart : NoPart rest) :
    ∃ pieces, Decomposition payload pieces rest ∧ pieces.map Prod.fst = parts := by
  induction laid with
  | nil => exact ⟨[], ⟨rfl, by simp, noPart⟩, rfl⟩
  | last part pad fits nothing =>
    have bound := padded_lt part.length
    have whole : part ++ pad = joined [(part, pad)] ++ rest := by
      rw [joined_cons, nothing]
      simp [joined]
    refine ⟨[(part, pad)], ⟨whole, ?_, noPart⟩, rfl⟩
    intro before part' pad' after cut
    obtain ⟨rfl, same⟩ | ⟨_, -, nothing'⟩ := List.cons_eq_append_iff.1 cut
    · cases same
      exact ⟨Nat.dvd_zero 4, areParts _ List.mem_cons_self, by omega,
        .inr (by simp [joined])⟩
    · simp at nothing'
  | @cons part pad parts data full laid ih =>
    obtain ⟨isPart, others⟩ := List.forall_mem_cons.1 areParts
    obtain ⟨pieces, ⟨whole, placed, -⟩, rfl⟩ := ih others
    have bound := padded_lt part.length
    have whole' : part ++ (pad ++ data) = joined ((part, pad) :: pieces) ++ rest := by
      rw [joined_cons, whole, List.append_assoc, List.append_assoc]
    refine ⟨(part, pad) :: pieces, ⟨whole', ?_, noPart⟩, rfl⟩
    intro before part' pad' after cut
    obtain ⟨rfl, same⟩ | ⟨before, rfl, behind⟩ := List.cons_eq_append_iff.1 cut
    · cases same
      refine ⟨Nat.dvd_zero 4, isPart, by omega, .inl ?_⟩
      simpa [joined, full] using dvd_padded part.length
    · have shifted := (placed before part' pad' after behind).shift (dvd_padded part.length)
      have total : (part ++ (pad ++ data)).length = padded part.length + data.length := by
        rw [List.length_append, List.length_append, ← Nat.add_assoc, full]
      have start : (joined ((part, pad) :: before)).length =
          padded part.length + (joined before).length := by
        rw [joined_cons, List.length_append, List.length_append, ← Nat.add_assoc, full]
      rwa [total, start]

/-! ## Splitting -/

theorem windows_split (payload : Bytes) (parent : Buffer) :
    (split payload parent).1.map Buffer.window = (cut payload).1 := by
  simp [split, Function.comp_def]

theorem split_eq_false_iff (payload : Bytes) (parent : Buffer) :
    (split payload parent).2 = false ↔ (cut payload).2 = [] := by
  simp [split]

/-- **Splitting loses nothing.** Any payload is made up of parts with their padding and of a rest.
The buffers it is split into hold the parts, in order. Each part begins at a multiple of four, has a
header and is as long as the header says; its padding is shorter than four octets and ends at the
next multiple of four, or at the end of the payload. The payload counts as truncated just if there
is a rest, and the rest is too short for a header, or for the body that the header announces.

Any parts put together, with padding between them and with or without padding behind the last, are
found again by splitting, and nothing is left. -/
theorem split_lossless (payload : Bytes) (parent : Buffer) :
    (∃ pieces rest, Decomposition payload pieces rest ∧
      (split payload parent).1.map Buffer.window = pieces.map Prod.fst ∧
      ((split payload parent).2 = false ↔ rest = [])) ∧
    ∀ parts : List Bytes, (∀ part ∈ parts, IsPart part) → Joins [] parts payload →
      (split payload parent).1.map Buffer.window = parts ∧ (split payload parent).2 = false := by
  constructor
  · obtain ⟨laid, areParts, noPart⟩ := cut_eq_iff.1 (rfl : cut payload = (_, _))
    obtain ⟨pieces, decomposition, parts⟩ := laid.exists_pieces areParts noPart
    exact ⟨pieces, (cut payload).2, decomposition, by rw [windows_split, parts],
      split_eq_false_iff payload parent⟩
  · intro parts areParts joins
    have noPart : NoPart [] := .inl (by decide)
    have found := cut_eq_iff.2 ⟨joins.laid, areParts, noPart⟩
    rw [windows_split, split_eq_false_iff, found]
    exact ⟨rfl, rfl⟩

/-- Two parts, the first with one octet of padding, and the second without. -/
theorem split_lossless_unpadded :
    let first := List.replicate 12 2 ++ [0, 1, 7]
    let second := List.replicate 12 2 ++ [0, 3, 7, 8, 9]
    let parts := split (first ++ ([0xff] ++ second)) (.ofBytes .rx [])
    parts.1.map Buffer.window = [first, second] ∧ parts.2 = false := by
  intro first second parts
  refine (split_lossless _ _).2 [first, second] ?_ (.cons first [0xff] (by decide) (.last _ rfl))
  refine List.forall_mem_cons.2 ⟨⟨by decide, by decide⟩, ?_⟩
  exact List.forall_mem_singleton.2 ⟨by decide, by decide⟩

end Airlink.Aggregate
