import Airlink.Proofs.Frame
import Airlink.Proofs.Header
import Airlink.Translation

/-!
# What the collapse of a SNAP header does

A frame that is long enough to be translated falls into one of four cases (`Buffer.Collapses`). In
two of them an Ethernet-II frame leaves, and its type field is the ethertype that was found; in the
others the frame keeps its length field, and the ethertype found behind it, if any, is one that
bridges tunnel (`Collapses.type_or_length`).
-/

namespace Airlink

namespace Bytes

/-- A word behind a dropped stretch. -/
theorem be16At_drop (data : Bytes) (n k : Nat) : be16At (data.drop n) k = be16At data (n + k) := by
  rw [be16At, be16At, slice, slice, List.drop_drop]

/-- A word at the start of the second of two pieces. -/
theorem be16At_append_right {pre : Bytes} {k : Nat} (h : pre.length = k) (post : Bytes) :
    be16At (pre ++ post) k = be16At post 0 := by
  rw [be16At, be16At, slice_append_right h, slice, List.drop_zero]

end Bytes

/-- A header is recognized where there is room for one. -/
theorem Snap.size_le_of_parse? {data : Bytes} {header : Snap} (h : parse? data = some header) :
    size ≤ data.length := by
  unfold parse? at h
  split at h
  · cases h
  · next room => exact Nat.not_lt.1 room

/-- A recognized header has its ethertype behind the prefix. -/
theorem Snap.etherType_of_parse? {data : Bytes} {header : Snap} (h : parse? data = some header) :
    header.etherType = data.be16At 6 := by
  unfold parse? at h
  split at h
  · cases h
  · split at h
    · cases h
      rfl
    · split at h
      · cases h
        rfl
      · cases h

/-- A recognized header is the one that was written. -/
theorem Snap.eq_encode_append_of_parse? {data : Bytes} {header : Snap}
    (h : parse? data = some header) : data = header.encode ++ data.drop size := by
  have room : 6 + 2 ≤ data.length := size_le_of_parse? h
  have start : data.take 6 = header.kind.octets := by
    unfold parse? at h
    split at h
    · cases h
    · split at h
      · next rfc1042 =>
        cases h
        exact rfc1042
      · split at h
        · next bridgeTunnel =>
          cases h
          exact bridgeTunnel
        · cases h
  have behind := Bytes.slice_append_drop data 6 2
  rw [encode, etherType_of_parse? h, ← start, Bytes.ofBe16_be16At room, List.append_assoc, size,
    behind, List.take_append_drop]

namespace Buffer

open Translation (headerSize addressesSize minEtherType)

/-- What a buffer is required to hold it holds, unless it is refused. -/
theorem le_of_require {b : Buffer} {size : Nat} {part : String}
    (h : b.require size part = .ok ()) : size ≤ b.size := by
  unfold require at h
  by_cases short : b.size < size
  · rw [if_pos short] at h
    cases h
  · exact Nat.not_lt.1 short

/-- The cases of a collapse: what it finds in a frame and what it leaves of it. -/
inductive Collapses (b : Buffer) : Translation → Buffer → Prop where
  | unchanged (isType : minEtherType ≤ b.window.be16At 12) :
      Collapses b (.unchanged (b.window.be16At 12)) b
  | llc (isLength : b.window.be16At 12 < minEtherType)
      (missing : Snap.parse? (b.window.drop headerSize) = none) : Collapses b .llc b
  | snap {header : Snap} (isLength : b.window.be16At 12 < minEtherType)
      (found : Snap.parse? (b.window.drop headerSize) = some header)
      (kept : header.convertsToEthernet = false) : Collapses b (.snap header) b
  | ethernet {header : Snap} {c : Buffer} (isLength : b.window.be16At 12 < minEtherType)
      (found : Snap.parse? (b.window.drop headerSize) = some header)
      (converts : header.convertsToEthernet = true)
      (frame : c.frame =
        { b.frame with
          bytes := b.window.take addressesSize ++ b.window.drop (addressesSize + Snap.size) }) :
      Collapses b (.ethernet header.etherType header.kind) c

/-- A frame with a SNAP header has two addresses in front of it. -/
theorem length_take_addresses {data : Bytes} {header : Snap}
    (found : Snap.parse? (data.drop headerSize) = some header) :
    (data.take addressesSize).length = addressesSize := by
  have behind := Snap.size_le_of_parse? found
  rw [List.length_drop] at behind
  rw [List.length_take]
  simp only [headerSize, addressesSize, Snap.size] at behind ⊢
  omega

/-- A collapse that succeeds is one of the cases. -/
theorem collapses_of_toEthernet {b c : Buffer} {translation : Translation}
    (h : b.toEthernet = .ok (translation, c)) : b.Collapses translation c := by
  obtain ⟨⟨⟩, -, h⟩ := of_bind_eq_ok h
  dsimp only at h
  split at h
  · next isType =>
    cases h
    exact .unchanged isType
  · next notType =>
    have isLength := UInt16.not_le.1 notType
    split at h
    · next missing =>
      cases h
      exact .llc isLength missing
    · next header found =>
      split at h
      · next converts =>
        obtain ⟨c, advanced, h⟩ := of_bind_eq_ok h
        cases h
        refine .ethernet isLength found converts ?_
        have addresses := length_take_addresses found
        have room : Snap.size + addressesSize ≤ b.window.length := by
          have behind := Snap.size_le_of_parse? found
          rw [List.length_drop] at behind
          simp only [headerSize, addressesSize, Snap.size] at behind ⊢
          omega
        obtain ⟨c', advanced', frame⟩ :=
          (b.overwrite Snap.size (b.window.take addressesSize)).advance_of_le
            (show Snap.size ≤ b.size from
              b.length_window ▸ Nat.le_trans (Nat.le_add_right _ _) room)
        cases Except.ok.inj (advanced.symm.trans advanced')
        rw [frame, frame_overwrite, Frame.drop]
        dsimp only
        rw [Bytes.drop_overwrite (by rw [addresses]; exact room), addresses, Nat.add_comm]
      · next kept =>
        cases h
        exact .snap isLength found (by simpa using kept)

/-- The frame that leaves a collapse has room for a header. -/
theorem size_of_toEthernet {b c : Buffer} {translation : Translation}
    (h : b.toEthernet = .ok (translation, c)) : headerSize ≤ c.size := by
  obtain ⟨⟨⟩, required, -⟩ := of_bind_eq_ok h
  have room := le_of_require required
  cases collapses_of_toEthernet h with
  | unchanged | llc | snap => exact room
  | ethernet isLength found converts frame =>
    have window : c.window =
        b.window.take addressesSize ++ b.window.drop (addressesSize + Snap.size) :=
      congrArg Frame.bytes frame
    have behind := Snap.size_le_of_parse? found
    rw [← c.length_window, window, List.length_append, length_take_addresses found,
      List.length_drop]
    rw [List.length_drop] at behind
    simp only [headerSize, addressesSize, Snap.size] at behind ⊢
    omega

/-- The frame that leaves has in its type field the ethertype that was found, with the packet right
behind it; or it has a length there, and the ethertype found further behind, if any, is one that
bridges tunnel. -/
theorem Collapses.type_or_length {b c : Buffer} {translation : Translation}
    (h : b.Collapses translation c) :
    translation.networkLayer = some (c.window.be16At 12, headerSize) ∨
      (c.window.be16At 12 < minEtherType ∧ ∀ type start,
        translation.networkLayer = some (type, start) → EtherType.isTunnelled type = true) := by
  cases h with
  | unchanged isType => exact .inl rfl
  | llc isLength missing => exact .inr ⟨isLength, fun _ _ found => by cases found⟩
  | @snap header isLength parsed kept =>
    refine .inr ⟨isLength, fun type start found => ?_⟩
    cases found
    obtain ⟨kind, etherType⟩ := header
    cases kind with
    | rfc1042 => simpa [Snap.convertsToEthernet] using kept
    | bridgeTunnel => cases kept
  | @ethernet header c isLength parsed converts frame =>
    have window : c.window =
        b.window.take addressesSize ++ b.window.drop (addressesSize + Snap.size) :=
      congrArg Frame.bytes frame
    have addresses : (b.window.take addressesSize).length = 12 := length_take_addresses parsed
    have type : c.window.be16At 12 = header.etherType := by
      rw [window, Bytes.be16At_append_right addresses, Bytes.be16At_drop,
        Snap.etherType_of_parse? parsed, Bytes.be16At_drop]
      rfl
    exact .inl (by rw [type]; rfl)

end Buffer

end Airlink
