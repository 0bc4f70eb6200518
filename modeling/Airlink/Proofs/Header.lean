import Airlink.Proofs.Encapsulation
import Airlink.Proofs.HeaderFormat

/-!
# The size of an 802.11 header

A header that can be read takes at least twenty-four octets and no more than the frame has
(`parse_size`), so that the 802.3 header of a translated frame fits into its place
(`dot11To8023_framed`).
-/

namespace Airlink

/-- What a result of two steps says of the first one. -/
theorem of_bind_eq_ok {ε α β : Type} {x : Except ε α} {f : α → Except ε β} {r : β}
    (h : (x >>= f) = .ok r) : ∃ a, x = .ok a ∧ f a = .ok r := by
  cases x with
  | error e => cases h
  | ok a => exact ⟨a, rfl, h⟩

namespace Ieee80211.Header

/-- A header takes at least what every header takes, and no more than the frame has. -/
theorem parse_size {data : Bytes} {h : Header} (parsed : parse data = .ok h) :
    baseHeaderSize ≤ h.size ∧ h.size ≤ data.length := by
  obtain ⟨whole, -, rfl⟩ := parse_eq_ok_iff.1 parsed
  obtain ⟨base, second, third⟩ := ends_le (data.le16At 0)
  exact ⟨base.trans (second.trans third), whole⟩

end Ieee80211.Header

namespace Buffer

/-- The header of a raw data frame is replaced by an 802.3 header with the length of the body. -/
theorem dot11To8023_framed {b : Buffer} {h : Ieee80211.Header} {m : Msdu}
    (parsed : Ieee80211.Header.parse b.window = .ok h) (isData : h.frameControl.type = .data)
    (notNull : h.frameControl.isNullData = false) (dest : m.dest = h.destination)
    (source : m.source = h.source) (body : b.window.drop h.size = m.body) :
    ∃ c, b.dot11To8023 = .ok (h, c) ∧
      c.frame = { b.frame with bytes := m.framed (UInt16.ofNat m.body.length) } := by
  obtain ⟨base, fits⟩ := Ieee80211.Header.parse_size parsed
  have room : Translation.headerSize ≤ h.size := Nat.le_trans (by decide) base
  have size : b.size - h.size = m.body.length := by
    rw [← body, List.length_drop, b.length_window]
  have front : m.addresses ++ Bytes.ofBe16 (UInt16.ofNat m.body.length) =
      h.destination.toBytes ++ h.source.toBytes ++ Bytes.ofBe16 (UInt16.ofNat m.body.length) := by
    rw [Msdu.addresses, dest, source]
  generalize hp : m.addresses ++ Bytes.ofBe16 (UInt16.ofNat m.body.length) = patch at front
  have patchSize : patch.length = Translation.headerSize := by
    rw [← hp, List.length_append, m.length_addresses, Bytes.length_ofBe16]
    rfl
  obtain ⟨c, hc, frame⟩ : ∃ c, (b.overwrite (h.size - Translation.headerSize) patch).advance
        (h.size - Translation.headerSize) = .ok c ∧
      c.frame = (b.overwrite (h.size - Translation.headerSize) patch).frame.drop
        (h.size - Translation.headerSize) := by
    refine advance_of_le _ ?_
    rw [← length_window, window_overwrite, Bytes.length_overwrite]
    omega
  refine ⟨c, ?_, ?_⟩
  · unfold dot11To8023
    have carries : ¬ (h.frameControl.type ≠ .data ∨ h.frameControl.isNullData = true) := by
      simp [isData, notNull]
    simp only [parsed, Except.mapError, bind, Except.bind, if_neg carries, size, ← front, hc]
    rfl
  · have place : h.size - Translation.headerSize + patch.length = h.size := by
      rw [patchSize]
      omega
    rw [frame, frame_overwrite, Frame.drop]
    simp only
    rw [Bytes.drop_overwrite (by rw [place]; exact fits), place, body, ← hp, List.append_assoc]
    rfl

end Buffer

end Airlink
