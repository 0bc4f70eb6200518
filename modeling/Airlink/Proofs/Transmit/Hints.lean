import Airlink.Proofs.ControlWord
import Airlink.Proofs.Descriptor
import Airlink.Proofs.Transmit.Account

/-!
# From hints to the wire and back

What the host asks for a frame is a sequence of writes to the two control words
(`TxDescriptor.hintedControl_eq`, `hintedChannelControl_eq`), so each hint is read back from the
descriptor of the frame as it was given (`TxDescriptor.Carries`), and the descriptor is read back
from in front of the frame (`Egress.attach_read_back`).
-/

namespace Airlink

/-! ## Cycle marks -/

namespace TxChannelControl

variable (w : TxChannelControl) (start end_ : Bool)

/-- Raising bits puts them. -/
theorem or_eq_putBits (word bits : UInt32) : word ||| bits = putBits word bits bits := by
  refine eq_of_bits fun i h => ?_
  simp only [putBits, UInt32.toBitVec_and, UInt32.toBitVec_or, UInt32.toBitVec_not,
    BitVec.getElem_and, BitVec.getElem_or, BitVec.getElem_not]
  grind

theorem bits_withCycleMarks :
    (w.withCycleMarks start end_).bits =
      let marks := (if start then cycleStartBit else 0) ||| if end_ then cycleEndBit else 0
      putBits w.bits marks marks := by
  rw [← or_eq_putBits, ← UInt32.or_assoc]
  rfl

/-- Cycle marks leave all other bits alone. -/
theorem withCycleMarks_and_of_apart {k : UInt32}
    (apart : k &&& (cycleStartBit ||| cycleEndBit) = 0) :
    (w.withCycleMarks start end_).bits &&& k = w.bits &&& k := by
  rw [bits_withCycleMarks]
  refine putBits_and_of_apart (apart_of_covered ?_ apart)
  cases start <;> cases end_ <;> decide

@[simp] theorem bandwidth_withCycleMarks :
    (w.withCycleMarks start end_).bandwidth = w.bandwidth := by
  rw [bandwidth, withCycleMarks_and_of_apart w _ _ (by decide),
    withCycleMarks_and_of_apart w _ _ (by decide), bandwidth]

@[simp] theorem channel_withCycleMarks : (w.withCycleMarks start end_).channel = w.channel := by
  rw [channel, withCycleMarks_and_of_apart w _ _ (by decide), channel]

/-- A cycle mark is up if it was or if it is raised. -/
theorem cycleStart_withCycleMarks :
    (w.withCycleMarks start end_).cycleStart = (w.cycleStart || start) := by
  rw [cycleStart, bits_withCycleMarks]
  cases start with
  | true =>
    rw [putBits_and_of_covered (by cases end_ <;> decide), Bool.or_true]
    cases end_ <;> decide
  | false =>
    rw [putBits_and_of_apart (by cases end_ <;> decide), Bool.or_false, cycleStart]

theorem cycleEnd_withCycleMarks :
    (w.withCycleMarks start end_).cycleEnd = (w.cycleEnd || end_) := by
  rw [cycleEnd, bits_withCycleMarks]
  cases end_ with
  | true =>
    rw [putBits_and_of_covered (by cases start <;> decide), Bool.or_true]
    cases start <;> decide
  | false =>
    rw [putBits_and_of_apart (by cases start <;> decide), Bool.or_false, cycleEnd]

end TxChannelControl

/-! ## Hints as writes -/

namespace TransmitHints

/-- What the hints write to the first control word. -/
def controlWrites (hints : TransmitHints) : List TxControl.Write :=
  (hints.rate.map .rate).toList ++
    (hints.power.map fun p => .power p.dbm p.hostControlled).toList ++
    (hints.retryLimit.map .retryLimit).toList

/-- What the hints write to the second control word, apart from the cycle marks. -/
def channelWrites (hints : TransmitHints) : List TxChannelControl.Write :=
  (hints.bandwidth.map .bandwidth).toList ++ (hints.channel.map .channel).toList

variable (hints : TransmitHints)

/-- The hints write each field of the first word at most once, and then what they ask for. -/
theorem controlWrites_given :
    hints.controlWrites.filterMap TxControl.Write.rate? = hints.rate.toList ∧
      hints.controlWrites.filterMap TxControl.Write.power? =
        (hints.power.map fun p => (p.dbm, p.hostControlled)).toList ∧
      hints.controlWrites.filterMap TxControl.Write.limit? = hints.retryLimit.toList := by
  obtain ⟨rate, power, retryLimit, -⟩ := hints
  cases rate <;> cases power <;> cases retryLimit <;> exact ⟨rfl, rfl, rfl⟩

/-- So they do with the second. -/
theorem channelWrites_given :
    hints.channelWrites.filterMap TxChannelControl.Write.bandwidth? = hints.bandwidth.toList ∧
      hints.channelWrites.filterMap TxChannelControl.Write.channel? = hints.channel.toList := by
  obtain ⟨-, -, -, bandwidth, channel, -⟩ := hints
  cases bandwidth <;> cases channel <;> exact ⟨rfl, rfl⟩

/-- The cycle marks are none of the hints' writes. -/
theorem channelWrites_apart {k : UInt32}
    (apart : k &&& (TxChannelControl.bandwidthMask ||| TxChannelControl.bandwidthOverride |||
      TxChannelControl.channelMask) = 0) :
    ∀ a ∈ hints.channelWrites, k &&& a.field = 0 := by
  intro a _
  refine apart_of_covered ?_ apart
  cases a <;> rw [TxChannelControl.Write.field] <;> decide

end TransmitHints

namespace TxDescriptor

variable (hints : TransmitHints)

theorem hintedControl_eq (w : TxControl) :
    hintedControl w hints = w.writeAll hints.controlWrites := by
  obtain ⟨rate, power, retryLimit, -⟩ := hints
  cases rate <;> cases power <;> cases retryLimit <;> rfl

theorem hintedChannelControl_eq (w : TxChannelControl) :
    hintedChannelControl w hints =
      (w.writeAll hints.channelWrites).withCycleMarks hints.cycleStart hints.cycleEnd := by
  obtain ⟨-, -, -, bandwidth, channel, -⟩ := hints
  cases bandwidth <;> cases channel <;> rfl

/-- A descriptor says of a buffer what the identity of its sender, the buffer and the hints say. -/
structure Carries (d : TxDescriptor) (e : Egress) (buf : Buffer) (hints : TransmitHints) :
    Prop where
  bssType : d.bssType = e.bssType
  bssNum : d.bssNum = e.bssNum
  pktLength : d.pktLength.toNat = buf.size
  pktOffset : d.pktOffset = 24
  pktType : d.pktType = if buf.flags.has BufferFlags.rawPassthrough then 0x05 else 0x00
  priority : d.priority = buf.priority
  rate : d.control.rate = hints.rate
  retryLimit : d.control.retryLimit = hints.retryLimit.map (· % 16)
  power : d.control.power = (hints.power.map (·.dbm)).getD 0
  hostPower : d.control.hostPower = (hints.power.map (·.hostControlled)).getD false
  bandwidth : d.channelControl.bandwidth = hints.bandwidth.map (· % 8)
  channel : d.channelControl.channel = hints.channel.getD 0
  cycleStart : d.channelControl.cycleStart = hints.cycleStart
  cycleEnd : d.channelControl.cycleEnd = hints.cycleEnd
  reportsStatus : d.reportsStatus = hints.reportStatus
  tokenId : d.tokenId = if hints.reportStatus then hints.statusToken.getD 0 else 0
  pktDelay2ms : d.pktDelay2ms = 0

/-- The first control word of a plain descriptor with the hints gives the hints back. -/
theorem control_carries :
    let w := hintedControl ⟨0⟩ hints
    w.rate = hints.rate ∧ w.retryLimit = hints.retryLimit.map (· % 16) ∧
      w.power = (hints.power.map (·.dbm)).getD 0 ∧
      w.hostPower = (hints.power.map (·.hostControlled)).getD false := by
  have empty : (⟨0⟩ : TxControl).rate = none ∧ (⟨0⟩ : TxControl).retryLimit = none ∧
      (⟨0⟩ : TxControl).power = 0 ∧ (⟨0⟩ : TxControl).hostPower = false := by decide
  obtain ⟨noRate, noLimit, noPower, noHost⟩ := empty
  obtain ⟨rates, powers, limits⟩ := hints.controlWrites_given
  intro w
  have written : w = TxControl.writeAll ⟨0⟩ hints.controlWrites := hintedControl_eq hints ⟨0⟩
  refine ⟨?_, ?_, ?_, ?_⟩
  · rw [written, TxControl.rate_writeAll, rates, noRate]
    cases hints.rate <;> rfl
  · rw [written, TxControl.retryLimit_writeAll, limits, noLimit]
    cases hints.retryLimit <;> rfl
  · rw [written, TxControl.power_writeAll, powers, noPower]
    cases hints.power <;> rfl
  · rw [written, TxControl.hostPower_writeAll, powers, noHost]
    cases hints.power with
    | none => rfl
    | some p => exact Bool.or_false p.hostControlled

/-- So does the second. -/
theorem channelControl_carries :
    let w := hintedChannelControl ⟨0⟩ hints
    w.bandwidth = hints.bandwidth.map (· % 8) ∧ w.channel = hints.channel.getD 0 ∧
      w.cycleStart = hints.cycleStart ∧ w.cycleEnd = hints.cycleEnd := by
  have empty : (⟨0⟩ : TxChannelControl).bandwidth = none ∧
      (⟨0⟩ : TxChannelControl).channel = 0 := by decide
  obtain ⟨noBandwidth, noChannel⟩ := empty
  obtain ⟨bandwidths, channels⟩ := hints.channelWrites_given
  -- No write before the marks touches them.
  have unmarked {k : UInt32} (apart : k &&& (TxChannelControl.bandwidthMask |||
      TxChannelControl.bandwidthOverride ||| TxChannelControl.channelMask) = 0) :
      (TxChannelControl.writeAll ⟨0⟩ hints.channelWrites).bits &&& k = 0 := by
    have kept := bits_foldl (fun w a _ => TxChannelControl.Write.apply_and_of_apart w a) ⟨0⟩
      hints.channelWrites (hints.channelWrites_apart apart)
    rw [TxChannelControl.writeAll, kept, UInt32.zero_and]
  intro w
  have written : w = (TxChannelControl.writeAll ⟨0⟩ hints.channelWrites).withCycleMarks
      hints.cycleStart hints.cycleEnd := hintedChannelControl_eq hints ⟨0⟩
  refine ⟨?_, ?_, ?_, ?_⟩
  · rw [written, TxChannelControl.bandwidth_withCycleMarks,
      TxChannelControl.bandwidth_writeAll, bandwidths, noBandwidth]
    cases hints.bandwidth <;> rfl
  · rw [written, TxChannelControl.channel_withCycleMarks,
      TxChannelControl.channel_writeAll, channels, noChannel]
    cases hints.channel <;> rfl
  · rw [written, TxChannelControl.cycleStart_withCycleMarks,
      TxChannelControl.cycleStart, unmarked (by decide)]
    rfl
  · rw [written, TxChannelControl.cycleEnd_withCycleMarks,
      TxChannelControl.cycleEnd, unmarked (by decide)]
    rfl

end TxDescriptor

namespace Egress

open TxDescriptor (Carries)

/-- What is built for a buffer that fits carries what is known of the buffer and asked for it. -/
theorem build_carries (e : Egress) {buf : Buffer} (hints : TransmitHints)
    (fits : buf.size ≤ TxDescriptor.maxPayload) :
    ∃ d, e.build buf hints = .ok d ∧ d.Carries e buf hints := by
  unfold build
  rw [if_neg (Nat.not_lt.2 fits)]
  obtain ⟨rate, retryLimit, power, hostPower⟩ := TxDescriptor.control_carries hints
  obtain ⟨bandwidth, channel, cycleStart, cycleEnd⟩ := TxDescriptor.channelControl_carries hints
  refine ⟨_, rfl, ?_⟩
  exact {
    bssType := rfl
    bssNum := rfl
    pktLength := UInt16.toNat_ofNat_of_lt' (Nat.lt_of_le_of_lt fits (by decide))
    pktOffset := rfl
    pktType := by
      simp only [TxDescriptor.applyHints, TxDescriptor.classOf]
      split <;> rfl
    priority := rfl
    rate
    retryLimit
    power
    hostPower
    bandwidth
    channel
    cycleStart
    cycleEnd
    reportsStatus := by
      simp only [TxDescriptor.applyHints, TxDescriptor.plain, TxDescriptor.reportsStatus]
      cases hints.reportStatus <;> decide
    tokenId := rfl
    pktDelay2ms := rfl }

/-- **From hints to the wire and back.** A buffer is refused as too long just when it has more than
2024 octets. Any other buffer gets 24 octets in front, the reserved ones of them zero, and the
descriptor read back from there carries the identity of the sender, the buffer and the hints.
Whatever descriptor is written is read back, whatever stands behind it. -/
theorem attach_read_back :
    (∀ (e : Egress) (buf : Buffer) (hints : TransmitHints),
      match e.attach buf hints with
      | .error err => 2024 < buf.size ∧ err = .oversizedPayload buf.size 2024
      | .ok framed => buf.size ≤ 2024 ∧
        ∃ octets, framed.window = octets ++ buf.window ∧ octets.length = 24 ∧
          (∀ k ∈ [15, 16, 18, 19], octets[k]? = some 0) ∧
          ∃ d, TxDescriptor.decode framed.window = .ok d ∧ d.Carries e buf hints) ∧
    ∀ (d : TxDescriptor) (rest : Bytes), TxDescriptor.decode (d.encode ++ rest) = .ok d := by
  refine ⟨fun e buf hints => ?_, TxDescriptor.decode_encode⟩
  by_cases fits : buf.size ≤ TxDescriptor.maxPayload
  · obtain ⟨d, built, carries⟩ := e.build_carries hints fits
    rw [attach, built]
    refine ⟨fits, d.encode, buf.window_prepend d.encode, d.length_encode, ?_, d, ?_, carries⟩
    · simp [TxDescriptor.encode]
    · rw [Buffer.window_prepend, TxDescriptor.decode_encode]
  · have long := Nat.lt_of_not_le fits
    rw [e.attach_of_lt hints long]
    exact ⟨long, rfl⟩

end Egress

end Airlink
