import Airlink.Proofs.Checked.Buffer
import Airlink.Proofs.Translation

/-!
# Headers with their checks

The readers of the three headers that a received frame starts with, and the rewrites between them.
Each reader compares the length of the frame with all that it is going to read before it reads any
of it. The rewrites rely on what a reader has found out: `toEthernet` moves two addresses up against
the end of a SNAP header, since that header was recognized behind them, and `dot11To8023` writes
over the end of an 802.11 header, which is long enough for an 802.3 header and lies in the frame
(`Ieee80211.Header.parse_size`).
-/

namespace Airlink

/-- What is not refused in other words is not refused. -/
theorem ok_of_mapError {ε ε' α : Type} {x : Except ε α} {f : ε → ε'} {a : α}
    (h : x.mapError f = .ok a) : x = .ok a := by
  cases x with
  | error e => cases h
  | ok b =>
    cases h
    rfl

/-- The fields of a descriptor stand in its own octets. -/
theorem RxDescriptor.readFields_take (data : Bytes) :
    readFields (data.take size) = readFields data := by
  simp (disch := decide) only [readFields, size, Bytes.le16At, Bytes.slice_take, Bytes.byteAt_take]

namespace Checked

open Ieee80211 (Header)

/-! ## Descriptors -/

/-- Reads the fields of a descriptor. -/
def readFields (data : Bytes) : Run RxDescriptor := do
  let bssType ← octet data 0
  let bssNum ← octet data 1
  let pktLength ← le16 data 2
  let pktOffset ← le16 data 4
  let pktType ← le16 data 6
  let seqNum ← le16 data 8
  let priority ← octet data 10
  let rxRate ← octet data 11
  let snr ← octet data 12
  let nf ← octet data 13
  let rateInfo ← octet data 14
  let flags ← octet data 18
  let antenna ← octet data 19
  return {
    bssType, bssNum, pktLength, pktOffset, pktType, seqNum, priority, rxRate
    snr := snr.toInt8
    nf := nf.toInt8
    rateInfo := .ofByte rateInfo
    flags, antenna }

/-- Reads the descriptor of a buffer that holds exactly descriptor, padding and payload. -/
def decode (data : Bytes) : Attempt Error RxDescriptor :=
  if data.length < RxDescriptor.size then
    throw (RxDescriptor.tooShort data.length RxDescriptor.size)
  else do
    let d ← readFields (← span data 0 RxDescriptor.size)
    if d.pktOffset.toNat < RxDescriptor.size then
      throw (.malformedDescriptor s!"payload offset {d.pktOffset.toNat} overlaps the descriptor")
    else if d.pktOffset.toNat + d.pktLength.toNat ≠ data.length then
      throw (.malformedDescriptor
        (s!"offset {d.pktOffset.toNat} + length {d.pktLength.toNat} " ++
          s!"!= buffer length {data.length}"))
    else return d

theorem readFields_eq {data : Bytes} (fits : RxDescriptor.size ≤ data.length) :
    readFields data = .ok (.readFields data) := by
  have fits : 24 ≤ data.length := fits
  simp (disch := omega) only [readFields, octet_eq, le16_eq, ok_bind, pure_eq_ok,
    RxDescriptor.readFields]

@[simp] theorem run_decode (data : Bytes) : (decode data).run = .ok (RxDescriptor.decode data) := by
  unfold decode RxDescriptor.decode
  by_cases short : data.length < RxDescriptor.size
  · rw [if_pos short, if_pos short]
    rfl
  · have fits : RxDescriptor.size ≤ data.length := Nat.not_lt.1 short
    have whole : (data.take RxDescriptor.size).length = RxDescriptor.size := by
      rw [List.length_take, Nat.min_eq_left fits]
    rw [if_neg short, if_neg short, span_zero_eq fits, lift_ok_bind,
      readFields_eq (Nat.le_of_eq whole.symm), lift_ok_bind, RxDescriptor.readFields_take]
    split
    · rfl
    · split <;> rfl

/-! ## 802.11 headers -/

/-- An optional field of `width` octets behind the `size` octets read so far. -/
def optionalField {α : Type} (announced : Bool) (data : Bytes) (size width : Nat)
    (read : Nat → Run α) : Attempt Ieee80211.Error (Option α × Nat) :=
  if announced then do
    given (Header.require data (size + width))
    return (some (← read size), size + width)
  else
    return (none, size)

/-- Reads the 802.11 header at the start of a frame. -/
def parse (data : Bytes) : Attempt Ieee80211.Error Header := do
  given (Header.require data Ieee80211.baseHeaderSize)
  let fc : Ieee80211.FrameControl := ⟨← le16 data 0⟩
  if fc.type = .control then
    throw (.invalidHeader "control frames carry no addressable body")
  let duration ← le16 data 2
  let addr1 ← addr data 4
  let addr2 ← addr data 10
  let addr3 ← addr data 16
  let seqCtrl ← le16 data 22
  let (addr4, size) ←
    optionalField (fc.toDs && fc.fromDs) data Ieee80211.baseHeaderSize 6 (addr data)
  let (qosCtrl, size) ← optionalField fc.isQosData data size 2 (le16 data)
  let (htCtrl, size) ← optionalField fc.hasHtControl data size 4 (le32 data)
  return {
    frameControl := fc
    duration, addr1, addr2, addr3, addr4, seqCtrl, qosCtrl, htCtrl, size }

theorem run_optionalField {α : Type} {data : Bytes} {width : Nat} {checked : Nat → Run α}
    {read : Nat → α}
    (reads : ∀ size, size + width ≤ data.length → checked size = .ok (read size))
    (announced : Bool) (size : Nat) :
    (optionalField announced data size width checked).run =
      .ok (Header.optionalField announced data size width read) := by
  unfold optionalField Header.optionalField
  split
  · refine run_bind (run_given _) fun _ required => ?_
    rw [reads size (Header.le_of_require required), lift_ok_bind]
    rfl
  · rfl

@[simp] theorem run_parse (data : Bytes) : (parse data).run = .ok (Header.parse data) := by
  refine run_bind (run_given _) fun _ required => ?_
  have fits : 24 ≤ data.length := Header.le_of_require required
  rw [le16_eq (by omega), lift_ok_bind]
  simp only
  split
  · rfl
  · simp (disch := omega) only [le16_eq, addr_eq, lift_ok_bind]
    refine run_bind (run_optionalField (fun _ h => addr_eq h) _ _) fun (addr4, size) _ => ?_
    refine run_bind (run_optionalField (fun _ h => le16_eq h) _ _) fun (qosCtrl, size) _ => ?_
    refine run_bind (run_optionalField (fun _ h => le32_eq h) _ _) fun (htCtrl, size) _ => ?_
    rfl

/-! ## SNAP headers -/

/-- Recognizes a SNAP header at the start of a packet. -/
def snap? (data : Bytes) : Run (Option Snap) :=
  if data.length < Snap.size then return none
  else do
    let pre ← span data 0 6
    if pre = SnapKind.rfc1042.octets then return some ⟨.rfc1042, ← be16 data 6⟩
    else if pre = SnapKind.bridgeTunnel.octets then return some ⟨.bridgeTunnel, ← be16 data 6⟩
    else return none

@[simp] theorem snap?_eq (data : Bytes) : snap? data = .ok (Snap.parse? data) := by
  unfold snap? Snap.parse?
  by_cases short : data.length < Snap.size
  · rw [if_pos short, if_pos short]
    rfl
  · have fits : 8 ≤ data.length := Nat.not_lt.1 short
    rw [if_neg short, if_neg short, span_zero_eq (by omega), ok_bind, be16_eq (by omega)]
    split
    · rfl
    · split <;> rfl

/-! ## Rewrites -/

open Translation (headerSize addressesSize minEtherType)

/-- Collapses a recognized SNAP header of a frame whose window starts at the destination address. -/
def toEthernet (b : Buffer) : Attempt Error (Translation × Buffer) := do
  given (b.require headerSize "802.3 header")
  let frame ← window b
  let lengthOrType ← be16 frame 12
  if minEtherType ≤ lengthOrType then
    return (.unchanged lengthOrType, b)
  match ← snap? (← behind frame headerSize) with
  | none => return (.llc, b)
  | some header =>
    if header.convertsToEthernet then
      let b ← moveWithin b addressesSize Snap.size
      let b ← advance b Snap.size
      return (.ethernet header.etherType header.kind, b)
    else
      return (.snap header, b)

/-- Writes an 802.3 header over the octets of the window from one place up to another. -/
def write8023 (b : Buffer) (start stop : Nat) (dest source : HwAddr) (length : UInt16) :
    Run Buffer := do
  let b ← putWindow b start (start + HwAddr.size) dest.toBytes
  let b ← putWindow b (start + HwAddr.size) (start + addressesSize) source.toBytes
  putWindow b (start + addressesSize) stop (Bytes.ofBe16 length)

/-- Replaces the header of an 802.11 data frame by an 802.3 header. -/
def dot11To8023 (b : Buffer) : Attempt Error (Header × Buffer) := do
  let frame ← window b
  let header ← (parse frame).adapt Error.frame
  let fc := header.frameControl
  if fc.type ≠ .data ∨ fc.isNullData then
    throw (.frame (.invalidHeader
      s!"{fc.type.name} subtype {fc.subtype.toNat} carries no data"))
  let length := UInt16.ofNat (← minus b.size header.size)
  let start ← minus header.size headerSize
  let b ← write8023 b start header.size header.destination header.source length
  let b ← advance b start
  return (header, b)

@[simp] theorem run_toEthernet (b : Buffer) : (toEthernet b).run = .ok b.toEthernet := by
  refine run_bind (run_given _) fun _ required => ?_
  have room : headerSize ≤ b.size := Buffer.le_of_require required
  have fits : headerSize ≤ b.window.length := by rwa [Buffer.length_window]
  rw [window_eq, lift_ok_bind, be16_eq fits, lift_ok_bind]
  simp only
  split
  · rfl
  rw [behind_eq fits, lift_ok_bind, snap?_eq, lift_ok_bind]
  cases recognized : Snap.parse? (b.window.drop headerSize) with
  | none => rfl
  | some header =>
    simp only
    split
    · have behind : Snap.size ≤ b.size - headerSize := by
        simpa using Snap.size_le_of_parse? recognized
      rw [moveWithin_eq (by simp only [headerSize, addressesSize, Snap.size] at *; omega),
        lift_ok_bind]
      exact run_bind (run_advance _ _) fun _ _ => rfl
    · rfl

theorem write8023_eq {b : Buffer} {start stop : Nat} (same : start + headerSize = stop)
    (fits : stop ≤ b.size) (dest source : HwAddr) (length : UInt16) :
    write8023 b start stop dest source length =
      .ok (b.overwrite start (dest.toBytes ++ source.toBytes ++ Bytes.ofBe16 length)) := by
  have room : start + 14 ≤ b.size := by
    rw [← same] at fits
    exact fits
  have six : ∀ a : HwAddr, a.toBytes.length = 6 := HwAddr.length_toBytes
  have two : (Bytes.ofBe16 length).length = 2 := Bytes.length_ofBe16 length
  have first : putWindow b start (start + HwAddr.size) dest.toBytes =
      .ok (b.overwrite start dest.toBytes) :=
    putWindow_eq rfl (by simp only [HwAddr.size]; omega)
  have second : putWindow (b.overwrite start dest.toBytes) (start + HwAddr.size)
        (start + addressesSize) source.toBytes =
      .ok (b.overwrite start (dest.toBytes ++ source.toBytes)) :=
    calc putWindow (b.overwrite start dest.toBytes) (start + 6) (start + 12) source.toBytes
        = .ok ((b.overwrite start dest.toBytes).overwrite (start + 6) source.toBytes) :=
          putWindow_eq rfl (show start + 12 ≤ b.size by omega)
      _ = .ok (b.overwrite start (dest.toBytes ++ source.toBytes)) :=
          congrArg Except.ok (Buffer.overwrite_append (by rw [six, six]; omega))
  have third : putWindow (b.overwrite start (dest.toBytes ++ source.toBytes))
        (start + addressesSize) stop (Bytes.ofBe16 length) =
      .ok (b.overwrite start (dest.toBytes ++ source.toBytes ++ Bytes.ofBe16 length)) :=
    calc putWindow (b.overwrite start (dest.toBytes ++ source.toBytes)) (start + 12) stop
          (Bytes.ofBe16 length)
        = .ok ((b.overwrite start (dest.toBytes ++ source.toBytes)).overwrite (start + 12)
            (Bytes.ofBe16 length)) := putWindow_eq (by rw [two, ← same]; rfl) fits
      _ = .ok (b.overwrite start (dest.toBytes ++ source.toBytes ++ Bytes.ofBe16 length)) :=
          congrArg Except.ok
            (Buffer.overwrite_append (by rw [List.length_append, six, six, two]; omega))
  rw [write8023, first, ok_bind, second, ok_bind, third]

@[simp] theorem run_dot11To8023 (b : Buffer) : (dot11To8023 b).run = .ok b.dot11To8023 := by
  unfold dot11To8023 Buffer.dot11To8023
  rw [window_eq, lift_ok_bind]
  refine run_bind (run_adapt (run_parse b.window) Error.frame) fun header found => ?_
  simp only
  split
  · rfl
  obtain ⟨base, fits⟩ := Header.parse_size (ok_of_mapError found)
  rw [Buffer.length_window] at fits
  have room : headerSize ≤ header.size := Nat.le_trans (by decide) base
  rw [minus_eq fits, lift_ok_bind, minus_eq room, lift_ok_bind,
    write8023_eq (Nat.sub_add_cancel room) fits, lift_ok_bind]
  exact run_bind (run_advance _ _) fun _ _ => rfl

end Checked

end Airlink
