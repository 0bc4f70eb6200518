import Airlink.Descriptor.Transmit
import Airlink.Proofs.Bytes

/-!
# Descriptors read back

A transmit descriptor in front of a payload is read back as what was written
(`TxDescriptor.decode_encode`).

A receive descriptor is accepted just when it accounts for every octet of its buffer
(`RxDescriptor.decode_eq_ok_iff`). What was accepted, written again, is what stood there with the
reserved bits cleared (`RxDescriptor.encode_readFields`), and what was written in front of as many
octets as it announces is read back (`RxDescriptor.decode_encode_append`). Together they make the
codec of receive descriptors, `RxDescriptor.decode_inverse`.
-/

namespace Airlink

open Bytes

/-! ## Transmit descriptors -/

/-- A transmit descriptor that was written is read back, whatever stands behind it. -/
theorem TxDescriptor.decode_encode (d : TxDescriptor) (rest : Bytes) :
    decode (d.encode ++ rest) = .ok d := by
  have long : ¬ (d.encode ++ rest).length < size := by
    rw [List.length_append, length_encode, size]
    omega
  -- The stretches at the places of the words are the words that were written.
  have pktLength : (d.encode ++ rest).le16At 2 = d.pktLength := ofNat_leNat_ofLe16 d.pktLength
  have pktOffset : (d.encode ++ rest).le16At 4 = d.pktOffset := ofNat_leNat_ofLe16 d.pktOffset
  have pktType : (d.encode ++ rest).le16At 6 = d.pktType := ofNat_leNat_ofLe16 d.pktType
  have control : (d.encode ++ rest).le32At 8 = d.control.bits :=
    ofNat_leNat_ofLe32 d.control.bits
  have channelControl : (d.encode ++ rest).le32At 20 = d.channelControl.bits :=
    ofNat_leNat_ofLe32 d.channelControl.bits
  rw [decode, if_neg long, pktLength, pktOffset, pktType, control, channelControl]
  rfl

/-! ## Modulation facts -/

namespace RateInfo

/-- Facts that were packed into an octet are unpacked from it. -/
theorem ofByte_toByte (r : RateInfo) : ofByte r.toByte = r := by
  obtain ⟨format, bandwidth, shortGi, stbc, ldpc⟩ := r
  cases format <;> cases bandwidth <;> cases shortGi <;> cases stbc <;> cases ldpc <;> rfl

/-- Facts that were unpacked from an octet are packed into the same octet without its highest bit,
which says nothing. -/
theorem toByte_ofByte (byte : UInt8) : (ofByte byte).toByte = 0x7f &&& byte := by
  have all : ∀ n : Fin 256, (ofByte (UInt8.ofNat n)).toByte = 0x7f &&& UInt8.ofNat n := by
    decide +kernel
  have here := all ⟨byte.toNat, byte.toNat_lt⟩
  rwa [UInt8.ofNat_toNat] at here

end RateInfo

/-! ## Receive descriptors -/

namespace RxDescriptor

/-- A buffer is accepted just when it holds a descriptor whose payload starts behind it and ends
with the buffer. -/
theorem decode_eq_ok_iff {data : Bytes} {d : RxDescriptor} :
    decode data = .ok d ↔
      size ≤ data.length ∧ size ≤ d.pktOffset.toNat ∧ d.payloadEnd = data.length ∧
        d = readFields data := by
  unfold decode payloadEnd
  dsimp only
  constructor
  · intro accepted
    split at accepted
    · cases accepted
    · next long =>
      split at accepted
      · cases accepted
      · next behind =>
        split at accepted
        · cases accepted
        · next whole =>
          cases accepted
          exact ⟨Nat.not_lt.1 long, Nat.not_lt.1 behind, Decidable.not_not.1 whole, rfl⟩
  · rintro ⟨long, behind, whole, rfl⟩
    rw [if_neg (Nat.not_lt.2 long), if_neg (Nat.not_lt.2 behind), if_neg (fun ne => ne whole)]

/-- A payload that is all there is behind the offset of a decoded descriptor. -/
theorem payload?_of_decode {data : Bytes} {desc : RxDescriptor}
    (h : decode data = .ok desc) : desc.payload? data = some (data.drop desc.pktOffset.toNat) := by
  obtain ⟨-, -, whole, -⟩ := decode_eq_ok_iff.1 h
  unfold payloadEnd at whole
  unfold payload? slice? slice
  rw [if_pos (Nat.le_of_eq whole), List.take_of_length_le]
  rw [List.length_drop]
  omega

/-- A payload behind the offset of a decoded descriptor is as long as the descriptor says. -/
theorem length_drop_of_decode {data : Bytes} {desc : RxDescriptor}
    (h : decode data = .ok desc) :
    (data.drop desc.pktOffset.toNat).length = desc.pktLength.toNat := by
  obtain ⟨-, -, whole, -⟩ := decode_eq_ok_iff.1 h
  unfold payloadEnd at whole
  rw [List.length_drop]
  omega

/-- Nothing is behind the offset of a decoded descriptor just when the descriptor says so. -/
theorem drop_eq_nil_iff_of_decode {data : Bytes} {desc : RxDescriptor}
    (h : decode data = .ok desc) :
    data.drop desc.pktOffset.toNat = [] ↔ desc.pktLength = 0 := by
  rw [← List.length_eq_zero_iff, length_drop_of_decode h, ← UInt16.toNat_inj]
  rfl

/-! ### Writing what was read -/

/-- The bits of a descriptor that say something: all but the highest of the octet with the
modulation facts, and those of the seven reserved octets. -/
def significant : Bytes :=
  List.replicate 14 0xff ++ [0x7f, 0, 0, 0, 0xff, 0xff, 0, 0, 0, 0]

/-- The octets of a descriptor with the reserved bits cleared. -/
def clearReserved (octets : Bytes) : Bytes := List.zipWith (· &&& ·) significant octets

/-- The fields at the start of a buffer, written again, are what stood there without the reserved
bits. -/
theorem encode_readFields {data : Bytes} (long : size ≤ data.length) :
    (readFields data).encode = clearReserved (data.take size) := by
  unfold size at long ⊢
  have kept (b : UInt8) : 0xff &&& b = b := UInt8.neg_one_and
  have word (k : Nat) (inside : k + 2 ≤ data.length) :
      ofLe16 (data.le16At k) = [data.byteAt k, data.byteAt (k + 1)] := by
    rw [ofLe16_le16At inside, slice_succ (by omega), slice_succ (by omega)]
    rfl
  have octets : data.take 24 = data.slice 0 24 := rfl
  simp (disch := omega) only [slice_succ] at octets
  rw [octets]
  simp (disch := omega) only [encode, readFields, word, UInt8.toUInt8_toInt8,
    RateInfo.toByte_ofByte]
  simp [clearReserved, significant, kept, slice]

/-! ### Reading what was written -/

/-- The fields of a descriptor that was written are read back, whatever stands behind it. -/
theorem readFields_encode (d : RxDescriptor) (rest : Bytes) :
    readFields (d.encode ++ rest) = d := by
  have pktLength : (d.encode ++ rest).le16At 2 = d.pktLength := ofNat_leNat_ofLe16 d.pktLength
  have pktOffset : (d.encode ++ rest).le16At 4 = d.pktOffset := ofNat_leNat_ofLe16 d.pktOffset
  have pktType : (d.encode ++ rest).le16At 6 = d.pktType := ofNat_leNat_ofLe16 d.pktType
  have seqNum : (d.encode ++ rest).le16At 8 = d.seqNum := ofNat_leNat_ofLe16 d.seqNum
  have snr : ((d.encode ++ rest).byteAt 12).toInt8 = d.snr := d.snr.toInt8_toUInt8
  have nf : ((d.encode ++ rest).byteAt 13).toInt8 = d.nf := d.nf.toInt8_toUInt8
  have rateInfo : RateInfo.ofByte ((d.encode ++ rest).byteAt 14) = d.rateInfo :=
    d.rateInfo.ofByte_toByte
  rw [readFields, pktLength, pktOffset, pktType, seqNum, snr, nf, rateInfo]
  rfl

/-- A descriptor in front of the padding and the payload that it announces is read back. -/
theorem decode_encode_append {d : RxDescriptor} {rest : Bytes} (behind : size ≤ d.pktOffset.toNat)
    (announced : rest.length = d.pktOffset.toNat - size + d.pktLength.toNat) :
    decode (d.encode ++ rest) = .ok d := by
  have length : (d.encode ++ rest).length = size + rest.length := by
    rw [List.length_append, length_encode, size]
  rw [decode_eq_ok_iff, readFields_encode, length]
  refine ⟨by omega, behind, ?_, rfl⟩
  unfold payloadEnd
  omega

/-- **The codec of receive descriptors.** A buffer is accepted just when it holds at least a
descriptor, the payload starts behind the descriptor, and offset and length add up to the buffer.
The payload of what was accepted lies in the buffer and ends with it, and writing the descriptor
again gives its octets with the reserved bits cleared. Any descriptor whose payload starts behind it
is read back from in front of as many octets as it announces. -/
theorem decode_inverse :
    (∀ data : Bytes,
      ((∃ d, decode data = .ok d) ↔
        size ≤ data.length ∧ size ≤ (data.le16At 4).toNat ∧
          (data.le16At 4).toNat + (data.le16At 2).toNat = data.length) ∧
      ∀ d, decode data = .ok d →
        d.payloadEnd = data.length ∧ d.payload? data = some (data.drop d.pktOffset.toNat) ∧
          d.encode = clearReserved (data.take size)) ∧
    ∀ (d : RxDescriptor) (rest : Bytes), size ≤ d.pktOffset.toNat →
      rest.length = d.pktOffset.toNat - size + d.pktLength.toNat →
        decode (d.encode ++ rest) = .ok d := by
  refine ⟨fun data => ⟨⟨?_, ?_⟩, ?_⟩, fun d rest => decode_encode_append⟩
  · rintro ⟨d, accepted⟩
    obtain ⟨long, behind, whole, rfl⟩ := decode_eq_ok_iff.1 accepted
    exact ⟨long, behind, whole⟩
  · rintro ⟨long, behind, whole⟩
    exact ⟨readFields data, decode_eq_ok_iff.2 ⟨long, behind, whole, rfl⟩⟩
  · intro d accepted
    have payload := payload?_of_decode accepted
    obtain ⟨long, -, whole, rfl⟩ := decode_eq_ok_iff.1 accepted
    exact ⟨whole, payload, encode_readFields long⟩

/-- A descriptor of thirty octets of payload behind two of padding, with every reserved bit set. -/
theorem decode_inverse_reserved :
    let head : Bytes := [1, 2, 30, 0, 26, 0, 3, 0, 0x34, 0x02, 5, 0x21, 40, 164, 0xda, 0xff, 0xff,
      0xff, 2, 1, 0xff, 0xff, 0xff, 0xff]
    let data := head ++ List.replicate 32 0
    ∃ d, decode data = .ok d ∧ d.payload? data = some (List.replicate 30 0) ∧
      d.encode = clearReserved head ∧ d.encode ≠ head ∧
      decode (d.encode ++ List.replicate 32 0) = .ok d := by
  intro head data
  obtain ⟨reads, writes⟩ := decode_inverse
  obtain ⟨accepts, accepted⟩ := reads data
  obtain ⟨d, decoded⟩ := accepts.2 (by decide)
  obtain ⟨-, payload, octets⟩ := accepted d decoded
  obtain ⟨-, -, -, fields⟩ := decode_eq_ok_iff.1 decoded
  subst fields
  refine ⟨_, decoded, payload, octets, ?_, writes _ _ (by decide) (by decide)⟩
  rw [octets]
  decide

end RxDescriptor

end Airlink
