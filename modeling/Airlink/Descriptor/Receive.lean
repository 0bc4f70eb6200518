import Airlink.Descriptor.FrameClass
import Airlink.Error
import Airlink.Phy

/-!
# Receive descriptors

Firmware puts twenty-four octets in front of every frame it delivers: whose frame it is, where the
payload starts and how long it is, its class, and how it was received. Seven of the octets are
reserved. `RxDescriptor.decode` accepts a descriptor only if offset and length together account for
every octet of the buffer.
-/

namespace Airlink

/-- A receive descriptor. -/
structure RxDescriptor where
  bssType : UInt8
  bssNum : UInt8
  pktLength : UInt16
  /-- Where the payload starts, counted from the start of the descriptor. -/
  pktOffset : UInt16
  pktType : UInt16
  seqNum : UInt16
  priority : UInt8
  rxRate : UInt8
  snr : Int8
  /-- Noise floor. -/
  nf : Int8
  rateInfo : RateInfo
  flags : UInt8
  antenna : UInt8
  deriving DecidableEq, Repr, Inhabited

namespace RxDescriptor

/-- The octets of a descriptor. -/
def size : Nat := 24

/-- The fault of a buffer that is shorter than a descriptor. -/
def tooShort (have_ size : Nat) : Error :=
  .malformedDescriptor s!"{have_} bytes cannot hold a {size} byte descriptor"

/-- Reads the fields at the start of a buffer, whatever they say. -/
def readFields (data : Bytes) : RxDescriptor where
  bssType := data.byteAt 0
  bssNum := data.byteAt 1
  pktLength := data.le16At 2
  pktOffset := data.le16At 4
  pktType := data.le16At 6
  seqNum := data.le16At 8
  priority := data.byteAt 10
  rxRate := data.byteAt 11
  snr := (data.byteAt 12).toInt8
  nf := (data.byteAt 13).toInt8
  rateInfo := .ofByte (data.byteAt 14)
  flags := data.byteAt 18
  antenna := data.byteAt 19

/-- Reads the descriptor of a buffer that holds exactly descriptor, padding and payload. -/
def decode (data : Bytes) : Except Error RxDescriptor :=
  let d := readFields data
  if data.length < size then .error (tooShort data.length size)
  else if d.pktOffset.toNat < size then
    .error (.malformedDescriptor s!"payload offset {d.pktOffset.toNat} overlaps the descriptor")
  else if d.pktOffset.toNat + d.pktLength.toNat ≠ data.length then
    .error (.malformedDescriptor
      (s!"offset {d.pktOffset.toNat} + length {d.pktLength.toNat} " ++
        s!"!= buffer length {data.length}"))
  else .ok d

/-- The octets of a descriptor; the reserved ones are zero. -/
def encode (d : RxDescriptor) : Bytes :=
  [d.bssType, d.bssNum] ++ Bytes.ofLe16 d.pktLength ++ Bytes.ofLe16 d.pktOffset
    ++ Bytes.ofLe16 d.pktType ++ Bytes.ofLe16 d.seqNum
    ++ [d.priority, d.rxRate, d.snr.toUInt8, d.nf.toUInt8, d.rateInfo.toByte, 0, 0, 0, d.flags,
      d.antenna, 0, 0, 0, 0]

@[simp] theorem length_encode (d : RxDescriptor) : d.encode.length = 24 := by
  simp [encode]

/-- The class of the frame, if its code names one. -/
def frameClass (d : RxDescriptor) : Option FrameClass := FrameClass.ofCode? d.pktType

/-- Whether an extra header stands between descriptor and payload. -/
def hasExtraHeader (d : RxDescriptor) : Bool := d.flags &&& 0x02 != 0

/-- Where the payload ends, counted from the start of the descriptor. -/
def payloadEnd (d : RxDescriptor) : Nat := d.pktOffset.toNat + d.pktLength.toNat

/-- The payload that a descriptor declares, if the buffer holds all of it. -/
def payload? (d : RxDescriptor) (data : Bytes) : Option Bytes :=
  data.slice? d.pktOffset.toNat d.pktLength.toNat

/-- The descriptor of one part of a split aggregate, whose buffer starts with the payload. The
length field keeps the sixteen lowest bits of `size`. -/
def forSubframe (d : RxDescriptor) (size : Nat) : RxDescriptor :=
  { d with pktOffset := 0, pktLength := UInt16.ofNat size, pktType := FrameClass.data.code }

/-- The sum of two signed octets, held at the ends of their range. -/
def saturatingAdd (a b : Int8) : Int8 :=
  Int8.ofInt (max (-128) (min 127 (a.toInt + b.toInt)))

/-- What the descriptor says about the reception of its frame. Beyond HT the rate octet holds the
modulation index and, above it, the number of streams less one. -/
def reception (d : RxDescriptor) : Reception :=
  let r := d.rateInfo
  { format := r.format
    legacyRate := if r.format = .legacy then legacyRate? d.rxRate else none
    mcs := match r.format with
      | .legacy => 0
      | .ht => d.rxRate
      | .vht | .he => d.rxRate &&& 0x0f
    nss := match r.format with
      | .legacy | .ht => 1
      | .vht | .he => (d.rxRate >>> 4) + 1
    bandwidth := r.bandwidth
    shortGi := r.shortGi
    stbc := r.stbc
    ldpc := r.ldpc
    signalDbm := saturatingAdd d.nf d.snr
    noiseDbm := d.nf
    antenna := d.antenna
    channelFreq := none }

end RxDescriptor

end Airlink
