import Airlink.HwAddr
import Airlink.Ieee80211.Error
import Airlink.Ieee80211.FrameControl

/-!
# The 802.11 frame header

Twenty-four octets for every frame with an addressable body, then up to three optional fields in
this order: a fourth address when both distribution-system bits are set, the QoS control field and
the HT control field. `Header.parse` reads a header from the start of a frame; the offset of each
optional field is the length of what stands before it.
-/

namespace Airlink.Ieee80211

/-- Octets of a header with three addresses and nothing optional. -/
def baseHeaderSize : Nat := 24

/-- A frame header. -/
structure Header where
  frameControl : FrameControl
  duration : UInt16
  addr1 : HwAddr
  addr2 : HwAddr
  addr3 : HwAddr
  addr4 : Option HwAddr
  seqCtrl : UInt16
  qosCtrl : Option UInt16
  htCtrl : Option UInt32
  /-- The octets the header takes, which is where the frame body starts. -/
  size : Nat
  deriving DecidableEq, Repr

namespace Header

/-- Fails unless a frame holds `size` octets of header. -/
def require (data : Bytes) (size : Nat) : Except Error Unit :=
  if data.length < size then .error (.truncated "802.11 header" size data.length) else .ok ()

/-- An optional field of `width` octets behind the `size` octets read so far: the field, if it is
announced, and the length up to its end. -/
def optionalField (announced : Bool) (data : Bytes) (size width : Nat) (read : Nat → α) :
    Except Error (Option α × Nat) :=
  if announced then do
    require data (size + width)
    return (some (read size), size + width)
  else
    return (none, size)

/-- Reads the header at the start of a frame. Control frames have none that could be read. -/
def parse (data : Bytes) : Except Error Header := do
  require data baseHeaderSize
  let fc : FrameControl := ⟨data.le16At 0⟩
  if fc.type = .control then
    throw (.invalidHeader "control frames carry no addressable body")
  let (addr4, size) ←
    optionalField (fc.toDs && fc.fromDs) data baseHeaderSize 6 (HwAddr.ofSlice data)
  let (qosCtrl, size) ← optionalField fc.isQosData data size 2 data.le16At
  let (htCtrl, size) ← optionalField fc.hasHtControl data size 4 data.le32At
  return {
    frameControl := fc
    duration := data.le16At 2
    addr1 := HwAddr.ofSlice data 4
    addr2 := HwAddr.ofSlice data 10
    addr3 := HwAddr.ofSlice data 16
    addr4
    seqCtrl := data.le16At 22
    qosCtrl
    htCtrl
    size
  }

/-- The station the frame is for in the end. -/
def destination (h : Header) : HwAddr := if h.frameControl.toDs then h.addr3 else h.addr1

/-- The station the frame comes from in the beginning. -/
def source (h : Header) : HwAddr :=
  match h.frameControl.toDs, h.frameControl.fromDs with
  | _, false => h.addr2
  | false, true => h.addr3
  | true, true => h.addr4.getD h.addr2

/-- The station that sent the frame over the air. -/
def transmitter (h : Header) : HwAddr := h.addr2

/-- The sequence number: the upper twelve bits of sequence control. -/
def sequence (h : Header) : UInt16 := h.seqCtrl >>> 4

/-- The fragment number: the lower four bits of sequence control. -/
def fragment (h : Header) : UInt8 := (h.seqCtrl &&& 0xf).toUInt8

/-- The traffic identifier, zero without a QoS control field. -/
def trafficId (h : Header) : UInt8 := h.qosCtrl.elim 0 fun qos => (qos &&& 0x0f).toUInt8

/-- Whether the body is an aggregate of several frames. -/
def isAggregate (h : Header) : Bool := h.qosCtrl.elim false fun qos => qos &&& 0x0080 != 0

/-- One line that describes the header. -/
def describe (h : Header) : String :=
  let fc := h.frameControl
  s!"802.11 {fc.type.name} frame (subtype={fc.subtype.toNat}), hdr_len={h.size}, " ++
    s!"sa={h.source.format}, da={h.destination.format}"

end Header

end Airlink.Ieee80211
