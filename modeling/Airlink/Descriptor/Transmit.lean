import Airlink.Buffer
import Airlink.Descriptor.ControlWord
import Airlink.Descriptor.Receive

/-!
# Transmit descriptors

Twenty-four octets in front of every frame that goes to firmware. What the host asks for a single
frame (`TransmitHints`) is folded into the two control words and the flags. Four of the octets are
reserved.
-/

namespace Airlink

/-- A transmit power that the host asks for. -/
structure TxPower where
  dbm : Int8
  /-- The host and not firmware decides the power. -/
  hostControlled : Bool
  deriving DecidableEq, Repr, Inhabited

/-- What the host asks for one frame. -/
structure TransmitHints where
  rate : Option UInt8
  power : Option TxPower
  retryLimit : Option UInt8
  bandwidth : Option UInt8
  channel : Option UInt8
  cycleStart : Bool
  cycleEnd : Bool
  /-- Firmware is to report how the transmission ended. -/
  reportStatus : Bool
  /-- Names the frame in the status report. -/
  statusToken : Option UInt8
  deriving DecidableEq, Repr, Inhabited

/-- Nothing asked for. -/
def TransmitHints.none : TransmitHints where
  rate := .none
  power := .none
  retryLimit := .none
  bandwidth := .none
  channel := .none
  cycleStart := false
  cycleEnd := false
  reportStatus := false
  statusToken := .none

/-- A transmit descriptor. -/
structure TxDescriptor where
  bssType : UInt8
  bssNum : UInt8
  pktLength : UInt16
  pktOffset : UInt16
  pktType : UInt16
  control : TxControl
  priority : UInt8
  flags : UInt8
  /-- Time spent waiting, in units of two milliseconds. -/
  pktDelay2ms : UInt8
  tokenId : UInt8
  channelControl : TxChannelControl
  deriving DecidableEq, Repr, Inhabited

namespace TxDescriptor

/-- The octets of a descriptor. -/
def size : Nat := 24

/-- The longest frame, descriptor included, that the bus takes. -/
def maxFrame : Nat := 2048

/-- The longest payload that fits behind a descriptor. -/
def maxPayload : Nat := maxFrame - size

/-- Firmware is to report how the transmission ended. -/
def statusFlag : UInt8 := 0x20

/-- A plain descriptor for a payload of `length` octets. -/
def plain (bssType bssNum : UInt8) (length : UInt16) : TxDescriptor where
  bssType
  bssNum
  pktLength := length
  pktOffset := UInt16.ofNat size
  pktType := 0
  control := ⟨0⟩
  priority := 0
  flags := 0
  pktDelay2ms := 0
  tokenId := 0
  channelControl := ⟨0⟩

/-- The first control word with what the hints ask of it. -/
def hintedControl (w : TxControl) (hints : TransmitHints) : TxControl :=
  let w := hints.rate.elim w w.withRate
  let w := hints.power.elim w fun p => w.withPower p.dbm p.hostControlled
  hints.retryLimit.elim w w.withRetryLimit

/-- The second control word with what the hints ask of it. -/
def hintedChannelControl (w : TxChannelControl) (hints : TransmitHints) : TxChannelControl :=
  let w := hints.bandwidth.elim w w.withBandwidth
  let w := hints.channel.elim w w.withChannel
  w.withCycleMarks hints.cycleStart hints.cycleEnd

/-- The descriptor with the hints folded in. The token counts only with a status report. -/
def applyHints (d : TxDescriptor) (hints : TransmitHints) : TxDescriptor :=
  { d with
    control := hintedControl d.control hints
    channelControl := hintedChannelControl d.channelControl hints
    flags := if hints.reportStatus then d.flags ||| statusFlag else d.flags
    tokenId := if hints.reportStatus then hints.statusToken.getD 0 else d.tokenId }

/-- The octets of a descriptor; the reserved ones are zero. -/
def encode (d : TxDescriptor) : Bytes :=
  [d.bssType, d.bssNum] ++ Bytes.ofLe16 d.pktLength ++ Bytes.ofLe16 d.pktOffset
    ++ Bytes.ofLe16 d.pktType ++ Bytes.ofLe32 d.control.bits
    ++ [d.priority, d.flags, d.pktDelay2ms, 0, 0, d.tokenId, 0, 0]
    ++ Bytes.ofLe32 d.channelControl.bits

@[simp] theorem length_encode (d : TxDescriptor) : d.encode.length = 24 := by
  simp [encode]

/-- Reads the descriptor at the start of a buffer. -/
def decode (data : Bytes) : Except Error TxDescriptor :=
  if data.length < size then .error (RxDescriptor.tooShort data.length size)
  else .ok {
    bssType := data.byteAt 0
    bssNum := data.byteAt 1
    pktLength := data.le16At 2
    pktOffset := data.le16At 4
    pktType := data.le16At 6
    control := ⟨data.le32At 8⟩
    priority := data.byteAt 12
    flags := data.byteAt 13
    pktDelay2ms := data.byteAt 14
    tokenId := data.byteAt 17
    channelControl := ⟨data.le32At 20⟩
  }

/-- Whether firmware is to report how the transmission ended. -/
def reportsStatus (d : TxDescriptor) : Bool := d.flags &&& statusFlag != 0

/-- The frame class that a transmit descriptor carries for a buffer. -/
def classOf (flags : BufferFlags) : FrameClass :=
  if flags.has BufferFlags.rawPassthrough then .raw80211 else .data

end TxDescriptor

end Airlink
