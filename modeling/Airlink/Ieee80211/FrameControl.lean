import Airlink.Bytes

/-!
# The frame control field

The first sixteen bits of every 802.11 frame: two bits of type and four of subtype, and flags for
the direction of travel, for protection and for a further control field.
-/

namespace Airlink.Ieee80211

/-- The four frame types. -/
inductive FrameType where
  | management
  | control
  | data
  | extension
  deriving DecidableEq, Repr, Inhabited

namespace FrameType

/-- The type that the two lowest bits of a number name. -/
def ofBits (bits : UInt8) : FrameType :=
  if bits &&& 3 = 0 then .management
  else if bits &&& 3 = 1 then .control
  else if bits &&& 3 = 2 then .data
  else .extension

/-- The two bits that name a type. -/
def bits : FrameType → UInt16
  | .management => 0
  | .control => 1
  | .data => 2
  | .extension => 3

/-- The name of a type. -/
def name : FrameType → String
  | .management => "Management"
  | .control => "Control"
  | .data => "Data"
  | .extension => "Extension"

end FrameType

/-- A frame control field. -/
structure FrameControl where
  value : UInt16
  deriving DecidableEq, Repr, Inhabited

namespace FrameControl

/-- The frame is bound for the distribution system. -/
def toDsBit : UInt16 := 0x0100
/-- The frame comes from the distribution system. -/
def fromDsBit : UInt16 := 0x0200
/-- The frame body is encrypted. -/
def protectedBit : UInt16 := 0x4000
/-- An HT control field follows on frames that may carry one. -/
def orderBit : UInt16 := 0x8000

/-- The field with the given type and subtype and no flags. -/
def ofType (type : FrameType) (subtype : UInt8) : FrameControl :=
  ⟨(type.bits <<< 2) ||| ((subtype &&& 0x0f).toUInt16 <<< 4)⟩

/-- The field with further bits set. -/
def setBits (fc : FrameControl) (bits : UInt16) : FrameControl := ⟨fc.value ||| bits⟩

/-- The frame type. -/
def type (fc : FrameControl) : FrameType := .ofBits ((fc.value >>> 2) &&& 0x3).toUInt8

/-- The frame subtype. -/
def subtype (fc : FrameControl) : UInt8 := ((fc.value >>> 4) &&& 0xf).toUInt8

/-- Whether the frame is bound for the distribution system. -/
def toDs (fc : FrameControl) : Bool := fc.value &&& toDsBit != 0

/-- Whether the frame comes from the distribution system. -/
def fromDs (fc : FrameControl) : Bool := fc.value &&& fromDsBit != 0

/-- Whether the frame body is encrypted. -/
def isProtected (fc : FrameControl) : Bool := fc.value &&& protectedBit != 0

/-- Whether the order bit is set. -/
def hasOrder (fc : FrameControl) : Bool := fc.value &&& orderBit != 0

/-- Data subtypes with bit 3 set carry a QoS control field. -/
def isQosData (fc : FrameControl) : Bool := fc.type == .data && fc.subtype &&& 0x8 != 0

/-- Data subtypes with bit 2 set carry no body. -/
def isNullData (fc : FrameControl) : Bool := fc.type == .data && fc.subtype &&& 0x4 != 0

/-- The order bit announces an HT control field on QoS data and on management frames only. -/
def hasHtControl (fc : FrameControl) : Bool :=
  fc.hasOrder && (fc.isQosData || fc.type == .management)

end FrameControl

end Airlink.Ieee80211
