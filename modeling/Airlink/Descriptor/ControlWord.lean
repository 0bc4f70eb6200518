import Airlink.Bytes

/-!
# Transmit control words

Two 32-bit words of a transmit descriptor hold per-frame overrides in bit fields: power, retry
limit and rate in the first, bandwidth, channel and multi-channel cycle marks in the second. A
setter replaces its own field and raises the bit, if there is one, that says the field counts; it
leaves every other bit alone.
-/

namespace Airlink

/-- The control word for power, retries and rate. -/
structure TxControl where
  bits : UInt32
  deriving DecidableEq, Repr, Inhabited

namespace TxControl

/-- The power field. -/
def powerMask : UInt32 := 0x000000ff
/-- The retry limit field. -/
def retryMask : UInt32 := 0x00000f00
/-- The retry limit counts. -/
def retryOverride : UInt32 := 0x00001000
/-- The host and not firmware decides the power. -/
def hostPowerBit : UInt32 := 0x00002000
/-- The rate counts. -/
def rateOverride : UInt32 := 0x00008000
/-- The rate field. -/
def rateMask : UInt32 := 0x00ff0000

/-- Sets the power, and the host bit if the host decides it. The host bit is never cleared. -/
def withPower (w : TxControl) (dbm : Int8) (hostControlled : Bool) : TxControl :=
  let bits := (w.bits &&& ~~~powerMask) ||| dbm.toUInt8.toUInt32
  ⟨if hostControlled then bits ||| hostPowerBit else bits⟩

/-- Sets the retry limit, of which four bits are kept. -/
def withRetryLimit (w : TxControl) (limit : UInt8) : TxControl :=
  ⟨(w.bits &&& ~~~retryMask) ||| ((limit.toUInt32 <<< 8) &&& retryMask) ||| retryOverride⟩

/-- Sets the rate. -/
def withRate (w : TxControl) (rate : UInt8) : TxControl :=
  ⟨(w.bits &&& ~~~rateMask) ||| (rate.toUInt32 <<< 16) ||| rateOverride⟩

/-- The power field as a signed number. -/
def power (w : TxControl) : Int8 := (w.bits &&& powerMask).toUInt8.toInt8

/-- Whether the host decides the power. -/
def hostPower (w : TxControl) : Bool := w.bits &&& hostPowerBit != 0

/-- The retry limit, if it counts. -/
def retryLimit (w : TxControl) : Option UInt8 :=
  if w.bits &&& retryOverride != 0 then some ((w.bits &&& retryMask) >>> 8).toUInt8 else none

/-- The rate, if it counts. -/
def rate (w : TxControl) : Option UInt8 :=
  if w.bits &&& rateOverride != 0 then some ((w.bits &&& rateMask) >>> 16).toUInt8 else none

end TxControl

/-- The control word for bandwidth, channel and cycle marks. -/
structure TxChannelControl where
  bits : UInt32
  deriving DecidableEq, Repr, Inhabited

namespace TxChannelControl

/-- The bandwidth field. -/
def bandwidthMask : UInt32 := 0x00070000
/-- The bandwidth counts. -/
def bandwidthOverride : UInt32 := 0x00100000
/-- The channel field. -/
def channelMask : UInt32 := 0x1fe00000
/-- The frame opens a channel cycle. -/
def cycleStartBit : UInt32 := 0x20000000
/-- The frame closes a channel cycle. -/
def cycleEndBit : UInt32 := 0x40000000

/-- Sets the bandwidth, of which three bits are kept. -/
def withBandwidth (w : TxChannelControl) (bandwidth : UInt8) : TxChannelControl :=
  ⟨(w.bits &&& ~~~bandwidthMask) ||| ((bandwidth.toUInt32 <<< 16) &&& bandwidthMask)
    ||| bandwidthOverride⟩

/-- Sets the channel. -/
def withChannel (w : TxChannelControl) (channel : UInt8) : TxChannelControl :=
  ⟨(w.bits &&& ~~~channelMask) ||| (channel.toUInt32 <<< 21)⟩

/-- Raises cycle marks; none is ever cleared. -/
def withCycleMarks (w : TxChannelControl) (start end_ : Bool) : TxChannelControl :=
  ⟨w.bits ||| (if start then cycleStartBit else 0) ||| (if end_ then cycleEndBit else 0)⟩

/-- The bandwidth, if it counts. -/
def bandwidth (w : TxChannelControl) : Option UInt8 :=
  if w.bits &&& bandwidthOverride != 0 then some ((w.bits &&& bandwidthMask) >>> 16).toUInt8
  else none

/-- The channel. -/
def channel (w : TxChannelControl) : UInt8 := ((w.bits &&& channelMask) >>> 21).toUInt8

/-- Whether the frame opens a channel cycle. -/
def cycleStart (w : TxChannelControl) : Bool := w.bits &&& cycleStartBit != 0

/-- Whether the frame closes a channel cycle. -/
def cycleEnd (w : TxChannelControl) : Bool := w.bits &&& cycleEndBit != 0

end TxChannelControl

end Airlink
