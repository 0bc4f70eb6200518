import Airlink.Bytes

/-!
# Modulation and reception

How a frame travelled over the air: its modulation family, the channel width, and what the receiver
measured. The descriptor packs the first five facts into one octet (`RateInfo`).
-/

namespace Airlink

/-- Modulation families. -/
inductive PhyFormat where
  | legacy
  | ht
  | vht
  | he
  deriving DecidableEq, Repr, Inhabited

namespace PhyFormat

/-- The family that the two lowest bits of an octet name. -/
def ofBits (bits : UInt8) : PhyFormat :=
  if bits &&& 3 = 0 then .legacy
  else if bits &&& 3 = 1 then .ht
  else if bits &&& 3 = 2 then .vht
  else .he

/-- The two bits that name a family. -/
def bits : PhyFormat → UInt8
  | .legacy => 0
  | .ht => 1
  | .vht => 2
  | .he => 3

/-- The name of a family. -/
def name : PhyFormat → String
  | .legacy => "Legacy"
  | .ht => "Ht"
  | .vht => "Vht"
  | .he => "He"

end PhyFormat

/-- Channel widths. -/
inductive Bandwidth where
  | bw20
  | bw40
  | bw80
  | bw160
  deriving DecidableEq, Repr, Inhabited

namespace Bandwidth

/-- The width that the two lowest bits of an octet name. -/
def ofBits (bits : UInt8) : Bandwidth :=
  if bits &&& 3 = 0 then .bw20
  else if bits &&& 3 = 1 then .bw40
  else if bits &&& 3 = 2 then .bw80
  else .bw160

/-- The two bits that name a width. -/
def bits : Bandwidth → UInt8
  | .bw20 => 0
  | .bw40 => 1
  | .bw80 => 2
  | .bw160 => 3

/-- The name of a width. -/
def name : Bandwidth → String
  | .bw20 => "Bw20"
  | .bw40 => "Bw40"
  | .bw80 => "Bw80"
  | .bw160 => "Bw160"

end Bandwidth

/-- The modulation facts that share one octet. -/
structure RateInfo where
  format : PhyFormat
  bandwidth : Bandwidth
  shortGi : Bool
  stbc : Bool
  ldpc : Bool
  deriving DecidableEq, Repr, Inhabited

namespace RateInfo

/-- Unpacks an octet; its highest bit says nothing. -/
def ofByte (byte : UInt8) : RateInfo where
  format := .ofBits byte
  bandwidth := .ofBits (byte >>> 2)
  shortGi := byte &&& 0x10 != 0
  stbc := byte &&& 0x20 != 0
  ldpc := byte &&& 0x40 != 0

/-- Packs the facts into an octet whose highest bit is clear. -/
def toByte (r : RateInfo) : UInt8 :=
  r.format.bits ||| (r.bandwidth.bits <<< 2)
    ||| (if r.shortGi then 0x10 else 0)
    ||| (if r.stbc then 0x20 else 0)
    ||| (if r.ldpc then 0x40 else 0)

end RateInfo

/-- Rates of the legacy family in units of 500 kbit/s, by their index. Index four names none. -/
def legacyRates : List UInt8 := [2, 4, 11, 22, 0, 12, 18, 24, 36, 48, 72, 96, 108]

/-- The rate of a legacy index in units of 500 kbit/s. -/
def legacyRate? (index : UInt8) : Option UInt8 :=
  legacyRates[index.toNat]?.filter (· != 0)

/-- What is known about the reception of a frame. -/
structure Reception where
  format : PhyFormat
  /-- In units of 500 kbit/s, for the legacy family. -/
  legacyRate : Option UInt8
  mcs : UInt8
  /-- Spatial streams. -/
  nss : UInt8
  bandwidth : Bandwidth
  shortGi : Bool
  stbc : Bool
  ldpc : Bool
  signalDbm : Int8
  noiseDbm : Int8
  antenna : UInt8
  /-- In MHz. -/
  channelFreq : Option UInt16
  deriving DecidableEq, Repr, Inhabited

end Airlink
