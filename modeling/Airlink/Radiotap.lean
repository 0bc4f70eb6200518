import Airlink.Ieee80211.Error
import Airlink.Phy

/-!
# Radiotap headers

A radiotap header stands in front of a captured 802.11 frame and says how it was received. Eight
fixed octets hold a version, the length of the header and a word of presence bits; behind them
stand the announced fields in the order of their bits, each aligned to its own size from the start
of the header.

`Radiotap.ofReception` builds the header of a received frame, `Radiotap.encode` writes a header and
`Radiotap.parse` reads one. `encode` goes by the fields that are there and writes the presence word
as it stands; `parse` goes by the presence word.
-/

namespace Airlink

namespace Radiotap

/-! ## Presence bits and flag bits -/

/-- A timestamp of eight octets. -/
def timestampBit : UInt32 := 0x1
/-- One octet of frame flags. -/
def flagsBit : UInt32 := 0x2
/-- One octet of legacy rate. -/
def rateBit : UInt32 := 0x4
/-- Two words: channel frequency and channel flags. -/
def channelBit : UInt32 := 0x8
/-- One octet of signal strength. -/
def signalBit : UInt32 := 0x20
/-- One octet of noise strength. -/
def noiseBit : UInt32 := 0x40
/-- One octet of antenna index. -/
def antennaBit : UInt32 := 0x800
/-- Three octets of HT modulation. -/
def mcsBit : UInt32 := 0x80000
/-- Twelve octets of VHT modulation. -/
def vhtBit : UInt32 := 0x200000
/-- A further presence word follows. -/
def extensionBit : UInt32 := 0x80000000

/-- The octets in front of the first field. -/
def fixedSize : Nat := 8

/-- The three octets that describe an HT modulation. -/
structure Mcs where
  known : UInt8
  flags : UInt8
  index : UInt8
  deriving DecidableEq, Repr, Inhabited

/-- The twelve octets that describe a VHT modulation. -/
structure Vht where
  known : UInt16
  flags : UInt8
  bandwidth : UInt8
  user0 : UInt8
  user1 : UInt8
  user2 : UInt8
  user3 : UInt8
  coding : UInt8
  groupId : UInt8
  partialAid : UInt16
  deriving DecidableEq, Repr, Inhabited

end Radiotap

/-- A radiotap header with the fields that this library writes and reads. -/
structure Radiotap where
  version : UInt8
  length : UInt16
  present : UInt32
  timestamp : Option UInt64
  flags : Option UInt8
  rate : Option UInt8
  channelFreq : Option UInt16
  channelFlags : Option UInt16
  signal : Option Int8
  noise : Option Int8
  antenna : Option UInt8
  mcs : Option Radiotap.Mcs
  vht : Option Radiotap.Vht
  deriving DecidableEq, Repr, Inhabited

namespace Radiotap

/-! ## Building -/

/-- The presence word of the fields that a header has. -/
def presence (h : Radiotap) : UInt32 :=
  let bit (b : Bool) (word : UInt32) : UInt32 := if b then word else 0
  bit h.timestamp.isSome timestampBit ||| bit h.flags.isSome flagsBit
    ||| bit h.rate.isSome rateBit ||| bit h.channelFreq.isSome channelBit
    ||| bit h.signal.isSome signalBit ||| bit h.noise.isSome noiseBit
    ||| bit h.antenna.isSome antennaBit ||| bit h.mcs.isSome mcsBit
    ||| bit h.vht.isSome vhtBit

/-- The HT field of a reception: width, index, guard interval, coding and STBC are known. -/
def Mcs.ofReception (r : Reception) : Mcs where
  known := 0x01 ||| 0x02 ||| 0x04 ||| 0x10 ||| 0x20
  flags :=
    (if r.bandwidth = .bw20 then 0 else 1) ||| (if r.shortGi then 0x04 else 0)
      ||| (if r.ldpc then 0x10 else 0) ||| (if r.stbc then 0x20 else 0)
  index := r.mcs

/-- The radiotap code of a channel width in the VHT field. -/
def Vht.widthCode : Bandwidth → UInt8
  | .bw20 => 0
  | .bw40 => 1
  | .bw80 => 4
  | .bw160 => 11

/-- The VHT field of a reception by one user: STBC, guard interval and width are known. -/
def Vht.ofReception (r : Reception) : Vht where
  known := 0x0001 ||| 0x0004 ||| 0x0040
  flags := (if r.stbc then 0x01 else 0) ||| (if r.shortGi then 0x04 else 0)
  bandwidth := widthCode r.bandwidth
  user0 := (r.mcs <<< 4) ||| ((if r.nss = 0 then 1 else r.nss) &&& 0x0f)
  user1 := 0
  user2 := 0
  user3 := 0
  coding := if r.ldpc then 0x01 else 0
  groupId := 0
  partialAid := 0

/-- The channel flags of a reception: the band by the frequency, CCK for the four slowest legacy
rates and OFDM for all else. -/
def channelFlagsOf (freq : UInt16) (rate : Option UInt8) : UInt16 :=
  (if freq < 4000 then 0x0080 else 0x0100)
    ||| (if rate.any (· ≤ 22) then 0x0020 else 0x0040)

/-- The header that describes a reception. Its length is filled in on writing. -/
def ofReception (r : Reception) : Radiotap :=
  let rate := if r.format = .legacy then r.legacyRate else none
  let header : Radiotap := {
    version := 0
    length := 0
    present := 0
    timestamp := none
    flags := some (if r.shortGi then 0x80 else 0)
    rate
    channelFreq := r.channelFreq
    channelFlags := r.channelFreq.map fun freq => channelFlagsOf freq rate
    signal := some r.signalDbm
    noise := some r.noiseDbm
    antenna := some r.antenna
    mcs := if r.format = .ht then some (.ofReception r) else none
    vht := if r.format = .vht ∨ r.format = .he then some (.ofReception r) else none
  }
  { header with present := header.presence }

/-! ## Writing -/

/-- The octets of an HT field. -/
def Mcs.encode (m : Mcs) : Bytes := [m.known, m.flags, m.index]

/-- The octets of a VHT field. -/
def Vht.encode (v : Vht) : Bytes :=
  Bytes.ofLe16 v.known ++ [v.flags, v.bandwidth, v.user0, v.user1, v.user2, v.user3, v.coding,
    v.groupId] ++ Bytes.ofLe16 v.partialAid

/-- The alignment and the octets of every field that a header has, in the order of the bits. -/
def fields (h : Radiotap) : List (Nat × Bytes) :=
  (h.timestamp.map fun v => (8, Bytes.ofLe64 v)).toList
    ++ (h.flags.map fun v => (1, [v])).toList
    ++ (h.rate.map fun v => (1, [v])).toList
    ++ (h.channelFreq.map fun v =>
        (2, Bytes.ofLe16 v ++ Bytes.ofLe16 (h.channelFlags.getD 0))).toList
    ++ (h.signal.map fun v => (1, [v.toUInt8])).toList
    ++ (h.noise.map fun v => (1, [v.toUInt8])).toList
    ++ (h.antenna.map fun v => (1, [v])).toList
    ++ (h.mcs.map fun v => (1, v.encode)).toList
    ++ (h.vht.map fun v => (2, v.encode)).toList

/-- The next multiple of `align` from `pos` on. -/
def alignUp (pos align : Nat) : Nat := (pos + align - 1) / align * align

/-- Fields laid out from position `pos` on, with zeros up to the alignment of each. -/
def layOut : Nat → List (Nat × Bytes) → Bytes
  | _, [] => []
  | pos, (align, field) :: rest =>
    let start := alignUp pos align
    List.replicate (start - pos) 0 ++ field ++ layOut (start + field.length) rest

/-- The octets of a header, with its true length in the length field. -/
def encode (h : Radiotap) : Bytes :=
  let body := layOut fixedSize h.fields
  [h.version, 0] ++ Bytes.leBytes 2 (fixedSize + body.length) ++ Bytes.ofLe32 h.present ++ body

/-- A captured frame behind the header that describes its reception. -/
def prefixed (r : Reception) (frame : Bytes) : Bytes := (ofReception r).encode ++ frame

/-! ## Reading -/

/-- Reads fields one after the other; the state is the position behind the last. -/
abbrev FieldReader := StateT Nat (Except Ieee80211.Error)

/-- The next `width` octets of a header, aligned to `align`. -/
def field (header : Bytes) (what : String) (width align : Nat) : FieldReader Bytes := fun pos =>
  let start := alignUp pos align
  if start + width > header.length then
    .error (.truncated what (start + width) header.length)
  else
    .ok (header.slice start width, start + width)

/-- The next octet of a header. -/
def octet (header : Bytes) (what : String) : FieldReader UInt8 :=
  return (← field header what 1 1).byteAt 0

/-- The next octet of a header as a signed number. -/
def signedOctet (header : Bytes) (what : String) : FieldReader Int8 :=
  return (← octet header what).toInt8

/-- The next word of two octets, aligned to two. -/
def word16 (header : Bytes) (what : String) : FieldReader UInt16 :=
  return (← field header what 2 2).le16At 0

/-- The next word of eight octets, aligned to eight. -/
def word64 (header : Bytes) (what : String) : FieldReader UInt64 :=
  return (← field header what 8 8).le64At 0

/-- The next HT field. -/
def Mcs.read (header : Bytes) : FieldReader Mcs := do
  let known ← octet header "mcs"
  let flags ← octet header "mcs"
  let index ← octet header "mcs"
  return { known, flags, index }

/-- The next VHT field. -/
def Vht.read (header : Bytes) : FieldReader Vht := do
  let known ← word16 header "vht"
  let flags ← octet header "vht"
  let bandwidth ← octet header "vht"
  let user0 ← octet header "vht"
  let user1 ← octet header "vht"
  let user2 ← octet header "vht"
  let user3 ← octet header "vht"
  let coding ← octet header "vht"
  let groupId ← octet header "vht"
  let partialAid ← word16 header "vht"
  return { known, flags, bandwidth, user0, user1, user2, user3, coding, groupId, partialAid }

/-- A field that is read if its presence bit is set. -/
def ifPresent (present bit : UInt32) (read : FieldReader α) : FieldReader (Option α) :=
  if present &&& bit != 0 then some <$> read else pure none

/-- Reads the announced fields of a header, given whole. -/
def readFields (header : Bytes) (base : Radiotap) : FieldReader Radiotap := do
  let announced {α : Type} (bit : UInt32) (read : FieldReader α) := ifPresent base.present bit read
  let timestamp ← announced timestampBit (word64 header "timestamp")
  let flags ← announced flagsBit (octet header "flags")
  let rate ← announced rateBit (octet header "rate")
  let channelFreq ← announced channelBit (word16 header "channel")
  let channelFlags ← announced channelBit (word16 header "channel")
  let signal ← announced signalBit (signedOctet header "antenna signal")
  let noise ← announced noiseBit (signedOctet header "antenna noise")
  let antenna ← announced antennaBit (octet header "antenna")
  let mcs ← announced mcsBit (Mcs.read header)
  let vht ← announced vhtBit (Vht.read header)
  return { base with
    timestamp, flags, rate, channelFreq, channelFlags, signal, noise, antenna, mcs, vht }

/-- Reads the header at the start of a captured frame and gives its length too. -/
def parse (data : Bytes) : Except Ieee80211.Error (Radiotap × Nat) := do
  if data.length < fixedSize then
    throw (.radiotap "header too short")
  let length := data.le16At 2
  let present := data.le32At 4
  if length.toNat < fixedSize || data.length < length.toNat then
    throw (.radiotap "incomplete header")
  if present &&& extensionBit != 0 then
    throw (.radiotap "extended present bitmaps are not supported")
  let base : Radiotap := {
    version := data.byteAt 0
    length
    present
    timestamp := none
    flags := none
    rate := none
    channelFreq := none
    channelFlags := none
    signal := none
    noise := none
    antenna := none
    mcs := none
    vht := none
  }
  let (header, _) ← (readFields (data.take length.toNat) base).run fixedSize
  return (header, length.toNat)

end Radiotap

end Airlink
