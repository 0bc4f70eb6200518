import Airlink.Bytes

/-!
# LLC/SNAP headers

Eight octets in front of a network-layer packet: an organization prefix of six and an ethertype.
Two prefixes are in use, one for ordinary ethertypes and one for bridge tunnelling of AppleTalk ARP
and IPX. `Snap.parse?` recognizes exactly what `Snap.encode` writes.
-/

namespace Airlink

namespace EtherType

/-- Internet Protocol, version 4. -/
def ipv4 : UInt16 := 0x0800
/-- Address resolution. -/
def arp : UInt16 := 0x0806
/-- AppleTalk address resolution. -/
def appleTalkArp : UInt16 := 0x80f3
/-- Internetwork Packet Exchange. -/
def ipx : UInt16 := 0x8137
/-- Internet Protocol, version 6. -/
def ipv6 : UInt16 := 0x86dd
/-- Encapsulated 802.11 action frames, which carry direct-link setup. -/
def dot11Encap : UInt16 := 0x890d

/-- The ethertypes that bridges tunnel under a prefix of their own. -/
def isTunnelled (type : UInt16) : Bool := type == appleTalkArp || type == ipx

end EtherType

/-- The two organization prefixes. -/
inductive SnapKind where
  | rfc1042
  | bridgeTunnel
  deriving DecidableEq, Repr, Inhabited

namespace SnapKind

/-- The six octets of a prefix. -/
def octets : SnapKind → Bytes
  | .rfc1042 => [0xaa, 0xaa, 0x03, 0x00, 0x00, 0x00]
  | .bridgeTunnel => [0xaa, 0xaa, 0x03, 0x00, 0x00, 0xf8]

/-- The prefix an encapsulator picks for an ethertype. -/
def forEtherType (type : UInt16) : SnapKind :=
  if EtherType.isTunnelled type then .bridgeTunnel else .rfc1042

end SnapKind

/-- A recognized LLC/SNAP header. -/
structure Snap where
  kind : SnapKind
  etherType : UInt16
  deriving DecidableEq, Repr, Inhabited

namespace Snap

/-- The octets of a header. -/
def size : Nat := 8

/-- The header an encapsulator writes for an ethertype. -/
def ofEtherType (type : UInt16) : Snap := ⟨.forEtherType type, type⟩

/-- The octets of a header: prefix, then ethertype with the high octet first. -/
def encode (s : Snap) : Bytes := s.kind.octets ++ Bytes.ofBe16 s.etherType

/-- Recognizes a header at the start of a packet. -/
def parse? (data : Bytes) : Option Snap :=
  if data.length < size then none
  else if data.take 6 = SnapKind.rfc1042.octets then some ⟨.rfc1042, data.be16At 6⟩
  else if data.take 6 = SnapKind.bridgeTunnel.octets then some ⟨.bridgeTunnel, data.be16At 6⟩
  else none

/-- Whether the header may be dropped for a bare ethertype. Tunnelled ethertypes under the ordinary
prefix keep theirs, since it could not be restored. -/
def convertsToEthernet (s : Snap) : Bool :=
  match s.kind with
  | .bridgeTunnel => true
  | .rfc1042 => !EtherType.isTunnelled s.etherType

end Snap

end Airlink
