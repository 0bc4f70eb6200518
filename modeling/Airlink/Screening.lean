import Airlink.Outcome
import Airlink.Snap
import Airlink.Tdls

/-!
# Screening of packets

Network-layer packets are looked at before they are routed. Two kinds can be dropped, since an
attacker may use them to take over an address: gratuitous address resolution and neighbour
advertisements that nobody asked for. A third kind, direct-link setup, is taken note of.
-/

namespace Airlink

namespace Screening

/-- The octets of an address resolution packet for IPv4. -/
def arpSize : Nat := 28

/-- A request or reply of address resolution whose sender and target addresses are equal. -/
def isGratuitousArp (packet : Bytes) : Bool :=
  arpSize ≤ packet.length
    && (packet.be16At 6 == 1 || packet.be16At 6 == 2)
    && packet.slice 14 4 == packet.slice 24 4

/-- The octets of an IPv6 header. -/
def ipv6Size : Nat := 40

/-- The next-header value of ICMPv6. -/
def icmpv6 : UInt8 := 58

/-- The ICMPv6 type of a neighbour advertisement. -/
def neighborAdvert : UInt8 := 136

/-- The flag of an advertisement that answers a solicitation. -/
def solicited : UInt8 := 0x40

/-- A neighbour advertisement whose solicited flag is clear. -/
def isUnsolicitedAdvert (packet : Bytes) : Bool :=
  ipv6Size + 4 < packet.length
    && packet.byteAt 6 == icmpv6
    && packet.byteAt ipv6Size == neighborAdvert
    && packet.byteAt (ipv6Size + 4) &&& solicited == 0

/-- What the look at a packet came to. -/
inductive Verdict where
  | pass
  | drop (reason : DropReason)
  /-- The packet passes and is a direct-link action frame. -/
  | tdls (frame : Tdls)
  deriving DecidableEq, Repr

/-- Looks at a packet. Only an active filter drops. -/
def inspect (etherType : UInt16) (packet : Bytes) (filter : Bool) : Verdict :=
  if etherType = EtherType.arp ∧ filter ∧ isGratuitousArp packet then .drop .gratuitousArp
  else if etherType = EtherType.ipv6 ∧ filter ∧ isUnsolicitedAdvert packet then
    .drop .unsolicitedNeighborAdvert
  else if etherType = EtherType.dot11Encap then (Tdls.parse? packet).elim .pass .tdls
  else .pass

end Screening

end Airlink
