import Airlink.Outcome
import Airlink.StationTable

/-!
# Forwarding at an access point

An access point relays between its stations, and to the stations of its siblings on the same radio.
The policy says which traffic the host relays itself: a set bit leaves a class to the host. `decide`
gives the fate of one frame. A unicast frame goes exactly one way; a group frame always reaches the
host, and copies of it may go out again or to a monitor.
-/

namespace Airlink

/-- What the data path relays and what it leaves to the host. -/
structure ForwardingPolicy where
  bits : UInt8
  deriving DecidableEq, Repr, Inhabited

namespace ForwardingPolicy

/-- The data path relays at all. -/
def enabled : UInt8 := 0x01
/-- The host relays group traffic among the stations of an interface. -/
def hostGroup : UInt8 := 0x02
/-- The host relays unicast among the stations of an interface. -/
def hostLocal : UInt8 := 0x04
/-- The host relays unicast between interfaces. -/
def hostSibling : UInt8 := 0x08

/-- Relaying within the interface; the host relays between interfaces. -/
def standard : ForwardingPolicy := ⟨enabled ||| hostSibling⟩

/-- Whether all the given bits are set. -/
def has (p : ForwardingPolicy) (bits : UInt8) : Bool := p.bits &&& bits == bits

/-- Whether the data path relays at all. -/
def isEnabled (p : ForwardingPolicy) : Bool := p.has enabled

end ForwardingPolicy

/-- The tables of the sibling interfaces, by their numbers. -/
abbrev Neighbors := List (UInt8 × StationTable)

/-- The first sibling that knows an address. -/
def Neighbors.locate? (near : Neighbors) (addr : HwAddr) : Option UInt8 :=
  (near.find? (·.2.contains addr)).map (·.1)

namespace Forwarding

/-- What a decision goes by, apart from the frame. -/
structure View where
  policy : ForwardingPolicy
  ownAddr : HwAddr
  stations : StationTable
  near : Neighbors
  /-- Group traffic is copied to a monitor. -/
  monitorGroup : Bool

/-- The copies made of a group frame. -/
def copies (v : View) (buf : Buffer) : List Duplicate :=
  (if v.policy.has ForwardingPolicy.hostGroup then []
    else [.retransmit buf.duplicateForTx .bss])
  ++ (if v.monitorGroup then
      [.monitor { buf.duplicate.flag BufferFlags.monitor with frameType := some .data }]
    else [])

/-- The fate of a group frame. -/
def decideGroup (v : View) (buf : Buffer) : Outcome :=
  match copies v buf with
  | [] => .deliver buf
  | cs => .duplicate buf cs

/-- The fate of a unicast frame. -/
def decideUnicast (v : View) (buf : Buffer) (dest : HwAddr) : Outcome :=
  if dest = v.ownAddr then .deliver buf
  else if v.stations.contains dest then
    if v.policy.has ForwardingPolicy.hostLocal then .deliver buf else .forward buf.toTx .bss
  else
    match v.near.locate? dest with
    | some bss =>
      if v.policy.has ForwardingPolicy.hostSibling then .deliver buf
      else .forward buf.toTx (.sibling bss)
    | none =>
      if v.policy.has ForwardingPolicy.hostLocal || v.policy.has ForwardingPolicy.hostSibling then
        .deliver buf
      else .drop .unroutableUnicast

/-- The fate of a frame for `dest`. -/
def decide (v : View) (buf : Buffer) (dest : HwAddr) : Outcome :=
  if !v.policy.isEnabled then .deliver buf
  else if dest.isGroup then decideGroup v buf
  else decideUnicast v buf dest

end Forwarding

end Airlink
