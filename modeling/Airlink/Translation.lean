import Airlink.Buffer
import Airlink.Ieee80211.Header
import Airlink.Snap

/-!
# Header translation

The same packet travels behind three kinds of header: Ethernet-II (`DA SA ethertype`), 802.3
(`DA SA length` and a SNAP header) and 802.11. The rewrites here work inside a buffer and never move
the payload: `toEthernet` collapses a SNAP header, `toSnapWith` puts one back, and `dot11To8023`
replaces an 802.11 header.
-/

namespace Airlink

/-- What the collapse of a SNAP header found in a frame. -/
inductive Translation where
  /-- The header was collapsed; `kind` is the prefix that went. -/
  | ethernet (etherType : UInt16) (kind : SnapKind)
  /-- The frame was Ethernet-II on arrival. -/
  | unchanged (etherType : UInt16)
  /-- The header is one that must be kept. -/
  | snap (header : Snap)
  /-- An 802.3 frame with some other header. -/
  | llc
  deriving DecidableEq, Repr

namespace Translation

/-- The octets of an Ethernet-II or 802.3 header. -/
def headerSize : Nat := 14

/-- The octets of the two addresses that open such a header. -/
def addressesSize : Nat := 12

/-- Values of the type field below this one are lengths. -/
def minEtherType : UInt16 := 0x0600

/-- The ethertype and where the network-layer packet starts, if they are known. -/
def networkLayer : Translation → Option (UInt16 × Nat)
  | .ethernet type _ => some (type, headerSize)
  | .unchanged type => some (type, headerSize)
  | .snap header => some (header.etherType, headerSize + Snap.size)
  | .llc => none

end Translation

namespace Buffer

open Translation (headerSize addressesSize minEtherType)

/-- Fails unless the window holds `size` octets. -/
def require (b : Buffer) (size : Nat) (part : String) : Except Error Unit :=
  if b.size < size then .error (.truncated part size b.size) else .ok ()

/-- Collapses a recognized SNAP header. The window starts at the destination address; the two
addresses move up against the ethertype at the end of the SNAP header. -/
def toEthernet (b : Buffer) : Except Error (Translation × Buffer) := do
  b.require headerSize "802.3 header"
  let frame := b.window
  let lengthOrType := frame.be16At 12
  if minEtherType ≤ lengthOrType then
    return (.unchanged lengthOrType, b)
  match Snap.parse? (frame.drop headerSize) with
  | none => return (.llc, b)
  | some header =>
    if header.convertsToEthernet then
      let b ← (b.overwrite Snap.size (frame.take addressesSize)).advance Snap.size
      return (.ethernet header.etherType header.kind, b)
    else
      return (.snap header, b)

/-- Puts a SNAP header with the given prefix behind the addresses and a length in place of the
ethertype. The length field keeps sixteen bits. -/
def toSnapWith (b : Buffer) (kind : SnapKind) : Except Error Buffer := do
  b.require headerSize "Ethernet header"
  let frame := b.window
  let header : Snap := ⟨kind, frame.be16At 12⟩
  let b := b.prepend (List.replicate Snap.size 0)
  let length := UInt16.ofNat (b.size - headerSize)
  return b.overwrite 0 (frame.take addressesSize ++ Bytes.ofBe16 length ++ header.encode)

/-- Puts a SNAP header behind the addresses, with the prefix that its ethertype calls for. -/
def toSnap (b : Buffer) : Except Error Buffer := do
  b.require headerSize "Ethernet header"
  b.toSnapWith (.forEtherType (b.window.be16At 12))

/-- Replaces the header of an 802.11 data frame by an 802.3 header with the addresses that the
distribution-system bits select. The body stays where it is; the length field keeps sixteen
bits of its length. -/
def dot11To8023 (b : Buffer) : Except Error (Ieee80211.Header × Buffer) := do
  let header ← (Ieee80211.Header.parse b.window).mapError Error.frame
  let fc := header.frameControl
  if fc.type ≠ .data ∨ fc.isNullData then
    throw (.frame (.invalidHeader
      s!"{fc.type.name} subtype {fc.subtype.toNat} carries no data"))
  let start := header.size - headerSize
  let length := UInt16.ofNat (b.size - header.size)
  let b ← (b.overwrite start
    (header.destination.toBytes ++ header.source.toBytes ++ Bytes.ofBe16 length)).advance start
  return (header, b)

end Buffer

end Airlink
