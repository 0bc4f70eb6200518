import Airlink.Descriptor.Transmit

/-!
# Framing for transmission

An interface puts a transmit descriptor in front of every frame that leaves it. A payload that does
not fit behind a descriptor is refused, and the buffer stays as it was.
-/

namespace Airlink

/-- The identity with which an interface frames what it sends. -/
structure Egress where
  bssType : UInt8
  bssNum : UInt8
  deriving DecidableEq, Repr, Inhabited

namespace Egress

/-- The descriptor for a buffer, with the hints folded in. -/
def build (e : Egress) (buf : Buffer) (hints : TransmitHints) : Except Error TxDescriptor :=
  if TxDescriptor.maxPayload < buf.size then
    .error (.oversizedPayload buf.size TxDescriptor.maxPayload)
  else
    .ok (({ TxDescriptor.plain e.bssType e.bssNum (UInt16.ofNat buf.size) with
      pktType := (TxDescriptor.classOf buf.flags).code
      priority := buf.priority }).applyHints hints)

/-- The buffer with its descriptor in front. -/
def attach (e : Egress) (buf : Buffer) (hints : TransmitHints) : Except Error Buffer :=
  (e.build buf hints).map fun d => buf.prepend d.encode

end Egress

end Airlink
