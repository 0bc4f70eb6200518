import Airlink.Capabilities
import Airlink.HwAddr

/-!
# Stations

What an interface remembers about a peer: its association, the last sequence number received in each
traffic class, signal, capabilities, counters, and when it was first and last heard of. Counters
wrap at 2^64. Times are numbers of nanoseconds since some moment.
-/

namespace Airlink

/-- A moment, in nanoseconds. -/
abbrev Instant := Int

/-- Nanoseconds in a second. -/
def nanosPerSecond : Nat := 1000000000

/-- Traffic classes that sequence numbers are kept for. -/
def trafficClasses : Nat := 8

/-- A peer. -/
structure Station where
  addr : HwAddr
  /-- Association identifier, zero for a peer that never associated. -/
  aid : UInt16
  /-- The last sequence number of each traffic class. -/
  sequences : Vector UInt16 8
  snr : Int8
  /-- Noise floor. -/
  nf : Int8
  capabilities : Capabilities
  rxPackets : UInt64
  rxBytes : UInt64
  txPackets : UInt64
  txBytes : UInt64
  firstSeen : Instant
  lastActivity : Instant
  deriving DecidableEq, Repr

namespace Station

/-- Stands for a sequence number in a class that no frame was received in. -/
def noSequence : UInt16 := 0xffff

/-- A peer that was heard of for the first time. -/
def new (addr : HwAddr) (now : Instant) : Station where
  addr
  aid := 0
  sequences := .replicate 8 noSequence
  snr := 0
  nf := 0
  capabilities := .none
  rxPackets := 0
  rxBytes := 0
  txPackets := 0
  txBytes := 0
  firstSeen := now
  lastActivity := now

/-- The sequence number in a slot, unless it stands for none. -/
def known? (seq : UInt16) : Option UInt16 := if seq = noSequence then none else some seq

/-- The last sequence number of a traffic class. Beyond the last class there is none. -/
def lastSequence? (s : Station) (trafficId : UInt8) : Option UInt16 :=
  s.sequences[trafficId.toNat]?.bind known?

/-- The traffic class that a priority belongs to. -/
def classOf (priority : UInt8) : Fin 8 := Fin.ofNat 8 priority.toNat

/-- The peer after a frame from it was received. -/
def observe (s : Station) (seq : UInt16) (priority : UInt8) (snr nf : Int8) (now : Instant) :
    Station :=
  { s with
    sequences := s.sequences.set (classOf priority) seq
    snr
    nf
    rxPackets := s.rxPackets + 1
    lastActivity := now }

/-- The sequence number that `observe` will replace. -/
def previous? (s : Station) (priority : UInt8) : Option UInt16 :=
  known? (s.sequences[classOf priority])

/-- The peer with further octets received from it. -/
def receivedBytes (s : Station) (size : Nat) : Station :=
  { s with rxBytes := s.rxBytes + UInt64.ofNat size }

/-- The peer with a further frame sent to it. -/
def sent (s : Station) (size : Nat) : Station :=
  { s with txPackets := s.txPackets + 1, txBytes := s.txBytes + UInt64.ofNat size }

/-- The peer with further capabilities. -/
def grant (s : Station) (caps : Capabilities) : Station :=
  { s with capabilities := s.capabilities.union caps }

/-- How long nothing was received from the peer; nothing if its last activity is yet to come. -/
def idleTime (s : Station) (now : Instant) : Nat := (now - s.lastActivity).toNat

/-- Whether the peer has been idle for longer than a time. -/
def isExpired (s : Station) (timeout : Nat) (now : Instant) : Bool := timeout < s.idleTime now

end Station

/-- Whether a sequence number lies behind the last one, in a space of twelve bits that wraps. -/
def sequenceRegressed (last seq : UInt16) : Bool :=
  if last = Station.noSequence then false
  else
    let ahead := (seq - last) % 4096
    ahead != 0 && 2048 ≤ ahead

end Airlink
