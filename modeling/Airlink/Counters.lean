import Airlink.Outcome

/-!
# Counters

What happened to the frames of an interface, in numbers. Counters wrap at 2^64. A `Snapshot` is the
report of them: it adds up the drops and lists the reasons that occurred, sorted by their keys.
-/

namespace Airlink

/-- The counters of an interface. -/
structure Counters where
  rxPackets : UInt64
  rxBytes : UInt64
  txPackets : UInt64
  txBytes : UInt64
  delivered : UInt64
  deliveryPending : UInt64
  forwarded : UInt64
  retransmitted : UInt64
  monitorCopies : UInt64
  events : UInt64
  reorderHandoffs : UInt64
  busyRequeues : UInt64
  transportFailures : UInt64
  oversizedRejects : UInt64
  drops : Vector UInt64 14
  deriving DecidableEq, Repr

namespace Counters

/-- Nothing happened yet. -/
def zero : Counters where
  rxPackets := 0
  rxBytes := 0
  txPackets := 0
  txBytes := 0
  delivered := 0
  deliveryPending := 0
  forwarded := 0
  retransmitted := 0
  monitorCopies := 0
  events := 0
  reorderHandoffs := 0
  busyRequeues := 0
  transportFailures := 0
  oversizedRejects := 0
  drops := .replicate 14 0

/-- A frame came in. -/
def received (c : Counters) (size : Nat) : Counters :=
  { c with rxPackets := c.rxPackets + 1, rxBytes := c.rxBytes + UInt64.ofNat size }

/-- A frame went out. -/
def sent (c : Counters) (size : Nat) : Counters :=
  { c with txPackets := c.txPackets + 1, txBytes := c.txBytes + UInt64.ofNat size }

/-- The host took a frame. -/
def countDelivered (c : Counters) : Counters := { c with delivered := c.delivered + 1 }

/-- The host took a frame and will say when it is done with it. -/
def countPending (c : Counters) : Counters := { c with deliveryPending := c.deliveryPending + 1 }

/-- The host is done with a frame. No more become pending than were. -/
def countCompleted (c : Counters) : Counters :=
  { c with
    deliveryPending := if c.deliveryPending = 0 then 0 else c.deliveryPending - 1
    delivered := c.delivered + 1 }

/-- A frame was relayed. -/
def countForwarded (c : Counters) : Counters := { c with forwarded := c.forwarded + 1 }

/-- A copy was sent out again. -/
def countRetransmitted (c : Counters) : Counters := { c with retransmitted := c.retransmitted + 1 }

/-- A copy went to a monitor. -/
def countMonitorCopy (c : Counters) : Counters := { c with monitorCopies := c.monitorCopies + 1 }

/-- The host got an event. -/
def countEvent (c : Counters) : Counters := { c with events := c.events + 1 }

/-- A frame was offered to the reorder engine. -/
def countHandoff (c : Counters) : Counters := { c with reorderHandoffs := c.reorderHandoffs + 1 }

/-- The transport was busy. -/
def countBusy (c : Counters) : Counters := { c with busyRequeues := c.busyRequeues + 1 }

/-- The transport failed. -/
def countFailure (c : Counters) : Counters :=
  { c with transportFailures := c.transportFailures + 1 }

/-- A frame was too long to send. -/
def countOversized (c : Counters) : Counters :=
  { c with oversizedRejects := c.oversizedRejects + 1 }

/-- A frame was dropped. -/
def countDrop (c : Counters) (reason : DropReason) : Counters :=
  { c with drops := c.drops.set reason.index (c.drops[reason.index] + 1) }

/-- The number of drops for a reason. -/
def dropsFor (c : Counters) (reason : DropReason) : UInt64 := c.drops[reason.index]

/-- The number of drops for any reason. -/
def dropped (c : Counters) : UInt64 :=
  DropReason.all.foldl (fun n reason => n + c.dropsFor reason) 0

/-- The reasons that frames were dropped for, by their keys in alphabetical order. -/
def dropCounts (c : Counters) : List (String × UInt64) :=
  ((DropReason.all.map fun r => (r.key, c.dropsFor r)).filter (·.2 != 0)).mergeSort
    fun a b => a.1 ≤ b.1

end Counters

end Airlink
