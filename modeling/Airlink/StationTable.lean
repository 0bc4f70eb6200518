import Airlink.Error
import Airlink.Station

/-!
# Station tables

The peers an interface knows, at most one entry to an address and at most `capacity` of them. A
peer enters the table by `enter`, which every operation that may add one goes through; a full table
refuses new peers and goes on serving those it has.
-/

namespace Airlink

/-- The peers of one interface in the order in which they came. -/
structure StationTable where
  stations : List Station
  capacity : Nat
  /-- In nanoseconds. -/
  timeout : Nat
  deriving DecidableEq, Repr

namespace StationTable

/-- A table that knows nobody. -/
def empty (capacity timeout : Nat) : StationTable := ⟨[], capacity, timeout⟩

/-- The number of peers. -/
def size (t : StationTable) : Nat := t.stations.length

/-- Whether there is no peer. -/
def isEmpty (t : StationTable) : Bool := t.stations.isEmpty

/-- The entry of an address. -/
def lookup? (t : StationTable) (addr : HwAddr) : Option Station :=
  t.stations.find? (·.addr == addr)

/-- Whether an address has an entry. -/
def contains (t : StationTable) (addr : HwAddr) : Bool := t.stations.any (·.addr == addr)

/-- The table with the entry of an address, if there is one, changed. -/
def modify (t : StationTable) (addr : HwAddr) (f : Station → Station) : StationTable :=
  { t with stations := t.stations.map fun s => if s.addr == addr then f s else s }

/-- The table with an entry for an address, a new one if need be and if there is room. -/
def enter (t : StationTable) (addr : HwAddr) (now : Instant) : Except Error StationTable :=
  if t.contains addr then .ok t
  else if t.capacity ≤ t.size then .error (.stationTableFull t.capacity)
  else .ok { t with stations := t.stations ++ [Station.new addr now] }

/-- Notes a frame from a peer and gives the sequence number last received in its class. -/
def observe (t : StationTable) (addr : HwAddr) (seq : UInt16) (priority : UInt8) (snr nf : Int8)
    (now : Instant) : Except Error (Option UInt16 × StationTable) := do
  let t ← t.enter addr now
  return ((t.lookup? addr).bind (·.previous? priority),
    t.modify addr (·.observe seq priority snr nf now))

/-- Adds capabilities to a peer, if it is known. -/
def grant (t : StationTable) (addr : HwAddr) (caps : Capabilities) : StationTable :=
  t.modify addr (·.grant caps)

/-- Notes the association of a peer. Its capabilities are replaced. -/
def associate (t : StationTable) (addr : HwAddr) (aid : UInt16) (caps : Capabilities)
    (now : Instant) : Except Error StationTable := do
  let t ← t.enter addr now
  return t.modify addr fun s => { s with aid, capabilities := caps, lastActivity := now }

/-- Forgets a peer. -/
def disassociate (t : StationTable) (addr : HwAddr) : StationTable :=
  { t with stations := t.stations.filter (·.addr != addr) }

/-- Forgets the peers that have been idle for longer than the timeout, and names them. -/
def expire (t : StationTable) (now : Instant) : List HwAddr × StationTable :=
  ((t.stations.filter (·.isExpired t.timeout now)).map (·.addr),
    { t with stations := t.stations.filter (!·.isExpired t.timeout now) })

/-- Forgets every peer. -/
def clear (t : StationTable) : StationTable := { t with stations := [] }

@[simp] theorem lookup?_empty (capacity timeout : Nat) (addr : HwAddr) :
    (empty capacity timeout).lookup? addr = none := rfl

theorem isSome_lookup? (t : StationTable) (addr : HwAddr) :
    (t.lookup? addr).isSome = t.contains addr := by
  rw [Bool.eq_iff_iff]
  simp [lookup?, contains]

theorem addr_of_lookup? {t : StationTable} {addr : HwAddr} {s : Station}
    (h : t.lookup? addr = some s) : s.addr = addr := by
  simpa using List.find?_some h

end StationTable

end Airlink
