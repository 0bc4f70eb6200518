import Airlink.Interface

/-!
# Radios

A radio has interfaces with different numbers. It hands each received frame to the interface that
byte 1 of its descriptor names, carries out the outcomes, and serves the backlogs of its interfaces
in turn.
-/

namespace Airlink

/-- The interfaces of one adapter. -/
structure Radio where
  interfaces : List Interface
  /-- Counts frames that no interface could be charged with. -/
  unattributed : Counters
  deriving DecidableEq, Repr

namespace Radio

/-- A radio without interfaces. -/
def empty : Radio := ⟨[], .zero⟩

/-- The position of the interface with a number. -/
def find? (r : Radio) (bss : UInt8) : Option Nat := r.interfaces.findIdx? (·.bssNum == bss)

/-- The interface with a number. -/
def interface? (r : Radio) (bss : UInt8) : Option Interface :=
  r.interfaces.find? (·.bssNum == bss)

/-- The radio with a further interface, whose number must be free. -/
def addInterface (r : Radio) (i : Interface) : Except Error Radio :=
  if (r.find? i.bssNum).isSome then
    .error (.invalidParameter s!"bss_num {i.bssNum.toNat} already in use")
  else .ok { r with interfaces := r.interfaces ++ [i] }

/-- The radio that a configuration describes. -/
def ofConfig (c : Config) : Except Error Radio :=
  c.interfaces.foldlM (fun r i => do r.addInterface (← Interface.ofConfig i)) .empty

/-- The radio with the interface at a position replaced. -/
def set (r : Radio) (k : Nat) (i : Interface) : Radio :=
  { r with interfaces := r.interfaces.set k i }

/-- The radio with the counters of the interface at a position changed. -/
def count (r : Radio) (k : Nat) (f : Counters → Counters) : Radio :=
  { r with interfaces := r.interfaces.modify k (·.count f) }

/-- The tables of the access points other than the interface at a position. -/
def neighbors (r : Radio) (k : Nat) : Neighbors :=
  ((r.interfaces.eraseIdx k).filter (·.settings.role == .accessPoint)).map
    fun i => (i.bssNum, i.stations)

/-! ## Outcomes -/

/-- Hands a frame to the host. -/
def deliver (o : Outside σ) (k : Nat) (buf : Buffer) (r : Radio) (s : σ) : Radio × σ :=
  let (answer, s) := o.deliver buf s
  let counted := match answer with
    | .ok .done => r.count k Counters.countDelivered
    | .ok .pending => r.count k Counters.countPending
    | .error _ => r.count k (·.countDrop .deliveryFailed)
  (counted, s)

/-- Sends a frame out through the interface at a position. -/
def relayThrough (o : Outside σ) (k : Nat) (buf : Buffer) (r : Radio) (s : σ) : Radio × σ :=
  match r.interfaces[k]? with
  | none => (r, s)
  | some i =>
    let (i, s) := i.relay o s buf
    (r.set k i, s)

/-- Relays a frame that the interface at a position received. -/
def relay (o : Outside σ) (k : Nat) (buf : Buffer) (scope : Scope) (r : Radio) (s : σ) :
    Radio × σ :=
  match scope with
  | .bss => r.relayThrough o k buf s
  | .sibling bss =>
    match r.find? bss with
    | some target => r.relayThrough o target buf s
    | none => (r.count k (·.countDrop .unroutableUnicast), s)

/-- Sends a copy on its way. -/
def dispatchCopy (o : Outside σ) (k : Nat) (copy : Duplicate) (r : Radio) (s : σ) : Radio × σ :=
  match copy with
  | .retransmit buf scope => (r.count k Counters.countRetransmitted).relay o k buf scope s
  | .monitor buf => (r.count k Counters.countMonitorCopy, o.deliverMonitor buf s)

/-- Tells the host of an event. -/
def dispatchEvent (o : Outside σ) (k : Nat) (bss : UInt8) (e : HostEvent) (r : Radio) (s : σ) :
    Radio × σ :=
  let r := match e with
    | .monitor _ => r.count k Counters.countMonitorCopy
    | _ => r
  (r.count k Counters.countEvent, o.event bss e s)

/-- Carries out the outcome of a frame that the interface at a position, with the given number,
received. -/
def dispatch (o : Outside σ) (k : Nat) (bss : UInt8) (outcome : Outcome) (r : Radio) (s : σ) :
    Radio × σ :=
  match outcome with
  | .deliver buf => r.deliver o k buf s
  | .forward buf scope => (r.count k Counters.countForwarded).relay o k buf scope s
  | .duplicate buf copies =>
    let (r, s) := copies.foldl (fun (r, s) copy => r.dispatchCopy o k copy s) (r, s)
    r.deliver o k buf s
  | .event e => r.dispatchEvent o k bss e s
  | .drop reason => (r.count k (·.countDrop reason), s)

/-- Carries out outcomes in order. -/
def dispatchAll (o : Outside σ) (k : Nat) (bss : UInt8) (outcomes : List Outcome) (r : Radio)
    (s : σ) : Radio × σ :=
  outcomes.foldl (fun (r, s) outcome => r.dispatch o k bss outcome s) (r, s)

/-! ## Operations -/

/-- The interface with a number, and its position. -/
def require (r : Radio) (bss : UInt8) : Except Error (Nat × Interface) :=
  match r.find? bss with
  | none => .error (.noSuchInterface bss)
  | some k =>
    match r.interfaces[k]? with
    | none => .error (.noSuchInterface bss)
    | some i => .ok (k, i)

/-- Counts a frame that no interface can be charged with. -/
def reject (r : Radio) (buf : Buffer) (reason : DropReason) : Radio :=
  { r with unattributed := (r.unattributed.received buf.size).countDrop reason }

/-- Receives a frame with its descriptor. It fails only if the frame belongs to no interface. -/
def receive (o : Outside σ) (now : Instant) (r : Radio) (s : σ) (buf : Buffer) :
    Except Error Unit × Radio × σ :=
  match buf.window[1]? with
  | none =>
    (.error (.malformedDescriptor s!"{buf.size} byte frame carries no descriptor"),
      r.reject buf .sizeInvalid, s)
  | some bss =>
    match r.require bss with
    | .error e => (.error e, r.reject buf .unknownInterface, s)
    | .ok (k, i) =>
      let (outcomes, i, s) := i.receive o (r.neighbors k) now s buf
      let (r, s) := (r.set k i).dispatchAll o k bss outcomes s
      (.ok (), r, s)

/-- Receives a frame that the reorder engine has released. -/
def receiveReordered (o : Outside σ) (now : Instant) (r : Radio) (s : σ) (bss : UInt8)
    (buf : Buffer) : Except Error Unit × Radio × σ :=
  match r.require bss with
  | .error e => (.error e, r, s)
  | .ok (k, i) =>
    let (outcomes, i, s) := i.receiveReordered o (r.neighbors k) now s buf
    let (r, s) := (r.set k i).dispatchAll o k bss outcomes s
    (.ok (), r, s)

/-- Sends a frame of the host through the interface with a number. -/
def send (o : Outside σ) (r : Radio) (s : σ) (bss : UInt8) (buf : Buffer)
    (hints : TransmitHints) : Except Error Unit × Radio × σ :=
  match r.require bss with
  | .error e => (.error e, r, s)
  | .ok (k, i) =>
    let (answer, i, s) := i.send o s buf hints
    (answer, r.set k i, s)

/-- An interface in service, and whether it is left out for the rest of the service. -/
abbrev Turn := Interface × Bool

/-- One drain step for each interface that is not left out, and the number of frames retired. An
interface whose step finds the transport busy is left out from then on. -/
def serviceRound (o : Outside σ) : List Turn → σ → Nat × List Turn × σ
  | [], s => (0, [], s)
  | (i, true) :: turns, s =>
    let (n, turns, s) := serviceRound o turns s
    (n, (i, true) :: turns, s)
  | (i, false) :: turns, s =>
    let (step, i, s) := i.drainOne o s
    let (n, turns, s) := serviceRound o turns s
    (n + (if step = .retired then 1 else 0), (i, step = .busy) :: turns, s)

/-- At most `rounds` rounds, up to one that retires nothing. -/
def serviceRounds (o : Outside σ) : Nat → List Turn → σ → Nat × List Turn × σ
  | 0, turns, s => (0, turns, s)
  | rounds + 1, turns, s =>
    let (n, turns, s) := serviceRound o turns s
    if n = 0 then (0, turns, s)
    else
      let (m, turns, s) := serviceRounds o rounds turns s
      (n + m, turns, s)

/-- Serves the backlogs in turn, one frame of each interface to the round, and counts the frames
retired. -/
def service (o : Outside σ) (rounds : Nat) (r : Radio) (s : σ) : Nat × Radio × σ :=
  let (n, turns, s) := serviceRounds o rounds (r.interfaces.map (·, false)) s
  (n, { r with interfaces := turns.map (·.1) }, s)

/-- The host is done with a frame that was delivered by the interface with a number. -/
def deliveryComplete (r : Radio) (bss : UInt8) : Except Error Radio :=
  (r.require bss).map fun (k, _) => r.count k Counters.countCompleted

/-- Forgets idle stations on every interface and counts them. -/
def expire (now : Instant) (r : Radio) : Nat × Radio :=
  let expired := r.interfaces.map fun i => (i, i.stations.expire now)
  (expired.foldl (fun n e => n + e.2.1.length) 0,
    { r with interfaces := expired.map fun (i, e) => { i with stations := e.2 } })

/-- Flushes interfaces in order and counts the frames. -/
def flushAll (o : Outside σ) : List Interface → σ → Nat × List Interface × σ
  | [], s => (0, [], s)
  | i :: is, s =>
    let (n, i, s) := i.flush o s
    let (m, is, s) := flushAll o is s
    (n + m, i :: is, s)

/-- Gives every waiting frame of every interface back as failed and counts them. -/
def flush (o : Outside σ) (r : Radio) (s : σ) : Nat × Radio × σ :=
  let (n, interfaces, s) := flushAll o r.interfaces s
  (n, { r with interfaces }, s)

/-- An entry put into a list that is sorted by names; it replaces an entry of the same name. -/
def putEntry (name : String) (c : Counters) : List (String × Counters) → List (String × Counters)
  | [] => [(name, c)]
  | (n, d) :: rest =>
    if name = n then (name, c) :: rest
    else if name < n then (name, c) :: (n, d) :: rest
    else (n, d) :: putEntry name c rest

/-- The counters of the interfaces by name, in the order of the names. Of interfaces that share a
name the last one counts. -/
def report (r : Radio) : List (String × Counters) :=
  r.interfaces.foldl (fun entries i => putEntry i.name i.counters entries) []

end Radio

end Airlink
