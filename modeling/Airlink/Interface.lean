import Airlink.Backlog
import Airlink.Config.Basic
import Airlink.Counters
import Airlink.Egress
import Airlink.Ingress
import Airlink.Text.Quoted

/-!
# Interfaces

An interface owns a station table, a backlog and counters. What it receives carries a receive
descriptor; the interface notes the peer, offers frames of block-ack sessions to the reorder engine
and runs all else through ingress. What it sends gets a transmit descriptor and goes to the
transport, or waits in the backlog behind whatever waits there already.

The operations take an interface and the state of the parties outside, and give both back.
-/

namespace Airlink

/-- A virtual interface. -/
structure Interface where
  name : String
  bssNum : UInt8
  settings : Ingress.Settings
  /-- Frames of block-ack sessions go through the reorder engine. -/
  blockAck : Bool
  stations : StationTable
  backlog : Backlog
  counters : Counters
  egress : Egress
  /-- The token of the next frame whose status is reported. -/
  nextToken : UInt8
  deriving DecidableEq, Repr

namespace Interface

/-- An interface with the given settings. -/
def ofConfig (c : InterfaceConfig) : Except Error Interface := do
  if c.maxStations = 0 then
    throw (.invalidParameter s!"interface '{c.name}' allows no stations")
  let ownAddr ← c.ownAddr.mapError Error.frame
  return {
    name := c.name
    bssNum := c.bssNum
    settings := {
      role := c.role
      ownAddr
      mgmtPassthrough := c.mgmtPassthrough
      arpFilter := c.arpFilter
      rawMonitor := c.rawMonitor
      groupMonitor := c.groupMonitor
      forwarding := c.forwarding
    }
    blockAck := c.blockAck
    stations := .empty c.maxStations.toNat (c.stationTimeout.toNat * nanosPerSecond)
    backlog := .empty
    counters := .zero
    egress := ⟨c.role.bssType, c.bssNum⟩
    nextToken := 0
  }

/-- One line that describes the interface. -/
def describe (i : Interface) : String :=
  let role := match i.settings.role with
    | .station => "Sta"
    | .accessPoint => "Uap"
  s!"Interface \x7b name: {Text.Quoted.text i.name}, bss_num: {i.bssNum.toNat}, role: {role}, " ++
    s!"stations: {i.stations.size}, deferred: {i.backlog.pending} \x7d"

/-- The interface with its counters changed. -/
def count (i : Interface) (f : Counters → Counters) : Interface :=
  { i with counters := f i.counters }

/-! ## Receiving -/

/-- The station that sent a payload over the air, where its class lets that be known. -/
def peerOf? (payload : Bytes) : FrameClass → Option HwAddr
  | .data | .amsdu => HwAddr.at? payload 6
  | .raw80211 => (Ieee80211.Header.parse payload).toOption.map (·.transmitter)
  | _ => none

/-- Whether a payload starts with the address of a single station. -/
def isUnicast (payload : Bytes) : Bool := (HwAddr.at? payload 0).any (!·.isGroup)

/-- Notes a frame from a peer, unless the peer is new and the table is full. -/
def notePeer (i : Interface) (now : Instant) (peer : HwAddr) (desc : RxDescriptor) : Interface :=
  let stations :=
    match i.stations.observe peer desc.seqNum desc.priority desc.snr desc.nf now with
    | .ok (_, stations) => stations
    | .error _ => i.stations
  { i with stations := stations.modify peer (·.receivedBytes desc.pktLength.toNat) }

/-- Offers a frame to the reorder engine. -/
def handOff (o : Outside σ) (i : Interface) (s : σ) (seq : UInt16) (trafficId : UInt8)
    (peer : HwAddr) (frameClass : FrameClass) (buf : Buffer) :
    Except Error Unit × Interface × σ :=
  let (answer, s) := o.reorder seq trafficId peer frameClass buf s
  (answer, i.count Counters.countHandoff, s)

/-- The octets of a block-ack request. -/
def requestSize : Nat := 20

/-- Where the transmitter stands in a block-ack request. -/
def requestTransmitter : Nat := 10

/-- Offers a block-ack request to the reorder engine. The traffic class is the top four bits of
its control word, and the start of the window the top twelve of the word behind. -/
def receiveRequest (o : Outside σ) (i : Interface) (s : σ) (buf : Buffer) (desc : RxDescriptor) :
    Outcome × Interface × σ :=
  if !i.blockAck then (.drop .noBlockAckSession, i, s)
  else
    match desc.payload? buf.window with
    | none => (.drop .truncated, i, s)
    | some request =>
      if request.length < requestSize then (.drop .truncated, i, s)
      else
        let peer := HwAddr.ofSlice request requestTransmitter
        let trafficId := (request.le16At 16 >>> 12).toUInt8
        let start := request.le16At 18 >>> 4
        if o.hasSession trafficId peer s then
          match i.handOff o s start trafficId peer .blockAckRequest buf with
          | (.ok _, i, s) =>
            (.event (.debug (s!"BAR from {peer.format} tid {trafficId.toNat} " ++
              s!"ssn {start.toNat}")), i, s)
          | (.error _, i, s) => (.drop .reorderRejected, i, s)
        else (.drop .noBlockAckSession, i, s)

/-- The sender of a frame that goes through the reorder engine, if the frame does. -/
def sessionPeer? (o : Outside σ) (i : Interface) (s : σ) (desc : RxDescriptor)
    (frameClass : FrameClass) (payload : Bytes) : Option HwAddr :=
  if i.blockAck ∧ isUnicast payload ∧ (frameClass = .data ∨ frameClass = .amsdu) then
    (peerOf? payload frameClass).filter fun peer => o.hasSession desc.priority peer s
  else none

/-- Reports direct-link frames in order. -/
def report (o : Outside σ) (reports : List TdlsReport) (s : σ) : σ :=
  reports.foldl (fun s r => o.record r.peer r.capabilities r.action s) s

/-- Runs a frame through ingress. -/
def runIngress (o : Outside σ) (near : Neighbors) (now : Instant) (i : Interface) (s : σ)
    (buf : Buffer) (desc : RxDescriptor) : List Outcome × Interface × σ :=
  let (outcomes, st) :=
    Ingress.processAll ⟨i.settings, near, now⟩ ⟨i.stations, []⟩ buf desc
  (outcomes, { i with stations := st.stations }, report o st.reports s)

/-- The copy of a raw frame that an access point makes for its monitor. -/
def rawCopy (i : Interface) (buf : Buffer) (desc : RxDescriptor) : List Outcome :=
  if desc.frameClass = some .raw80211 ∧ i.settings.role = .accessPoint ∧ i.settings.rawMonitor then
    ((Ingress.monitorCopy buf desc).map fun copy => Outcome.event (.monitor copy)).toList
  else []

/-- Receives a frame other than a block-ack request. -/
def receiveFrame (o : Outside σ) (near : Neighbors) (now : Instant) (i : Interface) (s : σ)
    (buf : Buffer) (desc : RxDescriptor) : List Outcome × Interface × σ :=
  let payload := (desc.payload? buf.window).getD []
  let i := ((desc.frameClass.bind (peerOf? payload)).elim i (i.notePeer now · desc))
  match desc.frameClass.bind fun c => (i.sessionPeer? o s desc c payload).map (c, ·) with
  | some (frameClass, peer) =>
    match i.handOff o s desc.seqNum desc.priority peer frameClass buf with
    | (.ok _, i, s) => ([], i, s)
    | (.error _, i, s) => ([.drop .reorderRejected], i, s)
  | none =>
    let copies := i.rawCopy buf desc
    let (outcomes, i, s) := i.runIngress o near now s buf desc
    (copies ++ outcomes, i, s)

/-- Receives a frame with its descriptor. No outcome means that the reorder engine has it. -/
def receive (o : Outside σ) (near : Neighbors) (now : Instant) (i : Interface) (s : σ)
    (buf : Buffer) : List Outcome × Interface × σ :=
  let i := i.count (·.received buf.size)
  match RxDescriptor.decode buf.window with
  | .error _ => ([.drop .sizeInvalid], i, s)
  | .ok desc =>
    if desc.frameClass = some .blockAckRequest then
      let (outcome, i, s) := i.receiveRequest o s buf desc
      ([outcome], i, s)
    else i.receiveFrame o near now s buf desc

/-- Receives a frame that the reorder engine has released. -/
def receiveReordered (o : Outside σ) (near : Neighbors) (now : Instant) (i : Interface) (s : σ)
    (buf : Buffer) : List Outcome × Interface × σ :=
  match RxDescriptor.decode buf.window with
  | .error _ => ([.drop .sizeInvalid], i, s)
  | .ok desc => i.runIngress o near now s (buf.flag BufferFlags.reordered) desc

/-! ## Sending -/

/-- Gives a frame back to the host without its descriptor. Frames that the data path relays have no
owner to give them back to. -/
def complete (o : Outside σ) (buf : Buffer) (status : TxStatus) (s : σ) : σ :=
  if buf.flags.has BufferFlags.forwarded then s
  else
    match buf.advance TxDescriptor.size with
    | .ok payload => o.sendComplete payload status s
    | .error _ => o.sendComplete buf status s

/-- Counts a submission by its answer. -/
def account (i : Interface) : Submission → Interface
  | .success buf =>
    let payload := buf.window.drop TxDescriptor.size
    let i := i.count (·.sent payload.length)
    match HwAddr.at? payload 0 with
    | some dest => { i with stations := i.stations.modify dest (·.sent payload.length) }
    | none => i
  | .busy _ => i.count Counters.countBusy
  | .failure _ _ => i.count Counters.countFailure

/-- Submits a frame with its descriptor, or puts it behind those that wait. -/
def submit (o : Outside σ) (i : Interface) (s : σ) (framed : Buffer) : Interface × σ :=
  if i.backlog.isEmpty then
    let (answer, s) := o.submit framed s
    let i := i.account answer
    match answer with
    | .success buf => (i, complete o buf .success s)
    | .failure buf reason => (i, complete o buf (.failure reason) s)
    | .busy buf => ({ i with backlog := i.backlog.enqueue buf }, s)
  else ({ i with backlog := i.backlog.enqueue framed }, s)

/-- Sends a frame of the host. -/
def send (o : Outside σ) (i : Interface) (s : σ) (buf : Buffer) (hints : TransmitHints) :
    Except Error Unit × Interface × σ :=
  let fresh := hints.reportStatus && hints.statusToken.isNone
  let hints := if fresh then { hints with statusToken := some i.nextToken } else hints
  let i := if fresh then { i with nextToken := i.nextToken + 1 } else i
  let buf := if hints.reportStatus then buf.flag BufferFlags.txStatus else buf
  match i.egress.attach buf hints with
  | .error e => (.error e, i.count Counters.countOversized, s)
  | .ok framed =>
    let (i, s) := i.submit o s framed
    (.ok (), i, s)

/-- Sends a frame that the data path relays. -/
def relay (o : Outside σ) (i : Interface) (s : σ) (buf : Buffer) : Interface × σ :=
  match i.egress.attach buf .none with
  | .error _ => (i.count Counters.countOversized, s)
  | .ok framed => i.submit o s framed

/-- What a drain step of an interface calls. The backlog of the interface is left alone. -/
def drainCallbacks (o : Outside σ) : Backlog.Callbacks (Interface × σ) where
  submit buf q st :=
    let (answer, s) := o.submit buf st.2
    (answer, q, st.1.account answer, s)
  complete buf status q st := (q, st.1, complete o buf status st.2)

/-- Submits the head of the backlog. -/
def drainOne (o : Outside σ) (i : Interface) (s : σ) : DrainStep × Interface × σ :=
  let (step, backlog, i, s) := i.backlog.drainOne (drainCallbacks o) (i, s)
  (step, { i with backlog }, s)

theorem drainOne_of_draining (o : Outside σ) {i : Interface} (underway : i.backlog.draining = true)
    (s : σ) : i.drainOne o s = (.busy, i, s) := by
  rw [drainOne, Backlog.drainOne, if_pos underway]

theorem drainOne_of_nil (o : Outside σ) {i : Interface} (free : i.backlog.draining = false)
    (none : i.backlog.frames = []) (s : σ) :
    i.drainOne o s = (.empty, { i with backlog := i.backlog.setFrames [] }, s) := by
  rw [drainOne, Backlog.drainOne, if_neg (by simp [free])]
  simp [Backlog.popFront, Backlog.setFrames, none, free]

/-- The frame in front is submitted. If the transport is busy it goes back to where it was. -/
theorem drainOne_of_cons (o : Outside σ) {i : Interface} (free : i.backlog.draining = false)
    {buf : Buffer} {rest : List Buffer} (head : i.backlog.frames = buf :: rest) (s : σ) :
    i.drainOne o s =
      let (answer, s) := o.submit buf s
      match answer with
      | .success back =>
        (.retired, { i.account answer with backlog := i.backlog.setFrames rest },
          complete o back .success s)
      | .failure back reason =>
        (.retired, { i.account answer with backlog := i.backlog.setFrames rest },
          complete o back (.failure reason) s)
      | .busy back =>
        (.busy, { i.account answer with backlog := i.backlog.setFrames (back :: rest) }, s) := by
  rw [drainOne, Backlog.drainOne, if_neg (by simp [free])]
  obtain ⟨answer, t, submitted⟩ : ∃ answer t, o.submit buf s = (answer, t) := ⟨_, _, rfl⟩
  simp only [Backlog.popFront, head, List.head?_cons, drainCallbacks, submitted]
  cases answer <;> simp [Backlog.finish, Backlog.pushFront, Backlog.setFrames, free]

/-- Gives every waiting frame back as failed and counts them. -/
def flush (o : Outside σ) (i : Interface) (s : σ) : Nat × Interface × σ :=
  let (frames, backlog) := i.backlog.clear
  (frames.length, { i with backlog },
    frames.foldl (fun s buf => complete o buf (.failure "interface flushed") s) s)

end Interface

end Airlink
