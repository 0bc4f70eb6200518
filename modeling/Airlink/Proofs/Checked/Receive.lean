import Airlink.Interface
import Airlink.Proofs.Checked.Ingress

/-!
# The receive path with its checks

The last layer of the receive path: what an interface does with a frame before it runs it through
ingress. It reads a descriptor, notes the peer in the slot of its traffic class, and reads a
block-ack request at fixed places.

No check fails anywhere on the path (`no_fault`). There is nothing to be assumed of the frame, of
the descriptor that it is processed with, of the settings and the tables, or of what the reorder
engine answers.
-/

namespace Airlink.Checked

variable {σ : Type}

/-! ## Noting a peer -/

/-- The sequence number in a slot. -/
def sequence (s : Station) (slot : Nat) : Run UInt16 :=
  match s.sequences[slot]? with
  | some seq => .ok seq
  | none => .error (.index trafficClasses slot)

/-- The station with another sequence number in a slot. -/
def setSequence (s : Station) (slot : Nat) (seq : UInt16) : Run Station :=
  if inside : slot < 8 then
    .ok { s with sequences := s.sequences.set slot seq inside }
  else .error (.index trafficClasses slot)

/-- The sequence number last received in a traffic class, and the peer after a frame from it. -/
def observeStation (s : Station) (seq : UInt16) (priority : UInt8) (snr nf : Int8) (now : Instant) :
    Run (Option UInt16 × Station) := do
  let slot := priority.toNat % trafficClasses
  let previous ← sequence s slot
  let s ← setSequence s slot seq
  return (Station.known? previous,
    { s with snr, nf, rxPackets := s.rxPackets + 1, lastActivity := now })

/-- Notes a frame from a peer in a table. -/
def observe (t : StationTable) (addr : HwAddr) (seq : UInt16) (priority : UInt8) (snr nf : Int8)
    (now : Instant) : Attempt Error StationTable := do
  let t ← given (t.enter addr now)
  let stations ← t.stations.mapM fun s =>
    if s.addr == addr then do return (← observeStation s seq priority snr nf now).2
    else return s
  return { t with stations }

/-- Notes a frame from a peer, unless the peer is new and the table is full. -/
def notePeer (i : Interface) (now : Instant) (peer : HwAddr) (desc : RxDescriptor) :
    Run Interface := do
  let stations ←
    match ← (observe i.stations peer desc.seqNum desc.priority desc.snr desc.nf now).run with
    | .ok stations => pure stations
    | .error _ => pure i.stations
  return { i with stations := stations.modify peer (·.receivedBytes desc.pktLength.toNat) }

/-- A priority has a slot, whatever it is. -/
theorem observeStation_eq (s : Station) (seq : UInt16) (priority : UInt8) (snr nf : Int8)
    (now : Instant) :
    observeStation s seq priority snr nf now =
      .ok (s.previous? priority, s.observe seq priority snr nf now) := by
  have inside : priority.toNat % trafficClasses < 8 := Nat.mod_lt _ (by decide)
  have read : sequence s (priority.toNat % trafficClasses) =
      .ok s.sequences[priority.toNat % trafficClasses] := by
    rw [sequence, Vector.getElem?_eq_getElem inside]
  rw [observeStation, read, ok_bind, setSequence, dif_pos inside]
  rfl

theorem run_observe (t : StationTable) (addr : HwAddr) (seq : UInt16) (priority : UInt8)
    (snr nf : Int8) (now : Instant) :
    (observe t addr seq priority snr nf now).run =
      .ok ((t.observe addr seq priority snr nf now).map (·.2)) := by
  have each (s : Station) :
      (if s.addr == addr then do return (← observeStation s seq priority snr nf now).2
        else return s) =
      (pure (if s.addr == addr then s.observe seq priority snr nf now else s) :
        Attempt Error Station) := by
    rw [observeStation_eq]
    split <;> rfl
  unfold observe StationTable.observe
  cases t.enter addr now with
  | error e => rfl
  | ok t =>
    rw [given_ok_bind]
    simp only [each]
    rw [List.mapM_pure]
    rfl

theorem notePeer_eq (i : Interface) (now : Instant) (peer : HwAddr) (desc : RxDescriptor) :
    notePeer i now peer desc = .ok (i.notePeer now peer desc) := by
  unfold notePeer Interface.notePeer
  rw [run_observe, ok_bind]
  cases i.stations.observe peer desc.seqNum desc.priority desc.snr desc.nf now <;> rfl

/-! ## Block-ack requests -/

/-- Offers a block-ack request to the reorder engine. -/
def receiveRequest (o : Outside σ) (i : Interface) (s : σ) (buf : Buffer) (desc : RxDescriptor) :
    Run (Outcome × Interface × σ) :=
  if !i.blockAck then return (.drop .noBlockAckSession, i, s)
  else do
    match desc.payload? (← window buf) with
    | none => return (.drop .truncated, i, s)
    | some request =>
      if request.length < Interface.requestSize then return (.drop .truncated, i, s)
      else
        match ← addr? request Interface.requestTransmitter with
        | none => return (.drop .truncated, i, s)
        | some peer =>
          let control ← le16 request 16
          let window ← le16 request 18
          let trafficId := (control >>> 12).toUInt8
          let start := window >>> 4
          if o.hasSession trafficId peer s then
            match i.handOff o s start trafficId peer .blockAckRequest buf with
            | (.ok _, i, s) =>
              return (.event (.debug (s!"BAR from {peer.format} tid {trafficId.toNat} " ++
                s!"ssn {start.toNat}")), i, s)
            | (.error _, i, s) => return (.drop .reorderRejected, i, s)
          else return (.drop .noBlockAckSession, i, s)

theorem receiveRequest_eq (o : Outside σ) (i : Interface) (s : σ) (buf : Buffer)
    (desc : RxDescriptor) :
    receiveRequest o i s buf desc = .ok (i.receiveRequest o s buf desc) := by
  unfold receiveRequest Interface.receiveRequest
  split
  · rfl
  rw [window_eq, ok_bind]
  cases desc.payload? buf.window with
  | none => rfl
  | some request =>
    simp only
    split
    · rfl
    · next long =>
      have fits : 20 ≤ request.length := Nat.not_lt.1 long
      have transmitter : addr? request Interface.requestTransmitter =
          .ok (some (HwAddr.ofSlice request Interface.requestTransmitter)) :=
        addr?_eq_some (by simp only [Interface.requestTransmitter]; omega)
      rw [transmitter, ok_bind, le16_eq (by omega), le16_eq (by omega)]
      simp only [ok_bind]
      split
      · generalize i.handOff _ _ _ _ _ _ _ = answer
        obtain ⟨answer | answer, i, s⟩ := answer <;> rfl
      · rfl

/-! ## Frames -/

/-- The station that sent a payload over the air, where its class lets that be known. -/
def peerOf? (payload : Bytes) : FrameClass → Run (Option HwAddr)
  | .data | .amsdu => addr? payload HwAddr.size
  | .raw80211 => do return (← (parse payload).run).toOption.map (·.transmitter)
  | _ => return none

/-- The same where the class itself may be unknown. -/
def peer? (payload : Bytes) (frameClass : Option FrameClass) : Run (Option HwAddr) :=
  match frameClass with
  | none => return none
  | some frameClass => peerOf? payload frameClass

/-- Whether a payload starts with the address of a single station. -/
def isUnicast (payload : Bytes) : Run Bool := do
  return (← addr? payload 0).any (!·.isGroup)

/-- The peer whose session a frame goes through, if it does. What was read of the payload before is
not read again. -/
def session? (o : Outside σ) (i : Interface) (s : σ) (desc : RxDescriptor) (frameClass : FrameClass)
    (peer : Option HwAddr) (unicast : Bool) : Option HwAddr :=
  if i.blockAck ∧ unicast ∧ (frameClass = .data ∨ frameClass = .amsdu) then
    peer.filter fun peer => o.hasSession desc.priority peer s
  else none

/-- The copy of a raw frame that an access point makes for its monitor. -/
def rawCopy (i : Interface) (buf : Buffer) (desc : RxDescriptor) : Run (List Outcome) :=
  if desc.frameClass = some .raw80211 ∧ i.settings.role = .accessPoint ∧ i.settings.rawMonitor then
    do return ((← monitorCopy buf desc).map fun copy => Outcome.event (.monitor copy)).toList
  else return []

/-- Runs a frame through ingress. -/
def runIngress (o : Outside σ) (near : Neighbors) (now : Instant) (i : Interface) (s : σ)
    (buf : Buffer) (desc : RxDescriptor) : Run (List Outcome × Interface × σ) := do
  let (outcomes, st) ← processAll ⟨i.settings, near, now⟩ ⟨i.stations, []⟩ buf desc
  return (outcomes, { i with stations := st.stations }, Interface.report o st.reports s)

/-- Receives a frame other than a block-ack request. -/
def receiveFrame (o : Outside σ) (near : Neighbors) (now : Instant) (i : Interface) (s : σ)
    (buf : Buffer) (desc : RxDescriptor) : Run (List Outcome × Interface × σ) := do
  let payload := (desc.payload? (← window buf)).getD []
  let peer ← peer? payload desc.frameClass
  let unicast ← isUnicast payload
  let i ← peer.elim (pure i) (notePeer i now · desc)
  match desc.frameClass.bind fun c => (session? o i s desc c peer unicast).map (c, ·) with
  | some (frameClass, peer) =>
    match i.handOff o s desc.seqNum desc.priority peer frameClass buf with
    | (.ok _, i, s) => return ([], i, s)
    | (.error _, i, s) => return ([.drop .reorderRejected], i, s)
  | none =>
    let copies ← rawCopy i buf desc
    let (outcomes, i, s) ← runIngress o near now i s buf desc
    return (copies ++ outcomes, i, s)

/-- Receives a frame with its descriptor. -/
def receive (o : Outside σ) (near : Neighbors) (now : Instant) (i : Interface) (s : σ)
    (buf : Buffer) : Run (List Outcome × Interface × σ) := do
  let i := i.count (·.received buf.size)
  match ← (decode (← window buf)).run with
  | .error _ => return ([.drop .sizeInvalid], i, s)
  | .ok desc =>
    if desc.frameClass = some .blockAckRequest then
      let (outcome, i, s) ← receiveRequest o i s buf desc
      return ([outcome], i, s)
    else receiveFrame o near now i s buf desc

/-- Receives a frame that the reorder engine has released. -/
def receiveReordered (o : Outside σ) (near : Neighbors) (now : Instant) (i : Interface) (s : σ)
    (buf : Buffer) : Run (List Outcome × Interface × σ) := do
  match ← (decode (← window buf)).run with
  | .error _ => return ([.drop .sizeInvalid], i, s)
  | .ok desc => runIngress o near now i s (buf.flag BufferFlags.reordered) desc

theorem peer?_eq (payload : Bytes) (frameClass : Option FrameClass) :
    peer? payload frameClass = .ok (frameClass.bind (Interface.peerOf? payload)) := by
  cases frameClass with
  | none => rfl
  | some frameClass =>
    cases frameClass with
    | data | amsdu => exact addr?_eq payload HwAddr.size
    | raw80211 =>
      simp only [peer?, peerOf?, run_parse, ok_bind]
      rfl
    | debug | management | blockAckRequest => rfl

theorem isUnicast_eq (payload : Bytes) :
    isUnicast payload = .ok (Interface.isUnicast payload) := by
  rw [isUnicast, addr?_eq]
  rfl

theorem rawCopy_eq (i : Interface) (buf : Buffer) (desc : RxDescriptor) :
    rawCopy i buf desc = .ok (i.rawCopy buf desc) := by
  unfold rawCopy Interface.rawCopy
  rw [monitorCopy_eq]
  split <;> rfl

theorem runIngress_eq (o : Outside σ) (near : Neighbors) (now : Instant) (i : Interface) (s : σ)
    (buf : Buffer) (desc : RxDescriptor) :
    runIngress o near now i s buf desc = .ok (i.runIngress o near now s buf desc) := by
  rw [runIngress, processAll_eq]
  rfl

theorem receiveFrame_eq (o : Outside σ) (near : Neighbors) (now : Instant) (i : Interface) (s : σ)
    (buf : Buffer) (desc : RxDescriptor) :
    receiveFrame o near now i s buf desc = .ok (i.receiveFrame o near now s buf desc) := by
  have noted : ∀ peer : Option HwAddr, peer.elim (pure i) (notePeer i now · desc) =
      (.ok (peer.elim i (i.notePeer now · desc)) : Run Interface) := by
    rintro (_ | peer)
    · rfl
    · exact notePeer_eq i now peer desc
  unfold receiveFrame Interface.receiveFrame
  rw [window_eq, ok_bind]
  generalize (desc.payload? buf.window).getD [] = payload
  simp only
  rw [peer?_eq, ok_bind, isUnicast_eq, ok_bind, noted, ok_bind]
  generalize (desc.frameClass.bind (Interface.peerOf? payload)).elim i (i.notePeer now · desc) = i'
  have session :
      (desc.frameClass.bind fun c =>
        (session? o i' s desc c (desc.frameClass.bind (Interface.peerOf? payload))
          (Interface.isUnicast payload)).map (c, ·)) =
      desc.frameClass.bind fun c => (i'.sessionPeer? o s desc c payload).map (c, ·) := by
    cases desc.frameClass <;> rfl
  rw [session]
  cases desc.frameClass.bind fun c => (i'.sessionPeer? o s desc c payload).map (c, ·) with
  | none =>
    simp only [rawCopy_eq, runIngress_eq, ok_bind, pure_eq_ok]
  | some session =>
    obtain ⟨frameClass, peer⟩ := session
    simp only
    generalize i'.handOff o s desc.seqNum desc.priority peer frameClass buf = answer
    obtain ⟨answer | answer, i, s⟩ := answer <;> rfl

theorem receive_eq (o : Outside σ) (near : Neighbors) (now : Instant) (i : Interface) (s : σ)
    (buf : Buffer) : receive o near now i s buf = .ok (i.receive o near now s buf) := by
  unfold receive Interface.receive
  rw [window_eq, ok_bind, run_decode]
  simp only [ok_bind]
  cases RxDescriptor.decode buf.window with
  | error e => rfl
  | ok desc =>
    simp only
    split
    · rw [receiveRequest_eq]
      rfl
    · exact receiveFrame_eq _ _ _ _ _ _ _

theorem receiveReordered_eq (o : Outside σ) (near : Neighbors) (now : Instant) (i : Interface)
    (s : σ) (buf : Buffer) :
    receiveReordered o near now i s buf = .ok (i.receiveReordered o near now s buf) := by
  unfold receiveReordered Interface.receiveReordered
  rw [window_eq, ok_bind, run_decode, ok_bind]
  cases RxDescriptor.decode buf.window with
  | error e => rfl
  | ok desc => exact runIngress_eq _ _ _ _ _ _ _

/-- **No fault.** Whatever the frame, the interface with its settings and tables, the siblings and
the parties outside, a frame is received without an access that fails, and so is one that the
reorder engine has released. The same holds for the processing of a buffer with any descriptor,
whether or not the offset and the length in it fit the buffer. -/
theorem no_fault (o : Outside σ) (near : Neighbors) (now : Instant) (i : Interface) (s : σ)
    (env : Ingress.Env) (st : Ingress.State) (buf : Buffer) (desc : RxDescriptor) :
    receive o near now i s buf = .ok (i.receive o near now s buf) ∧
      receiveReordered o near now i s buf = .ok (i.receiveReordered o near now s buf) ∧
      process env st buf desc = .ok (Ingress.process env st buf desc) ∧
      processAll env st buf desc = .ok (Ingress.processAll env st buf desc) :=
  ⟨receive_eq o near now i s buf, receiveReordered_eq o near now i s buf,
    process_eq env st buf desc, processAll_eq env st buf desc⟩

end Airlink.Checked
