import Airlink.Proofs.Detour
import Airlink.Proofs.HwAddr
import Airlink.Proofs.Stations.Operations

/-!
# Frames for the reorder engine

A received frame is offered to the reorder engine, or it goes through ingress, and never both. Which
of the two it is can be said from the octets that arrive and the sessions there are
(`Interface.Hands`): a data frame or an aggregate for a single station goes by the priority of its
descriptor and its source address, a block-ack request by the fields of its own header.

`Interface.receive_hands_off` says that these frames and no others are offered, each once, and that
nothing is done to them but counting and, for data, noting the sender (`StationTable.Observed`).
-/

namespace Airlink

open Outside (Call)

/-! ## Offers -/

/-- What the reorder engine is told of a frame that it is offered. -/
structure Offer where
  seq : UInt16
  trafficId : UInt8
  peer : HwAddr
  frameClass : FrameClass
  deriving DecidableEq, Repr

/-- What becomes of a frame that was offered: a refusal drops it, and a request that was taken is an
event for the host. -/
def Offer.outcomes (offer : Offer) : Except Error Unit → List Outcome
  | .error _ => [.drop .reorderRejected]
  | .ok _ =>
    if offer.frameClass = .blockAckRequest then
      [.event (.debug (s!"BAR from {offer.peer.format} tid {offer.trafficId.toNat} " ++
        s!"ssn {offer.seq.toNat}"))]
    else []

/-- The offer that a call makes, block-ack requests included. -/
def Outside.Call.handOff? : Call → Option Offer
  | .reorder seq trafficId peer frameClass _ _ => some ⟨seq, trafficId, peer, frameClass⟩
  | _ => none

/-- The offers that were made, in order. -/
def handOffs (log : List Call) : List Offer := log.filterMap Call.handOff?

theorem handOffs_records (reports : List TdlsReport) :
    handOffs (reports.map fun r => .record r.peer r.capabilities r.action) = [] :=
  List.filterMap_eq_nil_iff.2 fun call mem => by
    obtain ⟨r, -, rfl⟩ := List.mem_map.1 mem
    rfl

/-! ## Observations -/

namespace StationTable

/-- A frame from a peer was noted in a table: in its entry, a new one if need be, and not at all if
there is no room for one. -/
structure Observed (t : StationTable) (now : Instant) (peer : HwAddr) (desc : RxDescriptor)
    (t' : StationTable) : Prop where
  sender : t.lookup? peer ≠ none ∨ t.size < t.capacity → t'.lookup? peer =
    some (((PeerMap.entry t.lookup? peer now).observe desc.seqNum desc.priority desc.snr desc.nf
      now).receivedBytes desc.pktLength.toNat)
  others : ∀ addr, addr ≠ peer → t'.lookup? addr = t.lookup? addr
  full : t.lookup? peer = none → t.capacity ≤ t.size → t' = t
  capacity : t'.capacity = t.capacity
  timeout : t'.timeout = t.timeout

end StationTable

namespace Interface

/-- Noting a peer changes just its entry. -/
theorem notePeer_observed (i : Interface) (now : Instant) (peer : HwAddr) (desc : RxDescriptor) :
    i.stations.Observed now peer desc (i.notePeer now peer desc).stations := by
  unfold notePeer StationTable.observe
  cases entering : i.stations.enter peer now with
  | error e =>
    obtain ⟨new, full, -⟩ := StationTable.enter_eq_error entering
    change i.stations.Observed now peer desc
      (i.stations.modify peer (·.receivedBytes desc.pktLength.toNat))
    rw [StationTable.modify_of_lookup?_eq_none new]
    refine ⟨?_, fun _ _ => rfl, fun _ _ => rfl, rfl, rfl⟩
    rintro (known | room)
    · exact absurd new known
    · exact absurd full (Nat.not_le.2 room)
  | ok t =>
    obtain ⟨capacity, timeout, put⟩ := StationTable.lookup?_enter entering
    have noted := StationTable.lookup?_modify_update
      (StationTable.lookup?_modify_update put
        (·.observe desc.seqNum desc.priority desc.snr desc.nf now) fun _ => rfl)
      (·.receivedBytes desc.pktLength.toNat) fun _ => rfl
    refine ⟨fun _ => ?_, fun addr apart => ?_, fun new full => ?_, capacity, timeout⟩
    · exact (congrFun noted peer).trans (Function.update_self ..)
    · exact (congrFun noted addr).trans (Function.update_of_ne apart ..)
    · rcases StationTable.known_or_room_of_enter entering with known | room
      · exact absurd new known
      · exact absurd full (Nat.not_le.2 room)

variable {σ : Type} {o : Outside σ} (near : Neighbors) (now : Instant) {i : Interface} {s : σ}
  {buf : Buffer} {desc : RxDescriptor} {offer : Offer}

/-! ## Which frames are offered -/

/-- A received frame with its descriptor is one for the reorder engine, which is told this. -/
inductive Hands (i : Interface) (o : Outside σ) (s : σ) (buf : Buffer) (desc : RxDescriptor) :
    Offer → Prop where
  /-- A data frame or an aggregate for a single station, of a session of its source. -/
  | frame {frameClass : FrameClass} {payload : Bytes} (capable : i.blockAck = true)
      (decoded : RxDescriptor.decode buf.window = .ok desc)
      (isClass : desc.frameClass = some frameClass)
      (isData : frameClass = .data ∨ frameClass = .amsdu)
      (declared : desc.payload? buf.window = some payload) (long : 12 ≤ payload.length)
      (unicast : (HwAddr.ofSlice payload 0).isGroup = false)
      (session : o.hasSession desc.priority (HwAddr.ofSlice payload 6) s = true) :
      Hands i o s buf desc ⟨desc.seqNum, desc.priority, HwAddr.ofSlice payload 6, frameClass⟩
  /-- A block-ack request of a session of its transmitter. The traffic class is the top four bits of
  the control word, and the sequence number the top twelve of the word behind. -/
  | request {payload : Bytes} {start : UInt16} {trafficId : UInt8} (capable : i.blockAck = true)
      (decoded : RxDescriptor.decode buf.window = .ok desc)
      (isRequest : desc.frameClass = some .blockAckRequest)
      (declared : desc.payload? buf.window = some payload) (long : 20 ≤ payload.length)
      (isTrafficId : trafficId.toNat = (payload.le16At 16).toNat / 2 ^ 12)
      (isStart : start.toNat = (payload.le16At 18).toNat / 2 ^ 4)
      (session : o.hasSession trafficId (HwAddr.ofSlice payload 10) s = true) :
      Hands i o s buf desc ⟨start, trafficId, HwAddr.ofSlice payload 10, .blockAckRequest⟩

/-- A payload is for a single station if it starts with the address of one. -/
theorem isUnicast_iff {payload : Bytes} :
    isUnicast payload = true ↔
      6 ≤ payload.length ∧ (HwAddr.ofSlice payload 0).isGroup = false := by
  unfold isUnicast
  cases found : HwAddr.at? payload 0 with
  | none =>
    have short : ¬ 6 ≤ payload.length := fun long => by
      rw [HwAddr.at?_eq_some (k := 0) long] at found
      cases found
    simp [short]
  | some dest =>
    obtain ⟨long, rfl⟩ := HwAddr.at?_eq_some_iff.1 found
    simp [show 6 ≤ payload.length from long]

/-- The traffic class that a control word names. -/
theorem toNat_trafficId (word : UInt16) : (word >>> 12).toUInt8.toNat = word.toNat / 2 ^ 12 := by
  have small : word.toNat / 2 ^ 12 < 2 ^ 8 := by
    have bound := word.toNat_lt
    omega
  rw [UInt16.toNat_toUInt8, UInt16.toNat_shiftRight, Nat.shiftRight_eq_div_pow]
  exact Nat.mod_eq_of_lt small

/-- The sequence number that stands in a word. -/
theorem toNat_start (word : UInt16) : (word >>> 4).toNat = word.toNat / 2 ^ 4 := by
  rw [UInt16.toNat_shiftRight, Nat.shiftRight_eq_div_pow]
  rfl

/-- A frame other than a block-ack request goes to the reorder engine just if it is one for it. -/
theorem sessionPeer?_eq_some_iff {frameClass : FrameClass} {payload : Bytes} {peer : HwAddr} :
    i.sessionPeer? o s desc frameClass payload = some peer ↔
      i.blockAck = true ∧ (frameClass = .data ∨ frameClass = .amsdu) ∧ 12 ≤ payload.length ∧
        (HwAddr.ofSlice payload 0).isGroup = false ∧ HwAddr.ofSlice payload 6 = peer ∧
        o.hasSession desc.priority peer s = true := by
  have source (isData : frameClass = .data ∨ frameClass = .amsdu) :
      peerOf? payload frameClass = HwAddr.at? payload 6 := by
    rcases isData with rfl | rfl <;> rfl
  unfold sessionPeer?
  constructor
  · intro found
    split at found
    · next conditions =>
      obtain ⟨capable, unicast, isData⟩ := conditions
      obtain ⟨isPeer, session⟩ := Option.filter_eq_some_iff.1 found
      obtain ⟨long, rfl⟩ := HwAddr.at?_eq_some_iff.1 ((source isData).symm.trans isPeer)
      exact ⟨capable, isData, long, (isUnicast_iff.1 unicast).2, rfl, session⟩
    · cases found
  · rintro ⟨capable, isData, long, unicast, rfl, session⟩
    have unicast := isUnicast_iff.2 ⟨by omega, unicast⟩
    rw [if_pos ⟨capable, unicast, isData⟩, source isData, HwAddr.at?_eq_some long]
    exact Option.filter_eq_some_iff.2 ⟨rfl, session⟩

/-! ## Frames that are offered -/

theorem outcomes_of_ne (other : offer.frameClass ≠ .blockAckRequest) :
    offer.outcomes = unlessTaken := by
  funext answer
  cases answer with
  | error e => rfl
  | ok taken => exact if_neg other

/-- A received frame was offered to the reorder engine, and no more was done with it than to count
it and, if it is no request, to note its sender. -/
structure HandedOff (o : Outside σ) (now : Instant) (i : Interface) (s : σ) (buf : Buffer)
    (desc : RxDescriptor) (offer : Offer) (run : List Outcome × Interface × σ × List Call) :
    Prop where
  /-- The offer is the only call. -/
  calls : run.2.2.2 = [.reorder offer.seq offer.trafficId offer.peer offer.frameClass buf
    (o.reorder offer.seq offer.trafficId offer.peer offer.frameClass buf s).1]
  engine : run.2.2.1 = (o.reorder offer.seq offer.trafficId offer.peer offer.frameClass buf s).2
  outcomes : run.1 = offer.outcomes
    (o.reorder offer.seq offer.trafficId offer.peer offer.frameClass buf s).1
  data : offer.frameClass ≠ .blockAckRequest →
    i.stations.Observed now offer.peer desc run.2.1.stations
  request : offer.frameClass = .blockAckRequest → run.2.1.stations = i.stations
  rest : run.2.1 = { i with
    stations := run.2.1.stations
    counters := (i.counters.received buf.size).countHandoff }

/-- A block-ack request of a session is offered. -/
theorem receive_request_offered {payload : Bytes} (capable : i.blockAck = true)
    (decoded : RxDescriptor.decode buf.window = .ok desc)
    (isRequest : desc.frameClass = some .blockAckRequest)
    (declared : desc.payload? buf.window = some payload) (long : 20 ≤ payload.length)
    (session : o.hasSession (payload.le16At 16 >>> 12).toUInt8
      (HwAddr.ofSlice payload requestTransmitter) s = true) :
    let offer : Offer := ⟨payload.le16At 18 >>> 4, (payload.le16At 16 >>> 12).toUInt8,
      HwAddr.ofSlice payload requestTransmitter, .blockAckRequest⟩
    i.receive o near now s buf =
      let (answer, s) := o.reorder offer.seq offer.trafficId offer.peer offer.frameClass buf s
      (offer.outcomes answer, (i.count (·.received buf.size)).count Counters.countHandoff, s) := by
  have whole : ¬ payload.length < requestSize := Nat.not_lt.2 long
  have supported : (!(i.count (·.received buf.size)).blockAck) = false := by
    rw [show (i.count (·.received buf.size)).blockAck = true from capable]
    rfl
  simp only [receive, decoded, isRequest, if_true, receiveRequest, supported, declared,
    if_neg whole, session, Bool.false_eq_true, if_false, handOff]
  cases (o.reorder (payload.le16At 18 >>> 4) (payload.le16At 16 >>> 12).toUInt8
    (HwAddr.ofSlice payload requestTransmitter) .blockAckRequest buf s).1 with
  | error e => rfl
  | ok taken => rfl

/-- A frame for the reorder engine is offered to it. -/
theorem Hands.handedOff (h : i.Hands o s buf desc offer) :
    HandedOff o now i s buf desc offer (i.receive o.logged near now (s, []) buf) := by
  cases h with
  | @frame frameClass payload capable decoded isClass isData declared long unicast session =>
    obtain rfl : buf.window.drop desc.pktOffset.toNat = payload :=
      Option.some_inj.1 ((RxDescriptor.payload?_of_decode decoded).symm.trans declared)
    have fromPeer : UnicastFrom _ buf desc frameClass :=
      ⟨decoded, isClass, isData, isUnicast_iff.2 ⟨by omega, unicast⟩, HwAddr.at?_eq_some long⟩
    have otherClass : frameClass ≠ .blockAckRequest := by rcases isData with rfl | rfl <;> nofun
    rw [fromPeer.receive_offered (o := o.logged) (s := (s, [])) near now capable session]
    refine ⟨rfl, rfl, ?_, fun _ => notePeer_observed (i.count _) now _ desc,
      fun isRequest => absurd isRequest otherClass, rfl⟩
    rw [outcomes_of_ne otherClass]
    rfl
  | @request payload start trafficId capable decoded isRequest declared long isTrafficId isStart
      session =>
    obtain rfl : (payload.le16At 16 >>> 12).toUInt8 = trafficId :=
      UInt8.toNat_inj.1 ((toNat_trafficId _).trans isTrafficId.symm)
    obtain rfl : payload.le16At 18 >>> 4 = start :=
      UInt16.toNat_inj.1 ((toNat_start _).trans isStart.symm)
    rw [receive_request_offered (o := o.logged) (s := (s, [])) near now capable decoded isRequest
      declared long session]
    exact ⟨rfl, rfl, rfl, fun other => absurd rfl other, fun _ => rfl, rfl⟩

/-! ## Frames that are not -/

/-- A block-ack request that is not for the reorder engine is not offered to it. -/
theorem handOffs_receiveRequest (decoded : RxDescriptor.decode buf.window = .ok desc)
    (isRequest : desc.frameClass = some .blockAckRequest)
    (none : ∀ offer, ¬ i.Hands o s buf desc offer) (log : List Call) :
    handOffs (i.receiveRequest o.logged (s, log) buf desc).2.2.2 = handOffs log := by
  unfold receiveRequest
  split
  · rfl
  · next capable =>
    cases declared : desc.payload? buf.window with
    | none => rfl
    | some payload =>
      dsimp only
      split
      · rfl
      · next whole =>
        by_cases session : o.hasSession (payload.le16At 16 >>> 12).toUInt8
            (HwAddr.ofSlice payload requestTransmitter) s = true
        · exact absurd (.request (by simpa using capable) decoded isRequest declared
            (Nat.not_lt.1 whole) (toNat_trafficId _) (toNat_start _) session) (none _)
        · have noSession : ¬ o.logged.hasSession (payload.le16At 16 >>> 12).toUInt8
              (HwAddr.ofSlice payload requestTransmitter) (s, log) = true := session
          rw [if_neg noSession]

/-- Neither is any other frame that is not for it. -/
theorem handOffs_receiveFrame (decoded : RxDescriptor.decode buf.window = .ok desc)
    (none : ∀ offer, ¬ i.Hands o s buf desc offer) :
    handOffs (i.receiveFrame o.logged near now (s, []) buf desc).2.2.2 = [] := by
  have declared := RxDescriptor.payload?_of_decode decoded
  unfold receiveFrame
  simp only [declared, Option.getD_some]
  generalize hn : (desc.frameClass.bind
    (peerOf? (buf.window.drop desc.pktOffset.toNat))).elim i (i.notePeer now · desc) = noted
  have sameCapability : noted.blockAck = i.blockAck := by
    rw [← hn]
    cases desc.frameClass.bind (peerOf? (buf.window.drop desc.pktOffset.toNat)) <;> rfl
  cases hs : desc.frameClass.bind fun c => (noted.sessionPeer? o.logged (s, []) desc c
      (buf.window.drop desc.pktOffset.toNat)).map (c, ·) with
  | some session =>
    obtain ⟨frameClass, isClass, found⟩ := Option.bind_eq_some_iff.1 hs
    obtain ⟨peer, isPeer, -⟩ := Option.map_eq_some_iff.1 found
    obtain ⟨capable, isData, long, unicast, rfl, session⟩ := sessionPeer?_eq_some_iff.1 isPeer
    exact absurd (.frame (sameCapability ▸ capable) decoded isClass isData declared long unicast
      session) (none _)
  | none =>
    dsimp only [runIngress]
    rw [report_logged, List.nil_append]
    exact handOffs_records _

/-- A frame that is not for the reorder engine is not offered to it. -/
theorem handOffs_receive (none : ∀ desc offer, ¬ i.Hands o s buf desc offer) :
    handOffs (i.receive o.logged near now (s, []) buf).2.2.2 = [] := by
  have counted (desc : RxDescriptor) (offer : Offer) :
      ¬ (i.count (·.received buf.size)).Hands o s buf desc offer := fun h => by
    refine none desc offer ?_
    cases h with
    | frame capable decoded isClass isData declared long unicast session =>
      exact .frame capable decoded isClass isData declared long unicast session
    | request capable decoded isRequest declared long isTrafficId isStart session =>
      exact .request capable decoded isRequest declared long isTrafficId isStart session
  unfold receive
  cases decoded : RxDescriptor.decode buf.window with
  | error e => rfl
  | ok desc =>
    dsimp only
    split
    · next isRequest => exact handOffs_receiveRequest decoded isRequest (counted desc) []
    · exact handOffs_receiveFrame near now decoded (counted desc)

/-- **Hand-off.** A received frame is offered to the reorder engine once at most, and just if it is
one for it; keeping a log of the calls changes nothing. A frame that is offered goes no other way:
the offer, with the sequence number, traffic class and peer that the frame names, is the only call,
no outcome holds a frame, and of the interface only the counters change and, for a data frame or an
aggregate, the one entry of the sender. -/
theorem receive_hands_off (o : Outside σ) (near : Neighbors) (now : Instant) (i : Interface) (s : σ)
    (buf : Buffer) :
    let run := i.receive o.logged near now (s, []) buf
    (run.1, run.2.1, run.2.2.1) = i.receive o near now s buf ∧
      (handOffs run.2.2.2).length ≤ 1 ∧
      (∀ offer, offer ∈ handOffs run.2.2.2 ↔ ∃ desc, i.Hands o s buf desc offer) ∧
      ∀ desc offer, i.Hands o s buf desc offer → HandedOff o now i s buf desc offer run := by
  intro run
  have handed (desc : RxDescriptor) (offer : Offer) (h : i.Hands o s buf desc offer) :
      HandedOff o now i s buf desc offer run := h.handedOff near now
  have one (desc : RxDescriptor) (offer : Offer) (h : i.Hands o s buf desc offer) :
      handOffs run.2.2.2 = [offer] := by
    rw [(handed desc offer h).calls]
    rfl
  have unlogged : (run.1, run.2.1, run.2.2.1) = i.receive o near now s buf := by
    obtain ⟨calls, logged, -⟩ := i.receive_logged o near now s [] buf
    simp only [run, logged]
  by_cases some : ∃ desc offer, i.Hands o s buf desc offer
  · obtain ⟨desc, offer, h⟩ := some
    refine ⟨unlogged, by rw [one desc offer h]; exact Nat.le_refl 1, fun other => ?_, handed⟩
    constructor
    · intro mem
      rw [one desc offer h] at mem
      obtain rfl := List.mem_singleton.1 mem
      exact ⟨desc, h⟩
    · rintro ⟨desc', h'⟩
      rw [one desc' other h']
      exact List.mem_singleton_self other
  · have none : ∀ desc offer, ¬ i.Hands o s buf desc offer := fun desc offer h =>
      some ⟨desc, offer, h⟩
    have nothing : handOffs run.2.2.2 = [] := handOffs_receive near now none
    refine ⟨unlogged, by rw [nothing]; exact Nat.zero_le 1, fun offer => ?_, handed⟩
    rw [nothing]
    exact iff_of_false List.not_mem_nil fun ⟨desc, h⟩ => none desc offer h

/-- A receive descriptor and a block-ack request of traffic class 5 for the window from 100 on. -/
def blockAckRequest : Bytes :=
  [1, 0, 20, 0, 24, 0, 0x0a, 0] ++ List.replicate 16 0 ++
    [0x84, 0, 0, 0, 2, 0, 0, 0, 0, 1, 2, 0, 0, 0, 0, 0xa, 0x04, 0x50, 0x40, 0x06]

/-- A block-ack request that is taken is an event, and no station is noted for it. A data frame that
is taken has no outcome, and its sender is new. -/
theorem receive_hands_off_both :
    let request := capable.receive everySession.logged [] 0 ((), []) (.ofBytes .rx blockAckRequest)
    let data := capable.receive everySession.logged [] 0 ((), []) (.ofBytes .rx setupRequest)
    handOffs request.2.2.2 = [⟨100, 5, ⟨2, 0, 0, 0, 0, 0xa⟩, .blockAckRequest⟩] ∧
      request.1.length = 1 ∧ request.2.1.stations = capable.stations ∧
      handOffs data.2.2.2 = [⟨0, 0, ⟨2, 0, 0, 0, 0, 0xa⟩, .data⟩] ∧ data.1 = [] ∧
      (data.2.1.stations.lookup? ⟨2, 0, 0, 0, 0, 0xa⟩).isSome = true := by
  intro request data
  have requestPayload : (RxDescriptor.readFields blockAckRequest).payload?
      (Buffer.ofBytes .rx blockAckRequest).window = some (blockAckRequest.drop 24) := by rfl
  have isRequest : capable.Hands everySession () (.ofBytes .rx blockAckRequest)
      (.readFields blockAckRequest)
      ⟨100, 5, HwAddr.ofSlice (blockAckRequest.drop 24) 10, .blockAckRequest⟩ :=
    .request rfl (by rfl) (by rfl) requestPayload (by decide) (by decide) (by decide) rfl
  have dataPayload : (RxDescriptor.readFields setupRequest).payload?
      (Buffer.ofBytes .rx setupRequest).window = some (setupRequest.drop 24) := by rfl
  have isData : capable.Hands everySession () (.ofBytes .rx setupRequest)
      (.readFields setupRequest) ⟨0, 0, HwAddr.ofSlice (setupRequest.drop 24) 6, .data⟩ :=
    .frame rfl (by rfl) (by rfl) (.inl rfl) dataPayload (by decide) (by decide) rfl
  obtain ⟨-, -, -, requests⟩ :=
    receive_hands_off everySession [] 0 capable () (.ofBytes .rx blockAckRequest)
  obtain ⟨-, -, -, frames⟩ :=
    receive_hands_off everySession [] 0 capable () (.ofBytes .rx setupRequest)
  have request' := requests _ _ isRequest
  have data' := frames _ _ isData
  refine ⟨by rw [request'.calls]; rfl, by rw [request'.outcomes]; rfl, request'.request rfl,
    by rw [data'.calls]; rfl, by rw [data'.outcomes]; rfl, ?_⟩
  exact congrArg Option.isSome ((data'.data (by decide)).sender (.inr (by decide)))

end Interface

end Airlink
