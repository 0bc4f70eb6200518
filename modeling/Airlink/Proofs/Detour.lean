import Airlink.Proofs.Arising
import Airlink.Proofs.Interchange
import Airlink.Proofs.Receive.Outcomes
import Airlink.Proofs.Timeless
import Airlink.Replay

/-!
# The way through the reorder engine

A frame of a block-ack session is counted and its sender noted when it arrives; then the reorder
engine has it. When the engine releases the frame it goes through ingress. `receive_detour` says
that nothing is lost or done twice on this way: up to the flag of a released frame the outcomes are
those of a frame that goes through ingress at once, and so are the reports and the interface that is
reached, apart from the count of offers and from the times at which peers were first and last heard
of.

The comparison is made at equal times first (`receive_detour_at_once`), where the interfaces are
equal; that times do not matter is known from `Interface.receive_timeless`.
-/

namespace Airlink

open Outside (Call)

/-! ## Reports in a log -/

/-- The direct-link frame that a call reports. -/
def Outside.Call.report? : Call → Option TdlsReport
  | .record peer capabilities action => some ⟨peer, capabilities, action⟩
  | _ => none

/-- The direct-link frames that were reported, in order. -/
def reported (log : List Call) : List TdlsReport := log.filterMap Call.report?

theorem reported_records (reports : List TdlsReport) :
    reported (reports.map fun r => .record r.peer r.capabilities r.action) = reports := by
  rw [reported, List.filterMap_map]
  exact List.filterMap_some

namespace Interface

variable {σ τ υ : Type}

/-! ## Marked frames -/

/-- A frame with flags set is processed like the frame without them: the outcomes differ by the
flags, the interface and the reports do not. -/
theorem runIngress_marked (o : Outside σ) (p : Outside τ) (near : Neighbors) (now : Instant)
    (i : Interface) (s : σ) (t : τ) {bits : UInt32} {b c : Buffer} (h : Marks bits b c)
    (desc : RxDescriptor) :
    let marked := i.runIngress o.logged near now (s, []) b desc
    let plain := i.runIngress p.logged near now (t, []) c desc
    List.Forall₂ (Outcome.Alike (Marks bits)) marked.1 plain.1 ∧ marked.2.1 = plain.2.1 ∧
      reported marked.2.2.2 = reported plain.2.2.2 := by
  obtain ⟨alike, state⟩ := Ingress.processAll_agree (Marks.congruence bits)
    ⟨i.settings, near, now⟩ ⟨i.stations, []⟩ h desc
  unfold runIngress
  simp only [report_logged, List.nil_append, reported_records, state, and_true]
  exact alike

/-! ## Frames of a session -/

/-- A data frame or an aggregate for a single station, with the address of its sender. -/
structure UnicastFrom (peer : HwAddr) (buf : Buffer) (desc : RxDescriptor)
    (frameClass : FrameClass) : Prop where
  decoded : RxDescriptor.decode buf.window = .ok desc
  isClass : desc.frameClass = some frameClass
  isData : frameClass = .data ∨ frameClass = .amsdu
  unicast : isUnicast (buf.window.drop desc.pktOffset.toNat) = true
  sender : HwAddr.at? (buf.window.drop desc.pktOffset.toNat) 6 = some peer

/-- The interface after a frame was counted and its sender noted. -/
def noted (i : Interface) (now : Instant) (peer : HwAddr) (buf : Buffer) (desc : RxDescriptor) :
    Interface :=
  (i.count (·.received buf.size)).notePeer now peer desc

/-- What becomes of a frame that was offered to the reorder engine, if the engine does not have it
now. -/
def unlessTaken : Except Error Unit → List Outcome
  | .ok _ => []
  | .error _ => [.drop .reorderRejected]

variable {o : Outside σ} (near : Neighbors) (now : Instant) {i : Interface} {s : σ} {peer : HwAddr}
  {buf : Buffer} {desc : RxDescriptor} {frameClass : FrameClass}

namespace UnicastFrom

/-- The sender of such a frame is its peer. -/
theorem peerOf?_eq (h : UnicastFrom peer buf desc frameClass) :
    peerOf? (buf.window.drop desc.pktOffset.toNat) frameClass = some peer := by
  rcases h.isData with rfl | rfl
  · exact h.sender
  · exact h.sender

/-- Such a frame is none of those that are received in ways of their own. -/
theorem frameClass_ne (h : UnicastFrom peer buf desc frameClass) :
    desc.frameClass ≠ some .blockAckRequest ∧ desc.frameClass ≠ some .raw80211 := by
  rw [h.isClass]
  rcases h.isData with rfl | rfl
  · exact ⟨nofun, nofun⟩
  · exact ⟨nofun, nofun⟩

/-- It is received as most frames are, once it was counted. -/
theorem receive_eq (h : UnicastFrom peer buf desc frameClass) :
    i.receive o near now s buf =
      (i.count (·.received buf.size)).receiveFrame o near now s buf desc := by
  simp only [receive, h.decoded, if_neg h.frameClass_ne.1]

/-- A frame that is not offered to the reorder engine goes through ingress at once. -/
theorem receive_unoffered (h : UnicastFrom peer buf desc frameClass)
    (unoffered : ¬ (i.blockAck = true ∧ o.hasSession desc.priority peer s = true)) :
    i.receive o near now s buf = (i.noted now peer buf desc).runIngress o near now s buf desc := by
  have copies (j : Interface) : j.rawCopy buf desc = [] :=
    if_neg fun isRaw => h.frameClass_ne.2 isRaw.1
  have session : (i.noted now peer buf desc).sessionPeer? o s desc frameClass
      (buf.window.drop desc.pktOffset.toNat) = none := by
    unfold sessionPeer?
    rw [h.peerOf?_eq, Option.filter_some]
    split
    · next offered => exact if_neg fun session => unoffered ⟨offered.1, session⟩
    · rfl
  rw [noted] at session
  rw [h.receive_eq]
  unfold receiveFrame
  simp only [RxDescriptor.payload?_of_decode h.decoded, Option.getD_some, h.isClass,
    Option.bind_some, h.peerOf?_eq, Option.elim_some, session, Option.map_none, copies,
    List.nil_append]
  rfl

/-- Without a session the frame goes through ingress at once. -/
theorem receive_passed (h : UnicastFrom peer buf desc frameClass)
    (noSession : o.hasSession desc.priority peer s = false) :
    i.receive o near now s buf = (i.noted now peer buf desc).runIngress o near now s buf desc :=
  h.receive_unoffered near now fun offered => by simp [noSession] at offered

/-- A frame of a session is offered to the reorder engine, once it was counted and its sender
noted. -/
theorem receive_offered (h : UnicastFrom peer buf desc frameClass) (supported : i.blockAck = true)
    (session : o.hasSession desc.priority peer s = true) :
    i.receive o near now s buf =
      let (answer, s) := o.reorder desc.seqNum desc.priority peer frameClass buf s
      (unlessTaken answer, (i.noted now peer buf desc).count Counters.countHandoff, s) := by
  have offered : (i.noted now peer buf desc).sessionPeer? o s desc frameClass
      (buf.window.drop desc.pktOffset.toNat) = some peer := by
    unfold sessionPeer?
    rw [h.peerOf?_eq, Option.filter_some, session]
    exact if_pos ⟨supported, h.unicast, h.isData⟩
  rw [noted] at offered
  rw [h.receive_eq]
  unfold receiveFrame
  simp only [RxDescriptor.payload?_of_decode h.decoded, Option.getD_some, h.isClass,
    Option.bind_some, h.peerOf?_eq, Option.elim_some, offered, Option.map_some, handOff]
  cases (o.reorder desc.seqNum desc.priority peer frameClass buf s).1 with
  | error e => rfl
  | ok taken => rfl

/-- A frame of a session that the reorder engine takes leaves no outcome yet. -/
theorem receive_taken (h : UnicastFrom peer buf desc frameClass) (supported : i.blockAck = true)
    (session : o.hasSession desc.priority peer s = true)
    (accepted : (o.reorder desc.seqNum desc.priority peer frameClass buf s).1 = .ok ()) :
    i.receive o near now s buf =
      ([], (i.noted now peer buf desc).count Counters.countHandoff,
        (o.reorder desc.seqNum desc.priority peer frameClass buf s).2) := by
  rw [h.receive_offered near now supported session]
  dsimp only
  rw [accepted]
  rfl

end UnicastFrom

/-! ## The two ways -/

variable {p : Outside τ} {q : Outside υ} {t : τ} {u : υ} {released : Buffer}

/-- At equal times, a frame that was released leads to what the frame leads to without the reorder
engine, with one offer more. -/
theorem receive_detour_at_once (h : UnicastFrom peer buf desc frameClass)
    (supported : i.blockAck = true) (session : o.hasSession desc.priority peer s = true)
    (accepted : (o.reorder desc.seqNum desc.priority peer frameClass buf s).1 = .ok ())
    (noSession : q.hasSession desc.priority peer u = false) (same : released.frame = buf.frame) :
    let arrival := i.receive o.logged near now (s, []) buf
    let release := arrival.2.1.receiveReordered p.logged near now (t, []) released
    let direct := i.receive q.logged near now (u, []) buf
    arrival.1 = [] ∧
      List.Forall₂ (Outcome.Alike (Marks BufferFlags.reordered)) release.1 direct.1 ∧
      reported (arrival.2.2.2 ++ release.2.2.2) = reported direct.2.2.2 ∧
      release.2.1 = direct.2.1.count Counters.countHandoff := by
  intro arrival release direct
  have taken : arrival = ([], (i.noted now peer buf desc).count Counters.countHandoff,
      (o.reorder desc.seqNum desc.priority peer frameClass buf s).2,
      [.reorder desc.seqNum desc.priority peer frameClass buf (.ok ())]) := by
    have all := h.receive_taken (o := o.logged) (s := (s, [])) near now supported session accepted
    rw [← accepted]
    exact all
  have decoded : RxDescriptor.decode released.window = .ok desc := by
    rw [show released.window = buf.window from congrArg Frame.bytes same]
    exact h.decoded
  have marks : Marks BufferFlags.reordered (released.flag BufferFlags.reordered) buf := by
    rw [Marks, Buffer.frame_flag, same]
  have freed : release = ((i.noted now peer buf desc).count Counters.countHandoff).runIngress
      p.logged near now (t, []) (released.flag BufferFlags.reordered) desc := by
    simp only [release, taken, receiveReordered, decoded]
  have passed : direct =
      (i.noted now peer buf desc).runIngress q.logged near now (u, []) buf desc :=
    h.receive_passed near now noSession
  -- The offer is not looked at by ingress, which carries it along.
  have carried : release.2.1 = Interface.count
      ((i.noted now peer buf desc).runIngress p.logged near now (t, [])
        (released.flag BufferFlags.reordered) desc).2.1 Counters.countHandoff := by
    rw [freed]
    rfl
  obtain ⟨outcomes, interface, reports⟩ := runIngress_marked p q near now
    (i.noted now peer buf desc) t u marks desc
  refine ⟨by rw [taken], ?_, ?_, ?_⟩
  · rw [freed, passed]
    exact outcomes
  · rw [taken, freed, passed]
    exact reports
  · rw [carried, interface, passed]

/-- **The detour.** A frame of a session that the reorder engine takes and then releases, with the
same octets, flags and priority, leads to what the frame leads to without a session. The outcomes
are the same in the same order, with the flag of a released frame set on every frame in them; the
same direct-link frames are reported; and up to the times in its station table and one more offer
counted the same interface is reached. -/
theorem receive_detour (near : Neighbors) (arrivedAt releasedAt receivedAt : Instant)
    (h : UnicastFrom peer buf desc frameClass) (supported : i.blockAck = true)
    (session : o.hasSession desc.priority peer s = true)
    (accepted : (o.reorder desc.seqNum desc.priority peer frameClass buf s).1 = .ok ())
    (noSession : q.hasSession desc.priority peer u = false) (same : released.frame = buf.frame) :
    let arrival := i.receive o.logged near arrivedAt (s, []) buf
    let release := arrival.2.1.receiveReordered p.logged near releasedAt (t, []) released
    let direct := i.receive q.logged near receivedAt (u, []) buf
    arrival.1 = [] ∧
      List.Forall₂ (Outcome.Alike (Marks BufferFlags.reordered)) release.1 direct.1 ∧
      reported (arrival.2.2.2 ++ release.2.2.2) = reported direct.2.2.2 ∧
      release.2.1.timeless = (direct.2.1.count Counters.countHandoff).timeless := by
  have atOnce := receive_detour_at_once (p := p) (t := t) near 0 (i := i.timeless) h supported
    session accepted noSession same
  simp only [receive_timeless o.logged near arrivedAt,
    receiveReordered_timeless p.logged near releasedAt,
    receive_timeless q.logged near receivedAt, Prod.map_fst, Prod.map_snd, id] at atOnce
  exact atOnce

/-- The station interface of the usual settings, with block-ack sessions. -/
def capable : Interface := { standard with blockAck := true }

/-- A reorder engine that has every session and takes every frame. -/
def everySession : Outside Unit := { Replay.accepting with hasSession := fun _ _ _ => true }

/-- A receive descriptor and the Ethernet-II frame behind it: a request to set up a direct link,
with the elements of a peer that announces HT capabilities. -/
def setupRequest : Bytes :=
  [0, 0, 24, 0, 24, 0, 0, 0] ++ List.replicate 16 0 ++
    [2, 0, 0, 0, 0, 1, 2, 0, 0, 0, 0, 0xa, 0x89, 0x0d, 2, 12, 0, 1, 0, 0, 45, 2, 0, 0]

/-- A request to set up a direct link, a second on the way, is delivered and reported once. -/
theorem receive_detour_setup :
    let frame := Buffer.ofBytes .rx setupRequest
    let arrival := capable.receive everySession.logged [] 0 ((), []) frame
    let release := arrival.2.1.receiveReordered everySession.logged [] nanosPerSecond ((), []) frame
    let direct := capable.receive Replay.accepting.logged [] 0 ((), []) frame
    arrival.1 = [] ∧ release.1.length = 1 ∧
      List.Forall₂ (Outcome.Alike (Marks BufferFlags.reordered)) release.1 direct.1 ∧
      (reported (arrival.2.2.2 ++ release.2.2.2)).length = 1 ∧
      release.2.1.timeless = (direct.2.1.count Counters.countHandoff).timeless := by
  have fromPeer : UnicastFrom ⟨2, 0, 0, 0, 0, 0xa⟩ (Buffer.ofBytes .rx setupRequest)
      (.readFields setupRequest) .data :=
    ⟨by rfl, by rfl, .inl rfl, by rfl, by rfl⟩
  obtain ⟨taken, outcomes, -, reached⟩ := receive_detour (i := capable)
    (o := everySession) (p := everySession) (q := Replay.accepting) (s := ()) (t := ()) (u := ())
    [] 0 nanosPerSecond 0 fromPeer rfl rfl rfl rfl rfl
  exact ⟨taken, by decide +kernel, outcomes, by decide +kernel, reached⟩

end Interface

end Airlink
