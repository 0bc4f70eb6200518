import Airlink.Proofs.Storage.Buffers

/-!
# Interfaces that are given the same frames

Two interfaces are alike if they differ at most by the buffers in which the same frames wait
(`Interface.Alike`). Given related buffers, and parties outside that answer alike, they receive and
send alike: they reach interfaces that are alike again, with the same stations and counters, and
leave the parties in states that correspond (`Interface.Ends`). Receiving does so for any relation
that the operations on buffers keep (`receive_alike`, `receiveReordered_alike`). Sending reads the
flags and the priority of a frame too, and so is compared for buffers with the same frame
(`send_alike`, `relay_alike`).
-/

namespace Airlink

variable {σ τ : Type}

namespace Interface

/-- Interfaces that differ at most by the buffers in which the same frames wait. -/
structure Alike (r : Buffer → Buffer → Prop) (i j : Interface) : Prop where
  rest : { i with backlog := j.backlog } = j
  frames : List.Forall₂ r i.backlog.frames j.backlog.frames
  pending : i.backlog.pending = j.backlog.pending
  draining : i.backlog.draining = j.backlog.draining

namespace Alike

variable {r : Buffer → Buffer → Prop} {i j : Interface}

theorem refl (reflexive : ∀ b, r b b) (i : Interface) : i.Alike r i :=
  ⟨rfl, List.forall₂_same.2 fun b _ => reflexive b, rfl, rfl⟩

theorem bssNum (h : i.Alike r j) : i.bssNum = j.bssNum := by rw [← h.rest]

theorem settings (h : i.Alike r j) : i.settings = j.settings := by rw [← h.rest]

theorem blockAck (h : i.Alike r j) : i.blockAck = j.blockAck := by rw [← h.rest]

theorem stations (h : i.Alike r j) : i.stations = j.stations := by rw [← h.rest]

theorem egress (h : i.Alike r j) : i.egress = j.egress := by rw [← h.rest]

theorem nextToken (h : i.Alike r j) : i.nextToken = j.nextToken := by rw [← h.rest]

theorem isEmpty (h : i.Alike r j) : i.backlog.isEmpty = j.backlog.isEmpty := by
  rw [Backlog.isEmpty, Backlog.isEmpty, h.pending]

/-- What is done to all but the backlog is done alike. -/
theorem map (h : i.Alike r j) (f : Interface → Interface)
    (apart : ∀ l q, f { l with backlog := q } = { f l with backlog := q }) :
    (f i).Alike r (f j) := by
  have kept (l : Interface) : (f l).backlog = l.backlog := by
    rw [show f l = { f l with backlog := l.backlog } from apart l l.backlog]
  refine ⟨?_, ?_, ?_, ?_⟩
  · rw [kept, ← apart, h.rest]
  · rw [kept, kept]
    exact h.frames
  · rw [kept, kept, h.pending]
  · rw [kept, kept, h.draining]

theorem count (h : i.Alike r j) (f : Counters → Counters) : (i.count f).Alike r (j.count f) :=
  h.map (·.count f) fun _ _ => rfl

theorem withStations (h : i.Alike r j) (stations : StationTable) :
    Interface.Alike r { i with stations } { j with stations } :=
  h.map (fun l => { l with stations }) fun _ _ => rfl

theorem enqueue (h : i.Alike r j) {b c : Buffer} (bufs : r b c) :
    Interface.Alike r { i with backlog := i.backlog.enqueue b }
      { j with backlog := j.backlog.enqueue c } := by
  have frames := List.rel_append h.frames (.cons bufs .nil)
  refine ⟨?_, frames, frames.length_eq, h.draining⟩
  exact congrArg (fun l : Interface => { l with backlog := j.backlog.enqueue c }) h.rest

end Alike

/-- Two runs ended alike: the interfaces are alike and the states of the parties correspond. -/
def Ends (r : Buffer → Buffer → Prop) (S : σ → τ → Prop) (x : Interface × σ)
    (y : Interface × τ) : Prop :=
  x.1.Alike r y.1 ∧ S x.2 y.2

/-! ## Receiving -/

section Receiving

variable {r : Buffer → Buffer → Prop} {S : σ → τ → Prop} {o : Outside σ} {p : Outside τ}
  {i j : Interface} {s : σ} {t : τ} {b c : Buffer}

/-- An offer gets the same answer. -/
theorem handOff_alike (parties : o.Alike r S p) (h : i.Alike r j) (states : S s t) (bufs : r b c)
    (seq : UInt16) (trafficId : UInt8) (peer : HwAddr) (frameClass : FrameClass) :
    ∃ answer x y, i.handOff o s seq trafficId peer frameClass b = (answer, x) ∧
      j.handOff p t seq trafficId peer frameClass c = (answer, y) ∧ Ends r S x y := by
  obtain ⟨answer, states⟩ := parties.reorder seq trafficId peer frameClass bufs states
  refine ⟨_, (i.count Counters.countHandoff, _), (j.count Counters.countHandoff, _), rfl, ?_,
    h.count Counters.countHandoff, states⟩
  unfold handOff
  rw [answer]

theorem receiveRequest_alike (cong : Buffer.Congruence r) (parties : o.Alike r S p)
    (h : i.Alike r j) (states : S s t) (bufs : r b c) (desc : RxDescriptor) :
    (i.receiveRequest o s b desc).1.Alike r (j.receiveRequest p t c desc).1 ∧
      Ends r S (i.receiveRequest o s b desc).2 (j.receiveRequest p t c desc).2 := by
  have dropped (reason : DropReason) : Outcome.Alike r (.drop reason) (.drop reason) ∧
      Ends r S (i, s) (j, t) := ⟨.drop reason, h, states⟩
  unfold receiveRequest
  rw [h.blockAck, cong.window bufs]
  split
  · exact dropped _
  cases desc.payload? c.window with
  | none => exact dropped _
  | some request =>
    dsimp only
    split
    · exact dropped _
    rw [parties.hasSession _ _ states]
    split
    · obtain ⟨answer, x, y, offered, offered', ends⟩ := handOff_alike parties h states bufs
        (request.le16At 18 >>> 4) (request.le16At 16 >>> 12).toUInt8
        (HwAddr.ofSlice request requestTransmitter) .blockAckRequest
      rw [offered, offered']
      cases answer with
      | ok _ => exact ⟨.event _, ends⟩
      | error e => exact ⟨.drop _, ends⟩
    · exact dropped _

theorem report_alike (parties : o.Alike r S p) (reports : List TdlsReport) (states : S s t) :
    S (report o reports s) (report p reports t) := by
  induction reports generalizing s t with
  | nil => exact states
  | cons first rest ih =>
    exact ih (parties.record first.peer first.capabilities first.action states)

theorem runIngress_alike (cong : Buffer.Congruence r) (parties : o.Alike r S p)
    (h : i.Alike r j) (states : S s t) (bufs : r b c) (near : Neighbors) (now : Instant)
    (desc : RxDescriptor) :
    List.Forall₂ (Outcome.Alike r) (i.runIngress o near now s b desc).1
        (j.runIngress p near now t c desc).1 ∧
      Ends r S (i.runIngress o near now s b desc).2 (j.runIngress p near now t c desc).2 := by
  obtain ⟨outcomes, state⟩ := Ingress.processAll_agree cong ⟨i.settings, near, now⟩
    ⟨i.stations, []⟩ bufs desc
  have same : Ingress.processAll ⟨j.settings, near, now⟩ ⟨j.stations, []⟩ c desc =
      Ingress.processAll ⟨i.settings, near, now⟩ ⟨i.stations, []⟩ c desc := by
    rw [h.settings, h.stations]
  unfold runIngress
  rw [same]
  dsimp only
  rw [state]
  exact ⟨outcomes, h.withStations _, report_alike parties _ states⟩

theorem rawCopy_alike (cong : Buffer.Congruence r) (h : i.Alike r j) (bufs : r b c)
    (desc : RxDescriptor) :
    List.Forall₂ (Outcome.Alike r) (i.rawCopy b desc) (j.rawCopy c desc) := by
  unfold rawCopy Ingress.monitorCopy
  rw [h.settings, cong.window bufs]
  split
  · cases desc.payload? c.window with
    | none => exact .nil
    | some payload =>
      have copies := cong.retype (cong.renew bufs (Radiotap.prefixed desc.reception payload)
        BufferFlags.monitor) (Ingress.frameTypeOf payload)
      exact .cons (.monitor copies) .nil
  · exact .nil

theorem notePeer_alike (h : i.Alike r j) (now : Instant) (peer : HwAddr) (desc : RxDescriptor) :
    (i.notePeer now peer desc).Alike r (j.notePeer now peer desc) :=
  h.map (·.notePeer now peer desc) fun _ _ => rfl

theorem sessionPeer?_eq (parties : o.Alike r S p) (h : i.Alike r j) (states : S s t)
    (desc : RxDescriptor) (frameClass : FrameClass) (payload : Bytes) :
    i.sessionPeer? o s desc frameClass payload = j.sessionPeer? p t desc frameClass payload := by
  unfold sessionPeer?
  simp only [h.blockAck, parties.hasSession _ _ states]

theorem receiveFrame_alike (cong : Buffer.Congruence r) (parties : o.Alike r S p)
    (h : i.Alike r j) (states : S s t) (bufs : r b c) (near : Neighbors) (now : Instant)
    (desc : RxDescriptor) :
    List.Forall₂ (Outcome.Alike r) (i.receiveFrame o near now s b desc).1
        (j.receiveFrame p near now t c desc).1 ∧
      Ends r S (i.receiveFrame o near now s b desc).2 (j.receiveFrame p near now t c desc).2 := by
  unfold receiveFrame
  rw [cong.window bufs]
  generalize (desc.payload? c.window).getD [] = payload
  dsimp only
  have noted : Interface.Alike r
      ((desc.frameClass.bind (peerOf? payload)).elim i (i.notePeer now · desc))
      ((desc.frameClass.bind (peerOf? payload)).elim j (j.notePeer now · desc)) := by
    cases desc.frameClass.bind (peerOf? payload) with
    | none => exact h
    | some peer => exact notePeer_alike h now peer desc
  revert noted
  generalize (desc.frameClass.bind (peerOf? payload)).elim i (i.notePeer now · desc) = i
  generalize (desc.frameClass.bind (peerOf? payload)).elim j (j.notePeer now · desc) = j
  intro h
  simp only [sessionPeer?_eq parties h states]
  generalize desc.frameClass.bind
    (fun c => (j.sessionPeer? p t desc c payload).map (c, ·)) = session
  cases session with
  | some session =>
    obtain ⟨answer, x, y, offered, offered', ends⟩ := handOff_alike parties h states bufs
      desc.seqNum desc.priority session.2 session.1
    dsimp only
    rw [offered, offered']
    cases answer with
    | ok _ => exact ⟨.nil, ends⟩
    | error e => exact ⟨.cons (.drop _) .nil, ends⟩
  | none =>
    obtain ⟨outcomes, ends⟩ := runIngress_alike cong parties h states bufs near now desc
    exact ⟨List.rel_append (rawCopy_alike cong h bufs desc) outcomes, ends⟩

theorem receive_alike (cong : Buffer.Congruence r) (parties : o.Alike r S p)
    (h : i.Alike r j) (states : S s t) (bufs : r b c) (near : Neighbors) (now : Instant) :
    List.Forall₂ (Outcome.Alike r) (i.receive o near now s b).1 (j.receive p near now t c).1 ∧
      Ends r S (i.receive o near now s b).2 (j.receive p near now t c).2 := by
  unfold receive
  rw [cong.window bufs, cong.size bufs]
  have counted := h.count (·.received c.size)
  dsimp only
  split
  · exact ⟨.cons (.drop _) .nil, counted, states⟩
  · split
    · obtain ⟨outcome, ends⟩ := receiveRequest_alike cong parties counted states bufs _
      exact ⟨.cons outcome .nil, ends⟩
    · exact receiveFrame_alike cong parties counted states bufs near now _

theorem receiveReordered_alike (cong : Buffer.Congruence r) (parties : o.Alike r S p)
    (h : i.Alike r j) (states : S s t) (bufs : r b c) (near : Neighbors) (now : Instant) :
    List.Forall₂ (Outcome.Alike r) (i.receiveReordered o near now s b).1
        (j.receiveReordered p near now t c).1 ∧
      Ends r S (i.receiveReordered o near now s b).2 (j.receiveReordered p near now t c).2 := by
  unfold receiveReordered
  rw [cong.window bufs]
  split
  · exact ⟨.cons (.drop _) .nil, h, states⟩
  · exact runIngress_alike cong parties h states (cong.flag bufs _) near now _

end Receiving

/-! ## Sending -/

section Sending

open Buffer (SameFrame)

variable {stamped : Prop} {S : σ → τ → Prop} {o : Outside σ} {p : Outside τ} {i j : Interface}
  {s : σ} {t : τ} {b c : Buffer}

theorem complete_alike (parties : o.Alike (SameFrame stamped) S p) (states : S s t)
    (same : b.SameFrame stamped c) (status : TxStatus) :
    S (complete o b status s) (complete p c status t) := by
  unfold complete
  rw [same.flags]
  split
  · exact states
  obtain ⟨e, hb, hc⟩ | ⟨payload, payload', hb, hc, moved⟩ :=
    ((SameFrame.congruence stamped).advance same TxDescriptor.size).cases
  · rw [hb, hc]
    exact parties.sendComplete same status states
  · rw [hb, hc]
    exact parties.sendComplete moved status states

theorem account_alike {x y : Submission} (h : i.Alike (SameFrame stamped) j)
    (answers : x.Alike (SameFrame stamped) y) :
    (i.account x).Alike (SameFrame stamped) (j.account y) := by
  have apart (answer : Submission) (l : Interface) (q : Backlog) :
      account { l with backlog := q } answer = { l.account answer with backlog := q } := by
    cases answer with
    | success buf =>
      unfold account
      dsimp only
      split
      · rfl
      · rfl
    | busy buf => rfl
    | failure buf reason => rfl
  cases answers with
  | @success b c same =>
    have counted : j.account (.success b) = j.account (.success c) := by
      simp only [account, same.window]
    rw [← counted]
    exact h.map (·.account (.success b)) (apart (.success b))
  | busy same => exact h.count _
  | failure same reason => exact h.count _

theorem submit_alike (parties : o.Alike (SameFrame stamped) S p)
    (h : i.Alike (SameFrame stamped) j) (states : S s t) (same : b.SameFrame stamped c) :
    Ends (SameFrame stamped) S (i.submit o s b) (j.submit p t c) := by
  unfold submit
  rw [h.isEmpty]
  split
  · obtain ⟨answers, states⟩ := parties.submit same states
    generalize o.submit b s = x at answers states ⊢
    generalize p.submit c t = y at answers states ⊢
    obtain ⟨answer, s⟩ := x
    obtain ⟨answer', t⟩ := y
    have counted := account_alike h answers
    cases answers with
    | success back => exact ⟨counted, complete_alike parties states back .success⟩
    | busy back => exact ⟨counted.enqueue back, states⟩
    | failure back reason => exact ⟨counted, complete_alike parties states back (.failure reason)⟩
  · exact ⟨h.enqueue same, states⟩

/-- A frame is refused in both buffers, or submitted behind the same descriptor. -/
theorem attached_alike (parties : o.Alike (SameFrame stamped) S p)
    (h : i.Alike (SameFrame stamped) j) (states : S s t) (same : b.SameFrame stamped c)
    (hints : TransmitHints) :
    (∃ e, i.egress.attach b hints = .error e ∧ j.egress.attach c hints = .error e ∧
      Ends (SameFrame stamped) S (i.count Counters.countOversized, s)
        (j.count Counters.countOversized, t)) ∨
    ∃ framed framed', i.egress.attach b hints = .ok framed ∧
      j.egress.attach c hints = .ok framed' ∧
      Ends (SameFrame stamped) S (i.submit o s framed) (j.submit p t framed') := by
  rw [h.egress]
  obtain refused | ⟨framed, framed', hb, hc, frames⟩ := (j.egress.attach_alike same hints).cases
  · obtain ⟨e, hb, hc⟩ := refused
    exact .inl ⟨e, hb, hc, h.count _, states⟩
  · exact .inr ⟨framed, framed', hb, hc, submit_alike parties h states frames⟩

theorem relay_alike (parties : o.Alike (SameFrame stamped) S p)
    (h : i.Alike (SameFrame stamped) j) (states : S s t) (same : b.SameFrame stamped c) :
    Ends (SameFrame stamped) S (i.relay o s b) (j.relay p t c) := by
  unfold relay
  obtain ⟨e, hb, hc, ends⟩ | ⟨framed, framed', hb, hc, ends⟩ :=
    attached_alike parties h states same .none
  · rw [hb, hc]
    exact ends
  · rw [hb, hc]
    exact ends

theorem send_alike (parties : o.Alike (SameFrame stamped) S p)
    (h : i.Alike (SameFrame stamped) j) (states : S s t) (same : b.SameFrame stamped c)
    (hints : TransmitHints) :
    (i.send o s b hints).1 = (j.send p t c hints).1 ∧
      Ends (SameFrame stamped) S (i.send o s b hints).2 (j.send p t c hints).2 := by
  have flagged (hints : TransmitHints) : SameFrame stamped
      (if hints.reportStatus then b.flag BufferFlags.txStatus else b)
      (if hints.reportStatus then c.flag BufferFlags.txStatus else c) := by
    split
    · exact (SameFrame.congruence stamped).flag same _
    · exact same
  have next := h.map (fun l => { l with nextToken := j.nextToken + 1 }) fun _ _ => rfl
  unfold send
  rw [h.nextToken]
  -- Both interfaces give out the same token, or neither does.
  by_cases fresh : (hints.reportStatus && hints.statusToken.isNone) = true
  · simp only [if_pos fresh]
    obtain ⟨e, hb, hc, ends⟩ | ⟨framed, framed', hb, hc, ends⟩ := attached_alike parties next states
      (flagged _) { hints with statusToken := some j.nextToken }
    · rw [hb, hc]
      exact ⟨rfl, ends⟩
    · rw [hb, hc]
      exact ⟨rfl, ends⟩
  · simp only [if_neg fresh]
    obtain ⟨e, hb, hc, ends⟩ | ⟨framed, framed', hb, hc, ends⟩ := attached_alike parties h states
      (flagged _) hints
    · rw [hb, hc]
      exact ⟨rfl, ends⟩
    · rw [hb, hc]
      exact ⟨rfl, ends⟩

end Sending

end Interface

end Airlink
