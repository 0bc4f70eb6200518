import Airlink.Proofs.Aggregate
import Airlink.Proofs.Arising
import Airlink.Proofs.Descriptor
import Airlink.Proofs.Receive.Log
import Airlink.Replay
import Mathlib.Tactic.ByContra

/-!
# The outcomes of a received frame

A received frame goes one of three ways (`Received`): the reorder engine was offered it and took it,
which leaves no outcome; or it refused it, which drops the frame; or the frame was processed, with
as many outcomes as are due to it (`Interface.due`): one as a rule, one for each part of an
aggregate and one more for a tail that is no part, and two for a raw frame of which a monitor gets a
copy.

So a frame is without an outcome if the reorder engine has it, and in one other case only: it is an
aggregate without any octet, which has no part and no tail (`receive_eq_nil_iff`).
-/

namespace Airlink

open Outside (Call)

variable {σ : Type}

/-- The number of pieces of an aggregate: its parts, and the tail that is no part, if it has one. -/
def Aggregate.pieces (payload : Bytes) : Nat :=
  (cut payload).1.length + if (cut payload).2 = [] then 0 else 1

/-- An aggregate has no piece just when it has no octet. -/
theorem Aggregate.pieces_eq_zero_iff {payload : Bytes} : pieces payload = 0 ↔ payload = [] := by
  unfold pieces
  constructor
  · intro nothing
    cases hs : partSize? payload with
    | none =>
      rw [cut_of_none hs] at nothing
      by_contra some
      rw [if_neg some] at nothing
      cases nothing
    | some size =>
      rw [cut_of_some hs, List.length_cons] at nothing
      omega
  · rintro rfl
    rw [cut_of_none rfl]
    rfl

/-! ## Ingress -/

namespace Ingress

theorem length_processParts (env : Env) (desc : RxDescriptor) (st : State) (parts : List Buffer) :
    (processParts env desc st parts).1.length = parts.length := by
  induction parts generalizing st with
  | nil => rfl
  | cons part parts ih => exact congrArg (· + 1) (ih _)

/-- Processing an aggregate has an outcome for each part, and one more for a tail. -/
theorem length_processAll_amsdu (env : Env) (st : State) {buf : Buffer} {desc : RxDescriptor}
    (isAmsdu : desc.frameClass = some .amsdu) {payload : Bytes}
    (hp : desc.payload? buf.window = some payload) :
    (processAll env st buf desc).1.length = Aggregate.pieces payload := by
  unfold processAll Aggregate.pieces
  rw [if_pos isAmsdu, hp]
  dsimp only [Aggregate.split]
  rw [List.length_append, length_processParts, List.length_map]
  cases (Aggregate.cut payload).2 <;> rfl

/-- Processing any other frame has one outcome. -/
theorem length_processAll_single (env : Env) (st : State) (buf : Buffer) {desc : RxDescriptor}
    (notAmsdu : desc.frameClass ≠ some .amsdu) : (processAll env st buf desc).1.length = 1 := by
  unfold processAll
  rw [if_neg notAmsdu]
  rfl

/-- Processing has no outcome just for an aggregate without any octet. -/
theorem processAll_eq_nil_iff (env : Env) (st : State) {buf : Buffer} {desc : RxDescriptor}
    (h : RxDescriptor.decode buf.window = .ok desc) :
    (processAll env st buf desc).1 = [] ↔ desc.frameClass = some .amsdu ∧ desc.pktLength = 0 := by
  rw [← List.length_eq_zero_iff]
  by_cases isAmsdu : desc.frameClass = some .amsdu
  · rw [length_processAll_amsdu env st isAmsdu (RxDescriptor.payload?_of_decode h),
      Aggregate.pieces_eq_zero_iff, RxDescriptor.drop_eq_nil_iff_of_decode h]
    exact (and_iff_right isAmsdu).symm
  · rw [length_processAll_single env st buf isAmsdu]
    exact ⟨fun nothing => (by cases nothing), fun both => absurd both.1 isAmsdu⟩

end Ingress

/-! ## The outcomes that are due -/

/-- The number of outcomes due to a received frame, unless it goes to the reorder engine. -/
def Interface.due (i : Interface) (buf : Buffer) : Nat :=
  match RxDescriptor.decode buf.window with
  | .error _ => 1
  | .ok desc =>
    match desc.frameClass with
    | some .amsdu => Aggregate.pieces (buf.window.drop desc.pktOffset.toNat)
    | some .raw80211 =>
      if i.settings.role = .accessPoint ∧ i.settings.rawMonitor = true then 2 else 1
    | _ => 1

/-- A frame whose descriptor names an aggregate without any octet. -/
def IsEmptyAggregate (buf : Buffer) : Prop :=
  ∃ desc, RxDescriptor.decode buf.window = .ok desc ∧ desc.frameClass = some .amsdu ∧
    desc.pktLength = 0

/-- No outcome is due to an empty aggregate, and to no other frame. -/
theorem Interface.due_eq_zero_iff (i : Interface) (buf : Buffer) :
    i.due buf = 0 ↔ IsEmptyAggregate buf := by
  unfold due IsEmptyAggregate
  cases hd : RxDescriptor.decode buf.window with
  | error e => simp
  | ok desc =>
    have empty := RxDescriptor.drop_eq_nil_iff_of_decode hd
    cases hc : desc.frameClass with
    | none => simp [hc]
    | some frameClass =>
      cases frameClass with
      | amsdu => simp [hc, Aggregate.pieces_eq_zero_iff, empty]
      | raw80211 =>
        simp only [hc]
        split <;> simp [hc]
      | data => simp [hc]
      | blockAckRequest => simp [hc]
      | management => simp [hc]
      | debug => simp [hc]

/-! ## The ways of a frame -/

/-- The ways that a received frame goes, by the calls that it causes, and its outcomes. Only a frame
with two addresses in front of its payload is offered to the reorder engine. -/
inductive Received (i : Interface) (buf : Buffer) : List Call → List Outcome → Prop where
  | taken {calls : List Call} (offer : offers calls = [(buf, .ok ())]) : Received i buf calls []
  | refused {calls : List Call} {e : Error} (offer : offers calls = [(buf, .error e)])
      (notEmpty : ¬ IsEmptyAggregate buf) : Received i buf calls [.drop .reorderRejected]
  | processed {calls : List Call} {outcomes : List Outcome} (offer : offers calls = [])
      (count : outcomes.length = i.due buf) : Received i buf calls outcomes

/-- Only the number of outcomes that are due depends on the interface. -/
theorem Received.of_due_eq {i j : Interface} {buf : Buffer} {calls : List Call}
    {outcomes : List Outcome} (h : Received i buf calls outcomes) (e : i.due buf = j.due buf) :
    Received j buf calls outcomes := by
  cases h with
  | taken offer => exact .taken offer
  | refused offer notEmpty => exact .refused offer notEmpty
  | processed offer count => exact .processed offer (count.trans e)

namespace Interface

/-- Direct-link frames are reported by calls of another kind. -/
theorem report_logged (o : Outside σ) (reports : List TdlsReport) (s : σ) (log : List Call) :
    report o.logged reports (s, log) =
      (report o reports s, log ++ reports.map fun r => .record r.peer r.capabilities r.action) := by
  induction reports generalizing s log with
  | nil => simp [report]
  | cons r reports ih =>
    have rest := ih (o.record r.peer r.capabilities r.action s)
      (log ++ [.record r.peer r.capabilities r.action])
    rw [List.append_assoc] at rest
    exact rest

theorem offers_records (reports : List TdlsReport) :
    offers (reports.map fun r => .record r.peer r.capabilities r.action) = [] :=
  List.filterMap_eq_nil_iff.2 fun call mem => by
    obtain ⟨r, -, rfl⟩ := List.mem_map.1 mem
    rfl

/-- The copy for a monitor of a frame that could be decoded. -/
theorem length_rawCopy (i : Interface) {buf : Buffer} {desc : RxDescriptor}
    (h : RxDescriptor.decode buf.window = .ok desc) :
    (i.rawCopy buf desc).length =
      if desc.frameClass = some .raw80211 ∧ i.settings.role = .accessPoint ∧
        i.settings.rawMonitor = true then 1 else 0 := by
  unfold rawCopy
  split
  · rw [Ingress.monitorCopy, RxDescriptor.payload?_of_decode h]
    rfl
  · rfl

/-- What a frame that is not offered to the reorder engine comes to. -/
theorem length_processed (env : Ingress.Env) (st : Ingress.State) (i : Interface) {buf : Buffer}
    {desc : RxDescriptor} (h : RxDescriptor.decode buf.window = .ok desc) :
    (i.rawCopy buf desc ++ (Ingress.processAll env st buf desc).1).length = i.due buf := by
  rw [List.length_append, i.length_rawCopy h]
  unfold due
  rw [h]
  dsimp only
  have single := @Ingress.length_processAll_single env st buf desc
  cases hc : desc.frameClass with
  | none => simp [single, hc]
  | some frameClass =>
    cases frameClass with
    | amsdu =>
      rw [Ingress.length_processAll_amsdu env st hc (RxDescriptor.payload?_of_decode h)]
      simp
    | raw80211 =>
      rw [single (by simp [hc])]
      dsimp only
      split
      · next copied => rw [if_pos copied.2]
      · next alone => rw [if_neg fun both => alone ⟨rfl, both⟩]
    | data => simp [single, hc]
    | blockAckRequest => simp [single, hc]
    | management => simp [single, hc]
    | debug => simp [single, hc]

/-- An offer is noted. -/
theorem handOff_logged (o : Outside σ) (i : Interface) (s : σ) (log : List Call) (seq : UInt16)
    (trafficId : UInt8) (peer : HwAddr) (frameClass : FrameClass) (buf : Buffer) :
    i.handOff o.logged (s, log) seq trafficId peer frameClass buf =
      ((i.handOff o s seq trafficId peer frameClass buf).1,
        (i.handOff o s seq trafficId peer frameClass buf).2.1,
        (i.handOff o s seq trafficId peer frameClass buf).2.2,
        log ++ [.reorder seq trafficId peer frameClass buf
          (i.handOff o s seq trafficId peer frameClass buf).1]) := rfl

/-- Receiving a block-ack request makes no offer of a data frame, and keeping the log changes
nothing. -/
theorem receiveRequest_logged (o : Outside σ) (i : Interface) (s : σ) (log : List Call)
    (buf : Buffer) (desc : RxDescriptor) :
    ∃ calls, i.receiveRequest o.logged (s, log) buf desc =
        ((i.receiveRequest o s buf desc).1, (i.receiveRequest o s buf desc).2.1,
          (i.receiveRequest o s buf desc).2.2, log ++ calls) ∧ offers calls = [] := by
  have quiet (outcome : Outcome) : ∃ calls : List Call,
      ((outcome, i, s, log) : Outcome × Interface × σ × List Call) = (outcome, i, s, log ++ calls) ∧
        offers calls = [] := ⟨[], by rw [List.append_nil], rfl⟩
  have sameSession (trafficId : UInt8) (peer : HwAddr) :
      o.logged.hasSession trafficId peer (s, log) = o.hasSession trafficId peer s := rfl
  unfold receiveRequest
  split
  · exact quiet _
  · split
    · exact quiet _
    · next request _ =>
      split
      · exact quiet _
      · simp only [sameSession]
        by_cases session : o.hasSession (request.le16At 16 >>> 12).toUInt8
            (HwAddr.ofSlice request requestTransmitter) s = true
        · simp only [if_pos session, handOff_logged]
          rcases i.handOff o s (request.le16At 18 >>> 4) (request.le16At 16 >>> 12).toUInt8
            (HwAddr.ofSlice request requestTransmitter) .blockAckRequest buf with ⟨_ | _, j, t⟩
          · exact ⟨_, rfl, rfl⟩
          · exact ⟨_, rfl, rfl⟩
        · simp only [if_neg session]
          exact quiet _

/-- A frame that goes through the reorder engine has two addresses in front of its payload. -/
theorem not_isEmptyAggregate_of_sessionPeer? {o : Outside σ} {i : Interface} {s : σ} {buf : Buffer}
    {desc : RxDescriptor} (hd : RxDescriptor.decode buf.window = .ok desc) {frameClass : FrameClass}
    {peer : HwAddr}
    (h : i.sessionPeer? o s desc frameClass (buf.window.drop desc.pktOffset.toNat) = some peer) :
    ¬ IsEmptyAggregate buf := by
  rintro ⟨desc', hd', -, empty⟩
  cases Except.ok.inj (hd.symm.trans hd')
  rw [(RxDescriptor.drop_eq_nil_iff_of_decode hd).2 empty] at h
  unfold sessionPeer? at h
  split at h
  · next conditions => exact absurd conditions.2.1 (by decide)
  · cases h

/-- The class of a frame that goes through the reorder engine. -/
theorem isData_of_sessionPeer? {o : Outside σ} {i : Interface} {s : σ} {desc : RxDescriptor}
    {frameClass : FrameClass} {payload : Bytes} {peer : HwAddr}
    (h : i.sessionPeer? o s desc frameClass payload = some peer) :
    frameClass = .data ∨ frameClass = .amsdu := by
  unfold sessionPeer? at h
  split at h
  · next conditions => exact conditions.2.2
  · cases h

/-- Every other frame goes one of the three ways, and keeping the log changes nothing. -/
theorem receiveFrame_logged (o : Outside σ) (near : Neighbors) (now : Instant) (i : Interface)
    (s : σ) (log : List Call) {buf : Buffer} {desc : RxDescriptor}
    (hd : RxDescriptor.decode buf.window = .ok desc) :
    ∃ calls, i.receiveFrame o.logged near now (s, log) buf desc =
        ((i.receiveFrame o near now s buf desc).1, (i.receiveFrame o near now s buf desc).2.1,
          (i.receiveFrame o near now s buf desc).2.2, log ++ calls) ∧
      Received i buf calls (i.receiveFrame o near now s buf desc).1 := by
  have declared := RxDescriptor.payload?_of_decode hd
  unfold receiveFrame
  simp only [declared, Option.getD_some]
  generalize hn : (desc.frameClass.bind
    (peerOf? (buf.window.drop desc.pktOffset.toNat))).elim i (i.notePeer now · desc) = noted
  have sameDue : noted.due buf = i.due buf := by
    rw [← hn]
    cases desc.frameClass.bind (peerOf? (buf.window.drop desc.pktOffset.toNat)) <;> rfl
  have sameSession (c : FrameClass) :
      noted.sessionPeer? o.logged (s, log) desc c (buf.window.drop desc.pktOffset.toNat) =
        noted.sessionPeer? o s desc c (buf.window.drop desc.pktOffset.toNat) := rfl
  simp only [sameSession]
  cases hs : desc.frameClass.bind fun c =>
      (noted.sessionPeer? o s desc c (buf.window.drop desc.pktOffset.toNat)).map (c, ·) with
  | some session =>
    obtain ⟨frameClass, peer⟩ := session
    obtain ⟨c, -, hc⟩ := Option.bind_eq_some_iff.1 hs
    obtain ⟨p, hp, e⟩ := Option.map_eq_some_iff.1 hc
    cases e
    have notEmpty := not_isEmptyAggregate_of_sessionPeer? hd hp
    have isOffer (answer : Except Error Unit) : offers
        [.reorder desc.seqNum desc.priority peer frameClass buf answer] = [(buf, answer)] := by
      obtain rfl | rfl := isData_of_sessionPeer? hp <;> rfl
    simp only [handOff_logged]
    rcases noted.handOff o s desc.seqNum desc.priority peer frameClass buf with ⟨_ | _, j, t⟩
    · exact ⟨_, rfl, .refused (isOffer _) notEmpty⟩
    · exact ⟨_, rfl, .taken (isOffer _)⟩
  | none =>
    dsimp only [runIngress]
    rw [report_logged]
    refine ⟨_, rfl, .processed (offers_records _) ?_⟩
    rw [noted.length_processed _ _ hd, sameDue]

/-- Every received frame goes one of the three ways, and keeping the log changes nothing. -/
theorem receive_logged (o : Outside σ) (near : Neighbors) (now : Instant) (i : Interface)
    (s : σ) (log : List Call) (buf : Buffer) :
    ∃ calls, i.receive o.logged near now (s, log) buf =
        ((i.receive o near now s buf).1, (i.receive o near now s buf).2.1,
          (i.receive o near now s buf).2.2, log ++ calls) ∧
      Received i buf calls (i.receive o near now s buf).1 := by
  have sameDue : (i.count (·.received buf.size)).due buf = i.due buf := rfl
  unfold receive
  cases hd : RxDescriptor.decode buf.window with
  | error e =>
    exact ⟨[], by rw [List.append_nil], .processed rfl (by simp [due, hd])⟩
  | ok desc =>
    dsimp only
    split
    · next isRequest =>
      obtain ⟨calls, e, none⟩ :=
        (i.count (·.received buf.size)).receiveRequest_logged o s log buf desc
      rw [e]
      exact ⟨calls, rfl, .processed none (by simp [due, hd, isRequest])⟩
    · obtain ⟨calls, e, way⟩ :=
        (i.count (·.received buf.size)).receiveFrame_logged o near now s log hd
      exact ⟨calls, e, way.of_due_eq sameDue⟩

/-- A frame that the reorder engine has released is without an outcome just if it is an aggregate
without any octet. -/
theorem receiveReordered_eq_nil (o : Outside σ) (near : Neighbors) (now : Instant)
    (i : Interface) (s : σ) (buf : Buffer) :
    (i.receiveReordered o near now s buf).1 = [] ↔ IsEmptyAggregate buf := by
  unfold receiveReordered IsEmptyAggregate
  cases hd : RxDescriptor.decode buf.window with
  | error e => simp
  | ok desc =>
    have released : RxDescriptor.decode (buf.flag BufferFlags.reordered).window = .ok desc := hd
    refine (Ingress.processAll_eq_nil_iff _ _ released).trans ⟨fun both => ⟨desc, rfl, both⟩, ?_⟩
    rintro ⟨desc', e, both⟩
    cases e
    exact both

/-! ## Frames without an outcome -/

/-- **No frame vanishes but the empty aggregate.** A received frame is without an outcome just if
the reorder engine was offered it and took it, or if it is an aggregate without any octet; a frame
that the reorder engine has released, just if it is such an aggregate. Keeping the log that tells of
the offers changes nothing. -/
theorem receive_eq_nil_iff (o : Outside σ) (near : Neighbors) (now : Instant) (i : Interface)
    (s : σ) (buf : Buffer) :
    let run := i.receive o.logged near now (s, []) buf
    (run.1, run.2.1, run.2.2.1) = i.receive o near now s buf ∧
      (run.1 = [] ↔ offers run.2.2.2 = [(buf, .ok ())] ∨ IsEmptyAggregate buf) ∧
      ((i.receiveReordered o near now s buf).1 = [] ↔ IsEmptyAggregate buf) := by
  obtain ⟨calls, run, way⟩ := i.receive_logged o near now s [] buf
  rw [run]
  refine ⟨rfl, ?_, i.receiveReordered_eq_nil o near now s buf⟩
  dsimp only
  rw [List.nil_append]
  generalize (i.receive o near now s buf).1 = outcomes at way
  cases way with
  | taken offer => exact iff_of_true rfl (.inl offer)
  | refused offer notEmpty =>
    refine iff_of_false (by simp) ?_
    rintro (taken | empty)
    · rw [offer] at taken
      cases taken
    · exact notEmpty empty
  | processed offer count =>
    rw [← List.length_eq_zero_iff, count, i.due_eq_zero_iff, offer]
    simp

/-- A receive descriptor of an aggregate with no octet behind it. -/
def emptyAggregate : Bytes :=
  [1, 0, 0, 0, 24, 0, 3, 0] ++ List.replicate 16 0

/-- The empty aggregate is without an outcome, and the reorder engine was not offered it. -/
theorem receive_emptyAggregate :
    let run := standard.receive Replay.accepting.logged [] 0 ((), []) (.ofBytes .rx emptyAggregate)
    run.1 = [] ∧ run.2.2.2 = [] ∧ (standard.receiveReordered Replay.accepting [] 0 ()
      (.ofBytes .rx emptyAggregate)).1 = [] := by
  decide +kernel

end Interface

end Airlink
