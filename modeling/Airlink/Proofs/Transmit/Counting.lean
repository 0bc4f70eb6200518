import Airlink.Proofs.HwAddr
import Airlink.Proofs.Transmit.Framing
import Airlink.Proofs.Transmit.Tokens

/-!
# Counting what was transmitted

An interface counts the answers of the transport, and the frames that are too long. What a stretch
of work adds to the counters and to the entries of the stations is read off the submissions that
were made in it (`Counts`). One operation is counted by `TxOp.apply_counts`; counts of successive
stretches add up (`Counts.trans`), so a run is counted by the answers of the transport in it, in
whichever operations they were given. A frame that waits, or is flushed, is not counted.
-/

namespace Airlink

open Outside (Call)

variable {σ : Type}

/-! ## Answers of the transport -/

namespace Submission

/-- The transport took the frame. -/
def isSuccess : Submission → Bool
  | .success _ => true
  | _ => false

/-- The transport was busy. -/
def isBusy : Submission → Bool
  | .busy _ => true
  | _ => false

/-- The transport failed. -/
def isFailure : Submission → Bool
  | .failure _ _ => true
  | _ => false

end Submission

/-- The payloads of the frames that the transport took, without their descriptors. -/
def sentPayloads (made : List (Buffer × Submission)) : List Bytes :=
  (made.filter (·.2.isSuccess)).map (·.1.unframed.bytes)

@[simp] theorem sentPayloads_nil : sentPayloads [] = [] := rfl

@[simp] theorem sentPayloads_append (made made' : List (Buffer × Submission)) :
    sentPayloads (made ++ made') = sentPayloads made ++ sentPayloads made' := by
  simp [sentPayloads]

/-- The number of octets of some payloads. -/
def octetsOf (payloads : List Bytes) : Nat := (payloads.map List.length).sum

@[simp] theorem octetsOf_nil : octetsOf [] = 0 := rfl

@[simp] theorem octetsOf_append (payloads payloads' : List Bytes) :
    octetsOf (payloads ++ payloads') = octetsOf payloads + octetsOf payloads' := by
  simp [octetsOf]

/-! ## What they add -/

/-- The counters after some submissions, and after a number of frames that were too long. -/
def Counters.transmitted (c : Counters) (made : List (Buffer × Submission)) (refused : Nat) :
    Counters :=
  { c with
    txPackets := c.txPackets + UInt64.ofNat (made.countP (·.2.isSuccess))
    txBytes := c.txBytes + UInt64.ofNat (octetsOf (sentPayloads made))
    busyRequeues := c.busyRequeues + UInt64.ofNat (made.countP (·.2.isBusy))
    transportFailures := c.transportFailures + UInt64.ofNat (made.countP (·.2.isFailure))
    oversizedRejects := c.oversizedRejects + UInt64.ofNat refused }

theorem Counters.transmitted_nil (c : Counters) : c.transmitted [] 0 = c := by
  simp [transmitted]

theorem Counters.transmitted_append (c : Counters) (made made' : List (Buffer × Submission))
    (refused refused' : Nat) :
    (c.transmitted made refused).transmitted made' refused' =
      c.transmitted (made ++ made') (refused + refused') := by
  simp [transmitted, UInt64.ofNat_add, UInt64.add_assoc]

/-- The payloads that start with an address. -/
def payloadsTo (addr : HwAddr) (payloads : List Bytes) : List Bytes :=
  payloads.filter (·.take 6 = addr.toBytes)

@[simp] theorem payloadsTo_nil (addr : HwAddr) : payloadsTo addr [] = [] := rfl

@[simp] theorem payloadsTo_append (addr : HwAddr) (payloads payloads' : List Bytes) :
    payloadsTo addr (payloads ++ payloads') =
      payloadsTo addr payloads ++ payloadsTo addr payloads' :=
  List.filter_append ..

/-- A station after some payloads were sent. Those that start with its address went to it. -/
def Station.sentAll (s : Station) (payloads : List Bytes) : Station :=
  { s with
    txPackets := s.txPackets + UInt64.ofNat (payloadsTo s.addr payloads).length
    txBytes := s.txBytes + UInt64.ofNat (octetsOf (payloadsTo s.addr payloads)) }

theorem Station.sentAll_nil (s : Station) : s.sentAll [] = s := by
  simp [sentAll]

theorem Station.sentAll_append (s : Station) (payloads payloads' : List Bytes) :
    (s.sentAll payloads).sentAll payloads' = s.sentAll (payloads ++ payloads') := by
  simp [sentAll, UInt64.ofNat_add, UInt64.add_assoc]

/-- A payload that starts with the address of a station went to it, and no other did. -/
theorem Station.sentAll_singleton (s : Station) (payload : Bytes) :
    s.sentAll [payload] =
      if payload.take 6 = s.addr.toBytes then s.sent payload.length else s := by
  unfold sentAll payloadsTo
  by_cases here : payload.take 6 = s.addr.toBytes
  · simp [here, sent, octetsOf]
  · simp [here]

/-- A table after some payloads were sent. -/
def StationTable.sentAll (t : StationTable) (payloads : List Bytes) : StationTable :=
  { t with stations := t.stations.map (·.sentAll payloads) }

theorem StationTable.sentAll_nil (t : StationTable) : t.sentAll [] = t := by
  simp [sentAll, Station.sentAll_nil]

theorem StationTable.sentAll_append (t : StationTable) (payloads payloads' : List Bytes) :
    (t.sentAll payloads).sentAll payloads' = t.sentAll (payloads ++ payloads') := by
  simp [sentAll, Function.comp_def, Station.sentAll_append]

/-! ## One submission -/

/-- The entry of the address that a payload starts with counts it. -/
theorem StationTable.sentAll_singleton (t : StationTable) (payload : Bytes) :
    t.sentAll [payload] =
      match HwAddr.at? payload 0 with
      | some dest => t.modify dest (·.sent payload.length)
      | none => t := by
  unfold sentAll
  simp only [Station.sentAll_singleton, ← HwAddr.at?_zero_eq_some_iff]
  cases HwAddr.at? payload 0 with
  | none => simp
  | some dest =>
    unfold modify
    simp only [Option.some_inj, beq_iff_eq, eq_comm (a := dest)]

namespace Interface

variable (i : Interface) {answer : Submission} {buf : Buffer}

theorem counters_account (given : answer.buffer = buf) :
    (i.account answer).counters = i.counters.transmitted [(buf, answer)] 0 := by
  subst given
  cases answer with
  | success buf =>
    have sent : (i.account (.success buf)).counters =
        i.counters.sent buf.unframed.bytes.length := by
      unfold account
      dsimp only
      split <;> rfl
    rw [sent]
    simp [Counters.transmitted, Counters.sent, sentPayloads, octetsOf, Submission.isSuccess,
      Submission.isBusy, Submission.isFailure, Submission.buffer]
  | busy buf =>
    simp [account, count, Counters.transmitted, Counters.countBusy, sentPayloads, octetsOf,
      Submission.isSuccess, Submission.isBusy, Submission.isFailure]
  | failure buf reason =>
    simp [account, count, Counters.transmitted, Counters.countFailure, sentPayloads, octetsOf,
      Submission.isSuccess, Submission.isBusy, Submission.isFailure]

theorem stations_account (given : answer.buffer = buf) :
    (i.account answer).stations = i.stations.sentAll (sentPayloads [(buf, answer)]) := by
  subst given
  cases answer with
  | success buf =>
    refine Eq.trans ?_ (i.stations.sentAll_singleton buf.unframed.bytes).symm
    have payload : buf.unframed.bytes = buf.window.drop TxDescriptor.size := rfl
    rw [payload, account]
    cases HwAddr.at? (buf.window.drop TxDescriptor.size) 0 <;> rfl
  | busy buf => exact i.stations.sentAll_nil.symm
  | failure buf reason => exact i.stations.sentAll_nil.symm

end Interface

/-! ## Stretches of work -/

/-- In a stretch of work between two states of an interface with its log, the counters and the
entries of the stations went on by what was submitted in it, and by a number of frames that were too
long. -/
structure CountsOf (before after : Interface × σ × List Call) (refused : Nat)
    (calls : List Call) : Prop where
  log : after.2.2 = before.2.2 ++ calls
  counters : after.1.counters = before.1.counters.transmitted (submissions calls) refused
  stations : after.1.stations = before.1.stations.sentAll (sentPayloads (submissions calls))

/-- The submissions in a stretch of work, and a number of frames that were too long, account for
what was counted in it. -/
def Counts (before : Interface × σ × List Call) (refused : Nat)
    (after : Interface × σ × List Call) : Prop :=
  ∃ calls, CountsOf before after refused calls

namespace Counts

variable {st st' st'' : Interface × σ × List Call} {refused refused' : Nat}

/-- A stretch in which nothing is submitted and nothing counted. -/
theorem of_none (calls : List Call) (log : st'.2.2 = st.2.2 ++ calls)
    (none : submissions calls = []) (counters : st'.1.counters = st.1.counters)
    (stations : st'.1.stations = st.1.stations) : Counts st 0 st' := by
  refine ⟨calls, log, ?_, ?_⟩
  · rw [none, Counters.transmitted_nil, counters]
  · rw [none, sentPayloads_nil, StationTable.sentAll_nil, stations]

/-- A stretch in which one frame is submitted. -/
theorem of_submission (calls : List Call) {framed : Buffer} {answer : Submission}
    (given : answer.buffer = framed) (log : st'.2.2 = st.2.2 ++ calls)
    (made : submissions calls = [(framed, answer)])
    (counters : st'.1.counters = (st.1.account answer).counters)
    (stations : st'.1.stations = (st.1.account answer).stations) : Counts st 0 st' := by
  refine ⟨calls, log, ?_, ?_⟩
  · rw [made, counters, Interface.counters_account _ given]
  · rw [made, stations, Interface.stations_account _ given]

/-- A stretch in which one frame is submitted, and the one that came back is given back. -/
theorem of_completed {o : Outside σ} {i j : Interface} {framed : Buffer} {answer : Submission}
    (given : answer.buffer = framed) (counters : j.counters = (i.account answer).counters)
    (stations : j.stations = (i.account answer).stations) (s t : σ) (log : List Call)
    (back : Buffer) (status : TxStatus) :
    Counts (i, s, log) 0
      (j, Interface.complete o.logged back status (t, log ++ [.submit framed answer])) := by
  obtain ⟨calls, noted, none, -⟩ :=
    Interface.complete_calls o back status t (log ++ [.submit framed answer])
  refine .of_submission (.submit framed answer :: calls) given ?_ ?_ counters stations
  · rw [noted, List.append_assoc]
    rfl
  · rw [submissions_submit, none]

/-- Counts of successive stretches add up. -/
theorem trans (h : Counts st refused st') (h' : Counts st' refused' st'') :
    Counts st (refused + refused') st'' := by
  obtain ⟨calls, log, counters, stations⟩ := h
  obtain ⟨calls', log', counters', stations'⟩ := h'
  refine ⟨calls ++ calls', ?_, ?_, ?_⟩
  · rw [log', log, List.append_assoc]
  · rw [counters', counters, Counters.transmitted_append, submissions_append]
  · rw [stations', stations, StationTable.sentAll_append, submissions_append, sentPayloads_append]

end Counts

/-! ## Operations -/

namespace Interface

variable {o : Outside σ} (i : Interface) (s : σ × List Call)

/-- A frame that is submitted is counted if it goes to the transport at once. -/
theorem submit_counts (returns : o.Returns) (framed : Buffer) :
    Counts (i, s) 0 (i.submit o.logged s framed) := by
  obtain ⟨s, log⟩ := s
  unfold submit
  by_cases free : i.backlog.isEmpty = true
  · have given : (o.submit framed s).1.buffer = framed := returns framed s
    rw [if_pos free]
    simp only [Outside.logged]
    rw [← Outside.logged]
    generalize (o.submit framed s).2 = t
    generalize (o.submit framed s).1 = answer at given ⊢
    cases answer with
    | success buf => exact .of_completed given rfl rfl s t log buf .success
    | failure buf reason => exact .of_completed given rfl rfl s t log buf (.failure reason)
    | busy buf => exact .of_submission [_] given rfl rfl rfl rfl
  · rw [if_neg free]
    exact .of_none [] (by simp) rfl rfl rfl

/-- A drain step counts the submission that it makes. -/
theorem drainOne_counts (returns : o.Returns) :
    Counts (i, s) 0 (i.drainOne o.logged s).2 := by
  obtain ⟨s, log⟩ := s
  cases underway : i.backlog.draining with
  | true =>
    rw [drainOne_of_draining _ underway]
    exact .of_none [] (by simp) rfl rfl rfl
  | false =>
    cases head : i.backlog.frames with
    | nil =>
      rw [drainOne_of_nil _ underway head]
      exact .of_none [] (by simp) rfl rfl rfl
    | cons framed rest =>
      have given : (o.submit framed s).1.buffer = framed := returns framed s
      rw [drainOne_of_cons _ underway head]
      dsimp only [Outside.logged]
      rw [← Outside.logged]
      generalize (o.submit framed s).2 = t
      generalize (o.submit framed s).1 = answer at given ⊢
      cases answer with
      | success buf =>
        dsimp only
        exact .of_completed given (by rfl) (by rfl) s t log buf .success
      | failure buf reason =>
        dsimp only
        exact .of_completed given (by rfl) (by rfl) s t log buf (.failure reason)
      | busy buf => exact .of_submission [_] given rfl rfl rfl rfl

/-- Flushed frames are not counted. -/
theorem flush_counts : Counts (i, s) 0 (i.flush o.logged s).2 := by
  obtain ⟨s, log⟩ := s
  obtain ⟨calls, noted, none⟩ :=
    completeAll_submits o (.failure "interface flushed") i.backlog.frames s log
  exact .of_none calls noted none rfl rfl

/-- A frame that is too long is counted, and nobody is called. -/
theorem refused_counts {j : Interface}
    (counters : j.counters = i.counters.countOversized) (stations : j.stations = i.stations) :
    Counts (i, s) 1 (j, s) := by
  refine ⟨[], by simp, ?_, ?_⟩
  · simp [counters, Counters.countOversized, Counters.transmitted]
  · rw [submissions_nil, sentPayloads_nil, StationTable.sentAll_nil, stations]

end Interface

namespace TxOp

/-- A frame of the operation is too long to be sent. -/
def isTooLong : TxOp → Bool
  | .send buf _ | .relay buf => 2024 < buf.size
  | .drainOne | .flush => false

/-- **One operation.** What it adds to the counters and the entries of the stations is accounted for
by the submission that it makes, if it makes one, and by whether its frame is too long. -/
theorem apply_counts {o : Outside σ} (returns : o.Returns) (op : TxOp)
    (st : Interface × σ × List Call) :
    Counts st (if op.isTooLong then 1 else 0) (op.apply o.logged st) := by
  obtain ⟨i, s⟩ := st
  cases op with
  | send buf hints =>
    change Counts (i, s) (if decide (2024 < buf.size) then 1 else 0)
      (i.send o.logged s buf hints).2
    by_cases long : 2024 < buf.size
    · rw [i.send_of_lt o.logged s hints long, if_pos (decide_eq_true long)]
      exact i.refused_counts s rfl rfl
    · obtain ⟨framed, -, -, -, sent⟩ := i.send_of_le o.logged s hints (Nat.le_of_not_lt long)
      rw [sent, if_neg fun is => long (of_decide_eq_true is)]
      have drawn : Counts (i, s) 0 (i.drawToken hints, s) := .of_none [] (by simp) rfl rfl rfl
      exact drawn.trans ((i.drawToken hints).submit_counts s returns framed)
  | relay buf =>
    change Counts (i, s) (if decide (2024 < buf.size) then 1 else 0) (i.relay o.logged s buf)
    unfold Interface.relay
    by_cases long : 2024 < buf.size
    · rw [i.egress.attach_of_lt .none long, if_pos (decide_eq_true long)]
      exact i.refused_counts s rfl rfl
    · obtain ⟨framed, attached, -⟩ := i.egress.attach_of_le .none (Nat.le_of_not_lt long)
      rw [attached, if_neg fun is => long (of_decide_eq_true is)]
      exact i.submit_counts s returns framed
  | drainOne => exact i.drainOne_counts s returns
  | flush => exact i.flush_counts s

end TxOp

/-! ## Runs -/

/-- A run is accounted for by the submissions that are made in it, and by the frames that are too
long. -/
theorem transmit_counts {o : Outside σ} (returns : o.Returns) (ops : List TxOp)
    (st : Interface × σ × List Call) :
    Counts st (ops.countP (·.isTooLong)) (transmit o.logged ops st) := by
  induction ops generalizing st with
  | nil => exact .of_none [] (by simp [transmit]) rfl rfl rfl
  | cons op ops ih =>
    have both := (op.apply_counts returns st).trans (ih (op.apply o.logged st))
    rwa [List.countP_cons, Nat.add_comm]

/-- **Counters and answers.** Take any run of sending, relaying, draining and flushing on an
interface, with any answers of a transport that gives back what it is handed. Over it

* the counter of frames sent grows by the number of successes, and that of octets by the octets of
  their payloads, without descriptors;
* the counters of frames put back and of failures grow by the numbers of those answers;
* the counter of frames that are too long grows by the number of frames of more than 2024 octets
  that were to be sent or relayed;
* nothing else is counted;
* every station in the table stays, and of its entry the counters of frames and octets sent grow by
  those successes whose payload starts with its address.

All of them wrap at 2^64. -/
theorem transmit_counted {o : Outside σ} (returns : o.Returns) (i : Interface) (ops : List TxOp)
    (s : σ) :
    let st := transmit o.logged ops (i, s, [])
    let made := submissions st.2.2
    let payloads := sentPayloads made
    let c := i.counters
    unlogged st = transmit o ops (i, s) ∧
      st.1.counters = { c with
        txPackets := c.txPackets + UInt64.ofNat (made.countP (·.2.isSuccess))
        txBytes := c.txBytes + UInt64.ofNat (payloads.map List.length).sum
        busyRequeues := c.busyRequeues + UInt64.ofNat (made.countP (·.2.isBusy))
        transportFailures := c.transportFailures + UInt64.ofNat (made.countP (·.2.isFailure))
        oversizedRejects := c.oversizedRejects + UInt64.ofNat (ops.countP (·.isTooLong)) } ∧
      st.1.stations = { i.stations with
        stations := i.stations.stations.map fun station =>
          let own := payloads.filter (·.take 6 = station.addr.toBytes)
          { station with
            txPackets := station.txPackets + UInt64.ofNat own.length
            txBytes := station.txBytes + UInt64.ofNat (own.map List.length).sum } } := by
  intro st made payloads c
  obtain ⟨calls, log, counters, stations⟩ := transmit_counts returns ops (i, s, [])
  obtain rfl : st.2.2 = calls := log
  exact ⟨transmit_unlogged o ops (i, s, []), counters, stations⟩

/-- A payload to a peer. -/
def toPeer : Bytes := HwAddr.toBytes ⟨2, 0, 0, 0, 0, 10⟩ ++ [1, 2]

/-- The transport is busy for a frame to a peer, then takes it, and fails for the next one. A third
one is too long. -/
theorem transmit_counted_peer :
    let peer := Station.new ⟨2, 0, 0, 0, 0, 10⟩ 0
    let i := { Interface.standard with stations := ⟨[peer], 64, 0⟩ }
    let ops := [.send (.ofBytes .tx toPeer) .none, .drainOne, .send (.ofBytes .tx [3]) .none,
      .relay (.ofBytes .tx (List.replicate 2025 0)), .flush]
    let st := transmit Outside.scripted.logged ops (i, [.busy, .ok, .fail "gone"], [])
    Outside.scripted.Returns ∧
      st.1.counters = { Counters.zero with
        txPackets := 1, txBytes := 8, busyRequeues := 1, transportFailures := 1,
        oversizedRejects := 1 } ∧
      st.1.stations.stations = [{ peer with txPackets := 1, txBytes := 8 }] := by
  intro peer i ops st
  obtain ⟨-, counters, stations⟩ :=
    transmit_counted Outside.scripted_returns i ops [.busy, .ok, .fail "gone"]
  refine ⟨Outside.scripted_returns, ?_, ?_⟩
  · rw [counters]
    decide +kernel
  · rw [stations]
    decide +kernel

end Airlink
