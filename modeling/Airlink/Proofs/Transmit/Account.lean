import Airlink.Proofs.Log

/-!
# Accounts of the frames of an interface

A frame enters an interface when the host sends it or the data path relays it, and leaves it when
the transport accepts or refuses it for good or when the interface is flushed. Between the two it
may wait in the backlog. One operation is accounted for by `Moves`: the frames that left, each with
its fate, followed by those that wait now, are those that waited before, followed by those that
entered. Accounts of successive operations add up (`Moves.trans`).

What an operation does is read off the calls it makes, so the operations here are those that note
their calls.
-/

namespace Airlink

open Outside (Call)

variable {σ : Type}

/-- The buffer that the transport gives back. -/
def Submission.buffer : Submission → Buffer
  | .success buf => buf
  | .busy buf => buf
  | .failure buf _ => buf

/-- The transport gives back the buffers that it is handed. -/
def Outside.Returns (o : Outside σ) : Prop := ∀ buf s, (o.submit buf s).1.buffer = buf

/-! ## Backlogs between operations -/

/-- The frames that wait, without their descriptors. -/
def Interface.waiting (i : Interface) : List Frame := i.backlog.frames.map Buffer.unframed

/-- A backlog as it is between two operations of its interface. -/
structure Backlog.Settled (q : Backlog) : Prop where
  /-- The number noted is the number of frames. -/
  counted : q.pending = q.frames.length
  /-- No drain step is under way. -/
  released : q.draining = false
  /-- Every frame has its descriptor. -/
  framed : ∀ buf ∈ q.frames, TxDescriptor.size ≤ buf.size

namespace Backlog.Settled

theorem empty : Backlog.empty.Settled := ⟨rfl, rfl, by simp [Backlog.empty]⟩

theorem setFrames {q : Backlog} (h : q.draining = false) {frames : List Buffer}
    (framed : ∀ buf ∈ frames, TxDescriptor.size ≤ buf.size) : (q.setFrames frames).Settled :=
  ⟨rfl, h, framed⟩

theorem enqueue {q : Backlog} (h : q.Settled) {buf : Buffer} (hb : TxDescriptor.size ≤ buf.size) :
    (q.enqueue buf).Settled := by
  refine setFrames h.released ?_
  intro b hm
  rcases List.mem_append.1 hm with hm | hm
  · exact h.framed b hm
  · obtain rfl := List.mem_singleton.1 hm
    exact hb

theorem isEmpty_iff {q : Backlog} (h : q.Settled) : q.isEmpty = true ↔ q.frames = [] := by
  rw [Backlog.isEmpty, h.counted, beq_iff_eq, List.length_eq_zero_iff]

end Backlog.Settled

@[simp] theorem Interface.backlog_account (i : Interface) (answer : Submission) :
    (i.account answer).backlog = i.backlog := by
  unfold account count
  cases answer with
  | success buf =>
    dsimp only
    split <;> rfl
  | busy buf => rfl
  | failure buf reason => rfl

/-! ## Accounts of frames -/

/-- How a frame left an interface. -/
inductive Fate where
  /-- The transport accepted or refused it. -/
  | retired
  | flushed
  deriving DecidableEq, Repr

/-- The frames among those that left that did so in a given way. -/
def withFate (fate : Fate) (gone : List (Frame × Fate)) : List Frame :=
  (gone.filter (·.2 = fate)).map Prod.fst

@[simp] theorem withFate_append (fate : Fate) (l m : List (Frame × Fate)) :
    withFate fate (l ++ m) = withFate fate l ++ withFate fate m := by
  simp [withFate]

/-- Frames that all left in one way. -/
theorem withFate_map (fate other : Fate) (fs : List Frame) :
    withFate fate (fs.map (·, other)) = if other = fate then fs else [] := by
  by_cases h : other = fate
  · simp [withFate, List.filter_map, Function.comp_def, h]
  · simp [withFate, List.filter_map, Function.comp_def, h]

/-- The account of a stretch of work between two states of an interface with its log: which calls
were made, which frames left and how, and that the order was kept. -/
structure Account (before after : Interface × σ × List Call) (entered : List Frame)
    (gone : List (Frame × Fate)) (calls : List Call) : Prop where
  log : after.2.2 = before.2.2 ++ calls
  order : gone.map Prod.fst ++ after.1.waiting = before.1.waiting ++ entered
  retired : retired calls = withFate .retired gone
  completed : completed calls = hostFrames (gone.map Prod.fst)

/-- There is an account of a stretch of work in which the given frames entered and were flushed. -/
def Moves (before : Interface × σ × List Call) (entered flushed : List Frame)
    (after : Interface × σ × List Call) : Prop :=
  ∃ gone calls, Account before after entered gone calls ∧ withFate .flushed gone = flushed

namespace Moves

variable {st st' st'' : Interface × σ × List Call} {entered entered' flushed flushed' : List Frame}

/-- A stretch in which no frame moves and no call is made. -/
theorem of_eq (waiting : st'.1.waiting = st.1.waiting) (log : st'.2.2 = st.2.2) :
    Moves st [] [] st' :=
  ⟨[], [], ⟨by rw [log, List.append_nil], by simp [waiting], rfl, rfl⟩, rfl⟩

/-- Accounts of successive stretches add up. -/
theorem trans (h : Moves st entered flushed st') (h' : Moves st' entered' flushed' st'') :
    Moves st (entered ++ entered') (flushed ++ flushed') st'' := by
  obtain ⟨gone, calls, a, rfl⟩ := h
  obtain ⟨gone', calls', a', rfl⟩ := h'
  refine ⟨gone ++ gone', calls ++ calls', ⟨?_, ?_, ?_, ?_⟩, withFate_append _ _ _⟩
  · rw [a'.log, a.log, List.append_assoc]
  · rw [List.map_append, List.append_assoc, a'.order, ← List.append_assoc, a.order,
      List.append_assoc]
  · rw [retired_append, withFate_append, a.retired, a'.retired]
  · rw [completed_append, List.map_append, hostFrames_append, a.completed, a'.completed]

end Moves

/-! ## Submitting, draining and flushing -/

namespace Interface

variable {o : Outside σ}

/-- Completing a frame gives it back to the host without its descriptor, if it is the host's. -/
theorem complete_logged (o : Outside σ) {buf : Buffer} (h : TxDescriptor.size ≤ buf.size)
    (status : TxStatus) (s : σ × List Call) :
    ∃ calls, (complete o.logged buf status s).2 = s.2 ++ calls ∧ retired calls = [] ∧
      completed calls = hostFrames [buf.unframed] := by
  unfold complete
  by_cases hf : buf.flags.has BufferFlags.forwarded = true
  · rw [if_pos hf]
    exact ⟨[], by simp, rfl, by simp [completed, hostFrames, hf]⟩
  · obtain ⟨payload, hp, frame⟩ := buf.advance_of_le h
    rw [if_neg hf, hp]
    refine ⟨[.sendComplete payload status], rfl, rfl, ?_⟩
    simp [completed, Call.completed?, hostFrames, frame, hf, Buffer.unframed]

/-- Completing frames one after the other. -/
theorem completeAll_logged (o : Outside σ) (status : TxStatus) {frames : List Buffer}
    (h : ∀ buf ∈ frames, TxDescriptor.size ≤ buf.size) (s : σ × List Call) :
    ∃ calls, (frames.foldl (fun s buf => complete o.logged buf status s) s).2 = s.2 ++ calls ∧
      retired calls = [] ∧ completed calls = hostFrames (frames.map Buffer.unframed) := by
  induction frames generalizing s with
  | nil => exact ⟨[], by simp, rfl, rfl⟩
  | cons buf rest ih =>
    obtain ⟨calls, hl, hr, hc⟩ := complete_logged o (h buf List.mem_cons_self) status s
    obtain ⟨calls', hl', hr', hc'⟩ :=
      ih (fun b hb => h b (List.mem_cons_of_mem _ hb)) (complete o.logged buf status s)
    refine ⟨calls ++ calls', ?_, ?_, ?_⟩
    · rw [List.foldl_cons, hl', hl, List.append_assoc]
    · rw [retired_append, hr, hr', List.append_nil]
    · rw [completed_append, hc, hc', ← hostFrames_append]
      rfl

/-- Between two states of the parties outside, a frame was retired and, if it is the host's, given
back. -/
def Leaves (buf : Buffer) (s t : σ × List Call) : Prop :=
  ∃ calls, t.2 = s.2 ++ calls ∧ retired calls = [buf.unframed] ∧
    completed calls = hostFrames [buf.unframed]

/-- A frame that leaves an interface in which the other frames stay where they are. -/
theorem Leaves.moves {buf : Buffer} {i i' : Interface} {s t : σ × List Call}
    (h : Leaves buf s t) {entered : List Frame}
    (order : buf.unframed :: i'.waiting = i.waiting ++ entered) :
    Moves (i, s) entered [] (i', t) := by
  obtain ⟨calls, hl, hr, hc⟩ := h
  exact ⟨[(buf.unframed, .retired)], calls, ⟨hl, order, hr, hc⟩, rfl⟩

/-- The three ways in which a submission goes on. -/
theorem submit_cases (ho : o.Returns) {framed : Buffer} (hf : TxDescriptor.size ≤ framed.size)
    (s : σ × List Call) :
    ((o.logged.submit framed s).1 = .success framed ∧
      Leaves framed s (complete o.logged framed .success (o.logged.submit framed s).2)) ∨
    (∃ reason, (o.logged.submit framed s).1 = .failure framed reason ∧
      Leaves framed s (complete o.logged framed (.failure reason) (o.logged.submit framed s).2)) ∨
    ((o.logged.submit framed s).1 = .busy framed ∧
      (o.logged.submit framed s).2.2 = s.2 ++ [.submit framed (.busy framed)]) := by
  have hb := ho framed s.1
  simp only [Outside.logged]
  cases ha : (o.submit framed s.1).1 with
  | success buf =>
    obtain rfl : buf = framed := by rw [ha] at hb; exact hb
    obtain ⟨calls, hl, hr, hc⟩ := complete_logged o hf .success
      ((o.submit buf s.1).2, s.2 ++ [.submit buf (.success buf)])
    refine .inl ⟨rfl, .submit buf (.success buf) :: calls, ?_, ?_, hc⟩
    · exact hl.trans (List.append_assoc _ _ _)
    · exact congrArg (buf.unframed :: ·) hr
  | failure buf reason =>
    obtain rfl : buf = framed := by rw [ha] at hb; exact hb
    obtain ⟨calls, hl, hr, hc⟩ := complete_logged o hf (.failure reason)
      ((o.submit buf s.1).2, s.2 ++ [.submit buf (.failure buf reason)])
    refine .inr (.inl ⟨reason, rfl, .submit buf (.failure buf reason) :: calls, ?_, ?_, hc⟩)
    · exact hl.trans (List.append_assoc _ _ _)
    · exact congrArg (buf.unframed :: ·) hr
  | busy buf =>
    obtain rfl : buf = framed := by rw [ha] at hb; exact hb
    exact .inr (.inr ⟨rfl, rfl⟩)

/-- Submitting a frame moves it in behind those that wait; if none waits and the transport takes
it, it leaves at once. -/
theorem submit_moves (ho : o.Returns) {i : Interface} (hi : i.backlog.Settled) {framed : Buffer}
    (hf : TxDescriptor.size ≤ framed.size) (s : σ × List Call) :
    (i.submit o.logged s framed).1.backlog.Settled ∧
      Moves (i, s) [framed.unframed] [] (i.submit o.logged s framed) := by
  unfold submit
  by_cases he : i.backlog.isEmpty = true
  · have hw : i.backlog.frames = [] := hi.isEmpty_iff.1 he
    rw [if_pos he]
    rcases submit_cases ho hf s with ⟨ha, left⟩ | ⟨reason, ha, left⟩ | ⟨ha, hl⟩
    · simp only [ha]
      exact ⟨by simpa using hi, left.moves (by simp [waiting, hw])⟩
    · simp only [ha]
      exact ⟨by simpa using hi, left.moves (by simp [waiting, hw])⟩
    · simp only [ha]
      refine ⟨by simpa using hi.enqueue hf, [], _, ⟨hl, ?_, rfl, rfl⟩, rfl⟩
      simp [waiting, Backlog.enqueue, Backlog.setFrames]
  · rw [if_neg he]
    refine ⟨hi.enqueue hf, [], [], ⟨by simp, ?_, rfl, rfl⟩, rfl⟩
    simp [waiting, Backlog.enqueue, Backlog.setFrames]

/-- A drain step moves the frame in front out, if the transport takes it. -/
theorem drainOne_moves (ho : o.Returns) {i : Interface} (hi : i.backlog.Settled)
    (s : σ × List Call) :
    (i.drainOne o.logged s).2.1.backlog.Settled ∧
      Moves (i, s) [] [] (i.drainOne o.logged s).2 := by
  have hd : ¬ i.backlog.draining = true := by simp [hi.released]
  unfold drainOne Backlog.drainOne Backlog.popFront
  rw [if_neg hd]
  cases hq : i.backlog.frames with
  | nil =>
    simp only [List.head?_nil, List.tail_nil, Backlog.setFrames]
    exact ⟨⟨rfl, rfl, by simp⟩, .of_eq (by simp [waiting, hq]) rfl⟩
  | cons buf rest =>
    have hf : TxDescriptor.size ≤ buf.size := hi.framed buf (by simp [hq])
    have hrest : ∀ b ∈ rest, TxDescriptor.size ≤ b.size :=
      fun b hb => hi.framed b (by simp [hq, hb])
    simp only [List.head?_cons, List.tail_cons, Backlog.setFrames, drainCallbacks]
    rcases submit_cases ho hf s with ⟨ha, left⟩ | ⟨reason, ha, left⟩ | ⟨ha, hl⟩
    · simp only [ha, Backlog.finish]
      exact ⟨⟨rfl, rfl, hrest⟩, left.moves (by simp [waiting, hq])⟩
    · simp only [ha, Backlog.finish]
      exact ⟨⟨rfl, rfl, hrest⟩, left.moves (by simp [waiting, hq])⟩
    · -- The frame goes back to where it was taken from.
      simp only [ha, Backlog.finish, Backlog.pushFront, Backlog.setFrames]
      refine ⟨⟨rfl, rfl, by simpa using ⟨hf, hrest⟩⟩, [], _, ⟨hl, ?_, rfl, rfl⟩, rfl⟩
      simp [waiting, hq]

/-- Flushing moves every waiting frame out. -/
theorem flush_moves (o : Outside σ) {i : Interface} (hi : i.backlog.Settled) (s : σ × List Call) :
    (i.flush o.logged s).2.1.backlog.Settled ∧
      Moves (i, s) [] i.waiting (i.flush o.logged s).2 := by
  obtain ⟨calls, hl, hr, hc⟩ := completeAll_logged o (.failure "interface flushed") hi.framed s
  refine ⟨.setFrames hi.released (by simp), i.waiting.map (·, .flushed), calls,
    ⟨hl, ?_, ?_, ?_⟩, ?_⟩
  · simp [flush, waiting, Backlog.clear, Backlog.setFrames, Function.comp_def]
  · rw [hr, withFate_map]
    rfl
  · rw [hc, List.map_map]
    simp [waiting, Function.comp_def]
  · rw [withFate_map]
    rfl

end Interface

/-- A frame that fits is framed, and behind its descriptor it is what it was. -/
theorem Egress.attach_of_le (e : Egress) {buf : Buffer} (hints : TransmitHints)
    (h : buf.size ≤ TxDescriptor.maxPayload) :
    ∃ framed, e.attach buf hints = .ok framed ∧ TxDescriptor.size ≤ framed.size ∧
      framed.unframed = buf.frame := by
  unfold attach build
  rw [if_neg (Nat.not_lt.2 h)]
  refine ⟨_, rfl, ?_, ?_⟩
  · rw [← Buffer.length_window, Buffer.window_prepend, List.length_append,
      TxDescriptor.length_encode]
    exact Nat.le_add_right _ _
  · rw [Buffer.unframed, Buffer.frame_prepend, Frame.drop]
    exact congrArg (Frame.mk · _ _ _) (List.drop_left' (TxDescriptor.length_encode _))

/-- A frame that does not fit is refused. -/
theorem Egress.attach_of_lt (e : Egress) {buf : Buffer} (hints : TransmitHints)
    (h : TxDescriptor.maxPayload < buf.size) :
    e.attach buf hints = .error (.oversizedPayload buf.size TxDescriptor.maxPayload) := by
  unfold attach build
  rw [if_pos h]
  rfl

/-! ## Operations -/

/-- An operation of an interface on the way out. -/
inductive TxOp where
  | send (buf : Buffer) (hints : TransmitHints)
  | relay (buf : Buffer)
  | drainOne
  | flush

namespace TxOp

/-- Frames of the host are not marked as relayed, and those of the data path are. -/
def Marked : TxOp → Prop
  | .send buf _ => buf.frame.isRelayed = false
  | .relay buf => buf.frame.isRelayed = true
  | _ => True

instance : DecidablePred Marked
  | .send buf _ => inferInstanceAs (Decidable (buf.frame.isRelayed = false))
  | .relay buf => inferInstanceAs (Decidable (buf.frame.isRelayed = true))
  | .drainOne => .isTrue trivial
  | .flush => .isTrue trivial

/-- Does an operation. -/
def apply (o : Outside σ) (op : TxOp) (st : Interface × σ) : Interface × σ :=
  match op with
  | .send buf hints => (st.1.send o st.2 buf hints).2
  | .relay buf => st.1.relay o st.2 buf
  | .drainOne => (st.1.drainOne o st.2).2
  | .flush => (st.1.flush o st.2).2

/-- The buffer of the host as it is sent: what the host asked for a status report about is flagged
so. -/
def hostBuffer (buf : Buffer) (hints : TransmitHints) : Buffer :=
  if hints.reportStatus then buf.flag BufferFlags.txStatus else buf

theorem isRelayed_hostBuffer (buf : Buffer) (hints : TransmitHints) :
    (hostBuffer buf hints).frame.isRelayed = buf.frame.isRelayed := by
  unfold hostBuffer
  split
  · exact buf.flags.has_insert_of_disjoint (by decide)
  · rfl

/-- The frame that the host got an `ok` for. -/
def accepted (o : Outside σ) (st : Interface × σ) : TxOp → List Frame
  | .send buf hints =>
    match (st.1.send o st.2 buf hints).1 with
    | .ok _ => [(hostBuffer buf hints).frame]
    | .error _ => []
  | _ => []

/-- The frame that an operation takes in: an accepted one, or a relayed one that fits behind a
descriptor. -/
def entered (o : Outside σ) (st : Interface × σ) : TxOp → List Frame
  | .relay buf => if buf.size ≤ TxDescriptor.maxPayload then [buf.frame] else []
  | op => op.accepted o st

/-- The frames that an operation flushes. -/
def flushed (st : Interface × σ) : TxOp → List Frame
  | .flush => st.1.waiting
  | _ => []

end TxOp

/-! ## One operation -/

namespace Interface

variable {o : Outside σ}

/-- What sending does, apart from the token that it may give out. -/
theorem send_eq (o : Outside σ) (i : Interface) (s : σ) (buf : Buffer) (hints : TransmitHints) :
    ∃ (j : Interface) (hints' : TransmitHints), j.backlog = i.backlog ∧
      i.send o s buf hints =
        match j.egress.attach (TxOp.hostBuffer buf hints) hints' with
        | .error e => (.error e, j.count Counters.countOversized, s)
        | .ok framed => (.ok (), j.submit o s framed) := by
  unfold send TxOp.hostBuffer
  by_cases fresh : (hints.reportStatus && hints.statusToken.isNone) = true
  · simp only [if_pos fresh]
    exact ⟨{ i with nextToken := i.nextToken + 1 }, { hints with statusToken := some i.nextToken },
      rfl, rfl⟩
  · simp only [if_neg fresh]
    exact ⟨i, hints, rfl, rfl⟩

/-- Sending moves a frame of the host in, if it is accepted. -/
theorem send_moves (ho : o.Returns) {i : Interface} (hi : i.backlog.Settled) (buf : Buffer)
    (hints : TransmitHints) (s : σ × List Call) :
    (i.send o.logged s buf hints).2.1.backlog.Settled ∧
      Moves (i, s) ((TxOp.send buf hints).accepted o.logged (i, s)) []
        (i.send o.logged s buf hints).2 := by
  obtain ⟨j, hints', hj, e⟩ := send_eq o.logged i s buf hints
  have hw : j.waiting = i.waiting := congrArg (·.frames.map Buffer.unframed) hj
  simp only [TxOp.accepted, e]
  by_cases h : (TxOp.hostBuffer buf hints).size ≤ TxDescriptor.maxPayload
  · obtain ⟨framed, ha, hf, hu⟩ := j.egress.attach_of_le hints' h
    obtain ⟨settled, gone, calls, ⟨hl, order, hr, hc⟩, hfl⟩ := submit_moves ho (hj ▸ hi) hf s
    simp only [ha]
    refine ⟨settled, gone, calls, ⟨hl, ?_, hr, hc⟩, hfl⟩
    rw [order, hw, hu]
  · simp only [j.egress.attach_of_lt hints' (Nat.lt_of_not_le h)]
    exact ⟨hj ▸ hi, .of_eq hw rfl⟩

/-- Relaying moves a frame in, if it fits. -/
theorem relay_moves (ho : o.Returns) {i : Interface} (hi : i.backlog.Settled) (buf : Buffer)
    (s : σ × List Call) :
    (i.relay o.logged s buf).1.backlog.Settled ∧
      Moves (i, s) ((TxOp.relay buf).entered o.logged (i, s)) [] (i.relay o.logged s buf) := by
  unfold TxOp.entered relay
  by_cases h : buf.size ≤ TxDescriptor.maxPayload
  · obtain ⟨framed, ha, hf, hu⟩ := i.egress.attach_of_le .none h
    simp only [ha, if_pos h, ← hu]
    exact submit_moves ho hi hf s
  · simp only [i.egress.attach_of_lt .none (Nat.lt_of_not_le h), if_neg h]
    exact ⟨hi, .of_eq rfl rfl⟩

end Interface

namespace TxOp

variable {o : Outside σ}

/-- **One operation.** Every operation leaves the backlog as it should be between operations, and
the frames that it takes in, flushes and retires are accounted for. -/
theorem apply_moves (ho : o.Returns) (op : TxOp) (st : Interface × σ × List Call)
    (h : st.1.backlog.Settled) :
    (op.apply o.logged st).1.backlog.Settled ∧
      Moves st (op.entered o.logged st) (op.flushed st) (op.apply o.logged st) := by
  obtain ⟨i, s⟩ := st
  cases op with
  | send buf hints => exact Interface.send_moves ho h buf hints s
  | relay buf => exact Interface.relay_moves ho h buf s
  | drainOne => exact Interface.drainOne_moves ho h s
  | flush => exact Interface.flush_moves o h s

/-- The accepted frames are those of the host among the frames taken in. -/
theorem hostFrames_entered {op : TxOp} (h : op.Marked) (o : Outside σ) (st : Interface × σ) :
    hostFrames (op.entered o st) = op.accepted o st := by
  cases op with
  | send buf hints =>
    have hb : (hostBuffer buf hints).frame.isRelayed = false :=
      (isRelayed_hostBuffer buf hints).trans h
    simp only [entered, accepted]
    split
    · simp [hostFrames, hb]
    · rfl
  | relay buf =>
    have hb : buf.frame.isRelayed = true := h
    simp only [entered, accepted]
    split
    · simp [hostFrames, hb]
    · rfl
  | drainOne => rfl
  | flush => rfl

/-! ### Without the log -/

theorem apply_unlogged (o : Outside σ) (op : TxOp) (st : Interface × σ × List Call) :
    unlogged (op.apply o.logged st) = op.apply o (unlogged st) := by
  obtain ⟨i, s⟩ := st
  cases op with
  | send buf hints => exact (Interface.send_unlogged o i s buf hints).2
  | relay buf => exact Interface.relay_unlogged o i s buf
  | drainOne => exact Interface.drainOne_unlogged o i s
  | flush => exact Interface.flush_unlogged o i s

theorem accepted_unlogged (o : Outside σ) (st : Interface × σ × List Call) (op : TxOp) :
    op.accepted o.logged st = op.accepted o (unlogged st) := by
  obtain ⟨i, s⟩ := st
  cases op with
  | send buf hints => simp only [accepted, unlogged, (Interface.send_unlogged o i s buf hints).1]
  | relay buf => rfl
  | drainOne => rfl
  | flush => rfl

theorem entered_unlogged (o : Outside σ) (st : Interface × σ × List Call) (op : TxOp) :
    op.entered o.logged st = op.entered o (unlogged st) := by
  cases op with
  | relay buf => rfl
  | send buf hints => exact accepted_unlogged o st (.send buf hints)
  | drainOne => rfl
  | flush => rfl

end TxOp

end Airlink
