import Airlink.Proofs.Transmit.Account

/-!
# Frames that an interface relays

A frame that is relayed enters the interface that it leaves through: it is handed to the transport
if nothing waits, and put behind the frames that wait if some do, in front of it the descriptor of
the interface (`Interface.relayed`). A frame that does not fit behind a descriptor is refused. One
of the three happens, and the host is not told of it (`Interface.relay_enters`).
-/

namespace Airlink

open Outside (Call)

variable {σ : Type}

/-! ## Numbers of waiting frames -/

/-- The number noted is the number of frames. -/
def Backlog.Counted (q : Backlog) : Prop := q.pending = q.frames.length

namespace Backlog

theorem counted_setFrames (q : Backlog) (frames : List Buffer) : (q.setFrames frames).Counted := rfl

theorem Counted.isEmpty_iff {q : Backlog} (h : q.Counted) : q.isEmpty = true ↔ q.frames = [] := by
  rw [Backlog.isEmpty, h, beq_iff_eq, List.length_eq_zero_iff]

end Backlog

namespace Interface

theorem counted_submit (o : Outside σ) {i : Interface} (h : i.backlog.Counted) (s : σ)
    (framed : Buffer) : (i.submit o s framed).1.backlog.Counted := by
  unfold submit
  split
  · dsimp only
    cases (o.submit framed s).1 with
    | success buf => simpa using h
    | failure buf reason => simpa using h
    | busy buf => exact Backlog.counted_setFrames _ _
  · exact Backlog.counted_setFrames _ _

theorem counted_send (o : Outside σ) {i : Interface} (h : i.backlog.Counted) (s : σ)
    (buf : Buffer) (hints : TransmitHints) :
    (i.send o s buf hints).2.1.backlog.Counted := by
  unfold send
  dsimp only
  split
  · split <;> exact h
  · refine counted_submit o ?_ s _
    split <;> exact h

theorem counted_relay (o : Outside σ) {i : Interface} (h : i.backlog.Counted) (s : σ)
    (buf : Buffer) : (i.relay o s buf).1.backlog.Counted := by
  unfold relay
  split
  · exact h
  · exact counted_submit o h s _

theorem counted_drainOne (o : Outside σ) {i : Interface} (h : i.backlog.Counted) (s : σ) :
    (i.drainOne o s).2.1.backlog.Counted := by
  unfold drainOne Backlog.drainOne Backlog.popFront
  by_cases draining : i.backlog.draining = true
  · rw [if_pos draining]
    exact h
  · rw [if_neg draining]
    cases i.backlog.frames with
    | nil => rfl
    | cons buf rest =>
      simp only [List.head?_cons, drainCallbacks]
      cases (o.submit buf s).1 <;> rfl

end Interface

/-! ## Readings of a log -/

/-- The buffer that a call hands to the transport, with the answer. -/
def Outside.Call.submission? : Call → Option (Buffer × Submission)
  | .submit buf answer => some (buf, answer)
  | _ => none

/-- The buffers that were handed to the transport, in order. -/
def submissions (log : List Call) : List (Buffer × Submission) := log.filterMap Call.submission?

@[simp] theorem submissions_nil : submissions [] = [] := rfl

@[simp] theorem submissions_submit (buf : Buffer) (answer : Submission) (log : List Call) :
    submissions (.submit buf answer :: log) = (buf, answer) :: submissions log := rfl

/-- The buffer that a call hands to the host as received. -/
def Outside.Call.delivery? : Call → Option Buffer
  | .deliver buf _ => some buf
  | _ => none

/-- The received buffers that were handed to the host, in order. -/
def deliveries (log : List Call) : List Buffer := log.filterMap Call.delivery?

@[simp] theorem submissions_append (l m : List Call) :
    submissions (l ++ m) = submissions l ++ submissions m := List.filterMap_append

@[simp] theorem deliveries_append (l m : List Call) :
    deliveries (l ++ m) = deliveries l ++ deliveries m := List.filterMap_append

/-- The buffer that is left to wait. -/
def Submission.waiting : Submission → List Buffer
  | .busy buf => [buf]
  | _ => []

/-! ## Frames with their descriptors -/

/-- A relayed frame of some octets as it leaves an interface. -/
def Interface.relayed (i : Interface) (octets : Bytes) (priority : UInt8) : Frame where
  bytes := { TxDescriptor.plain i.settings.role.bssType i.bssNum (UInt16.ofNat octets.length) with
    priority }.encode ++ octets
  direction := .tx
  flags := ⟨BufferFlags.forwarded⟩
  priority

/-- A buffer turned around for relaying, of which nothing else was known. -/
structure Buffer.IsRelayed (b : Buffer) : Prop where
  direction : b.direction = .tx
  flags : b.flags = ⟨BufferFlags.forwarded⟩

/-- A received buffer without flags is turned around so. -/
theorem Buffer.isRelayed_toTx {b : Buffer} (plain : b.flags = .none) : b.toTx.IsRelayed := by
  refine ⟨rfl, ?_⟩
  rw [toTx, plain]
  exact (by decide : BufferFlags.none.insert BufferFlags.forwarded = ⟨BufferFlags.forwarded⟩)

/-- A relayed frame that fits gets the descriptor of the interface. -/
theorem Interface.attach_relayed {i : Interface}
    (egress : i.egress = ⟨i.settings.role.bssType, i.bssNum⟩) {b : Buffer} (h : b.IsRelayed)
    (fits : b.size ≤ TxDescriptor.maxPayload) :
    ∃ framed, i.egress.attach b .none = .ok framed ∧
      framed.frame = i.relayed b.window b.priority := by
  have isData : (TxDescriptor.classOf ⟨BufferFlags.forwarded⟩).code = 0 := by decide
  have unhinted : TxDescriptor.hintedChannelControl ⟨0⟩ .none = ⟨0⟩ := by decide
  unfold Egress.attach Egress.build
  rw [if_neg (Nat.not_lt.2 fits)]
  refine ⟨_, rfl, ?_⟩
  rw [Buffer.frame_prepend, Buffer.frame, relayed, h.direction, h.flags, egress, b.length_window,
    isData]
  simp only [TxDescriptor.applyHints, TxDescriptor.plain, unhinted]
  rfl

/-! ## Entering -/

namespace Interface

/-- How a relayed frame of some octets enters an interface: the submissions that are made, the
buffers that wait then, and how many frames were refused as too long by then. -/
inductive Enters (i : Interface) (octets : Bytes) (priority : UInt8) :
    List (Buffer × Submission) → List Buffer → UInt64 → Prop where
  | submitted {framed : Buffer} (answer : Submission)
      (fits : octets.length ≤ TxDescriptor.maxPayload) (free : i.backlog.frames = [])
      (frame : framed.frame = i.relayed octets priority) :
      Enters i octets priority [(framed, answer)] answer.waiting i.counters.oversizedRejects
  | queued {framed : Buffer} (fits : octets.length ≤ TxDescriptor.maxPayload)
      (taken : i.backlog.frames ≠ []) (frame : framed.frame = i.relayed octets priority) :
      Enters i octets priority [] (i.backlog.frames ++ [framed]) i.counters.oversizedRejects
  | refused (long : TxDescriptor.maxPayload < octets.length) :
      Enters i octets priority [] i.backlog.frames (i.counters.oversizedRejects + 1)

/-- What a frame enters is a matter of the backlog, of the identity and of the frames refused. -/
theorem Enters.congr {i j : Interface} {octets : Bytes} {priority : UInt8}
    {made : List (Buffer × Submission)} {waiting : List Buffer} {refused : UInt64}
    (h : i.Enters octets priority made waiting refused) (settings : i.settings = j.settings)
    (number : i.bssNum = j.bssNum) (backlog : i.backlog = j.backlog)
    (before : i.counters.oversizedRejects = j.counters.oversizedRejects) :
    j.Enters octets priority made waiting refused := by
  have relayed : i.relayed octets priority = j.relayed octets priority := by
    unfold Interface.relayed
    rw [settings, number]
  cases h with
  | submitted answer fits free frame =>
    rw [before]
    exact .submitted answer fits (backlog ▸ free) (frame.trans relayed)
  | queued fits taken frame =>
    rw [before, backlog]
    exact .queued fits (backlog ▸ taken) (frame.trans relayed)
  | refused long =>
    rw [before, backlog]
    exact .refused long

theorem oversizedRejects_account (i : Interface) (answer : Submission) :
    (i.account answer).counters.oversizedRejects = i.counters.oversizedRejects := by
  unfold account
  cases answer with
  | success buf =>
    dsimp only
    split <;> rfl
  | busy buf => rfl
  | failure buf reason => rfl

/-- Giving a frame back calls the host only for frames that it sent itself. -/
theorem complete_calls (o : Outside σ) (buf : Buffer) (status : TxStatus) (s : σ)
    (log : List Call) :
    ∃ calls, (complete o.logged buf status (s, log)).2 = log ++ calls ∧ submissions calls = [] ∧
      deliveries calls = [] ∧
      (buf.flags.has BufferFlags.forwarded = true → completed calls = []) := by
  unfold complete
  split
  · exact ⟨[], by simp, rfl, rfl, fun _ => rfl⟩
  · next own =>
    split
    · exact ⟨[.sendComplete _ status], rfl, rfl, rfl, fun h => absurd h own⟩
    · exact ⟨[.sendComplete _ status], rfl, rfl, rfl, fun h => absurd h own⟩

/-- A frame that is submitted goes to the transport if nothing waits, and else behind what waits. -/
theorem submit_enters (o : Outside σ) {i : Interface} (counted : i.backlog.Counted)
    {octets : Bytes} {priority : UInt8} {framed : Buffer}
    (fits : octets.length ≤ TxDescriptor.maxPayload)
    (frame : framed.frame = i.relayed octets priority) (s : σ) (log : List Call) :
    ∃ calls, (i.submit o.logged (s, log) framed).2.2 = log ++ calls ∧
      i.Enters octets priority (submissions calls)
        (i.submit o.logged (s, log) framed).1.backlog.frames
        (i.submit o.logged (s, log) framed).1.counters.oversizedRejects ∧
      deliveries calls = [] ∧ (o.Returns → completed calls = []) := by
  have marked : framed.frame.isRelayed = true := by
    rw [frame]
    exact (by decide : (BufferFlags.mk BufferFlags.forwarded).has BufferFlags.forwarded = true)
  unfold submit
  by_cases free : i.backlog.frames = []
  · have entered := Enters.submitted (o.submit framed s).1 fits free frame
    have given (returns : o.Returns) : (o.submit framed s).1.buffer = framed := returns framed s
    have submitted : o.logged.submit framed (s, log) = ((o.submit framed s).1,
        (o.submit framed s).2, log ++ [.submit framed (o.submit framed s).1]) := rfl
    rw [← i.oversizedRejects_account (o.submit framed s).1] at entered
    rw [if_pos (counted.isEmpty_iff.2 free), submitted]
    generalize (o.submit framed s).2 = t
    generalize (o.submit framed s).1 = answer at entered given
    have ended (buf : Buffer) (status : TxStatus) (same : answer.buffer = buf)
        (waits : answer.waiting = []) :
        ∃ calls, (complete o.logged buf status (t, log ++ [.submit framed answer])).2 =
            log ++ calls ∧
          i.Enters octets priority (submissions calls) (i.account answer).backlog.frames
            (i.account answer).counters.oversizedRejects ∧
          deliveries calls = [] ∧ (o.Returns → completed calls = []) := by
      obtain ⟨calls, noted, none, undelivered, uncompleted⟩ :=
        complete_calls o buf status t (log ++ [.submit framed answer])
      rw [waits] at entered
      refine ⟨.submit framed answer :: calls, by rw [noted]; simp, ?_, undelivered,
        fun returns => ?_⟩
      · rw [backlog_account, free, submissions_submit, none]
        exact entered
      · exact uncompleted ((same.symm.trans (given returns)) ▸ marked)
    cases answer with
    | success buf => exact ended buf .success rfl rfl
    | failure buf reason => exact ended buf (.failure reason) rfl rfl
    | busy buf =>
      refine ⟨[.submit framed (.busy buf)], rfl, ?_, rfl, fun _ => rfl⟩
      simpa [Backlog.enqueue, Backlog.setFrames, free, Submission.waiting] using entered
  · rw [if_neg fun isEmpty => free (counted.isEmpty_iff.1 isEmpty)]
    exact ⟨[], by simp, .queued fits free frame, rfl, fun _ => rfl⟩

/-- A frame that is relayed enters the interface, and the host is told nothing of it. -/
theorem relay_enters (o : Outside σ) {i : Interface} (counted : i.backlog.Counted)
    (egress : i.egress = ⟨i.settings.role.bssType, i.bssNum⟩) {buf : Buffer} (h : buf.IsRelayed)
    (s : σ) (log : List Call) :
    ∃ calls, (i.relay o.logged (s, log) buf).2.2 = log ++ calls ∧
      i.Enters buf.window buf.priority (submissions calls)
        (i.relay o.logged (s, log) buf).1.backlog.frames
        (i.relay o.logged (s, log) buf).1.counters.oversizedRejects ∧
      deliveries calls = [] ∧ (o.Returns → completed calls = []) := by
  unfold relay
  by_cases fits : buf.size ≤ TxDescriptor.maxPayload
  · obtain ⟨framed, attached, frame⟩ := attach_relayed egress h fits
    rw [attached]
    exact submit_enters o counted (buf.length_window ▸ fits) frame s log
  · have long := Nat.lt_of_not_le fits
    rw [i.egress.attach_of_lt .none long]
    exact ⟨[], by simp, .refused (buf.length_window ▸ long), rfl, fun _ => rfl⟩

end Interface

end Airlink
