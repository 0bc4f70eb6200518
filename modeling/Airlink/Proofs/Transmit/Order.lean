import Airlink.Backlog.Session
import Airlink.Proofs.Arising

/-!
# The order of transmission

Over any run of operations on an interface, with any answers of a transport that gives back what it
is handed, frames leave in the order in which they entered. The host gets back exactly the frames it
sent, each once and as it sent it, and frames that the data path relays do not reach the host
(`transmit_in_order`).

The run is the one that notes its calls. It reaches the interface that it reaches without them
(`transmit_unlogged`).
-/

namespace Airlink

open Outside (Call)

variable {σ : Type}

/-- Does operations one after the other. -/
def transmit (o : Outside σ) (ops : List TxOp) (st : Interface × σ) : Interface × σ :=
  ops.foldl (fun st op => op.apply o st) st

/-- What the operations of a run contribute, each in the state that it finds. -/
def alongRun (o : Outside σ) (f : Interface × σ → TxOp → List Frame) :
    List TxOp → Interface × σ → List Frame
  | [], _ => []
  | op :: ops, st => f st op ++ alongRun o f ops (op.apply o st)

/-- The host frames that a run accepts. -/
def acceptedBy (o : Outside σ) : List TxOp → Interface × σ → List Frame :=
  alongRun o fun st op => op.accepted o st

/-- The frames that a run takes in. -/
def enteredBy (o : Outside σ) : List TxOp → Interface × σ → List Frame :=
  alongRun o fun st op => op.entered o st

/-- The frames that a run flushes. -/
def flushedBy (o : Outside σ) : List TxOp → Interface × σ → List Frame :=
  alongRun o fun st op => op.flushed st

/-! ## Without the log -/

theorem transmit_unlogged (o : Outside σ) (ops : List TxOp) (st : Interface × σ × List Call) :
    unlogged (transmit o.logged ops st) = transmit o ops (unlogged st) :=
  (List.foldl_hom unlogged fun st op => (op.apply_unlogged o st).symm).symm

/-! ## Whole runs -/

/-- A run is accounted for. -/
theorem transmit_moves {o : Outside σ} (ho : o.Returns) (ops : List TxOp)
    (st : Interface × σ × List Call) (h : st.1.backlog.Settled) :
    (transmit o.logged ops st).1.backlog.Settled ∧
      Moves st (enteredBy o ops (unlogged st)) (flushedBy o ops (unlogged st))
        (transmit o.logged ops st) := by
  induction ops generalizing st with
  | nil => exact ⟨h, .of_eq rfl rfl⟩
  | cons op ops ih =>
    obtain ⟨h', moves⟩ := op.apply_moves ho st h
    obtain ⟨h'', moves'⟩ := ih _ h'
    rw [op.entered_unlogged] at moves
    rw [op.apply_unlogged] at moves'
    exact ⟨h'', moves.trans moves'⟩

/-- The accepted frames of a run are those of the host among the frames it takes in. -/
theorem hostFrames_enteredBy (o : Outside σ) {ops : List TxOp} (marked : ∀ op ∈ ops, op.Marked)
    (st : Interface × σ) : hostFrames (enteredBy o ops st) = acceptedBy o ops st := by
  induction ops generalizing st with
  | nil => rfl
  | cons op ops ih =>
    have first := op.hostFrames_entered (marked op List.mem_cons_self) o st
    have rest := ih (fun op h => marked op (List.mem_cons_of_mem _ h)) (op.apply o st)
    exact (hostFrames_append _ _).trans (by rw [first]; exact congrArg _ rest)

/-- **Transmission in order.** Take an interface that arises, a transport that gives back what it is
handed, and operations that mark exactly the relayed frames as relayed. After they are done,

* the frames given back to the host, followed by those of the host that still wait, are the frames
  of the host that waited at the start, followed by the accepted ones in the order of sending;
* no relayed frame was given back to the host;
* the frames that left, followed by those that wait, are the frames that waited at the start,
  followed by those that entered: without the flushed ones, those that left are the frames that the
  transport accepted or refused for good, in the order in which it did so. -/
theorem transmit_in_order {o : Outside σ} (returns : o.Returns) {i : Interface} (arises : i.Arises)
    {ops : List TxOp} (marked : ∀ op ∈ ops, op.Marked) (s : σ) :
    let st := transmit o.logged ops (i, s, [])
    unlogged st = transmit o ops (i, s) ∧
      completed st.2.2 ++ hostFrames st.1.waiting =
        hostFrames i.waiting ++ acceptedBy o ops (i, s) ∧
      (∀ f ∈ completed st.2.2, f.isRelayed = false) ∧
      ∃ gone : List (Frame × Fate),
        gone.map Prod.fst ++ st.1.waiting = i.waiting ++ enteredBy o ops (i, s) ∧
        withFate .retired gone = retired st.2.2 ∧
        withFate .flushed gone = flushedBy o ops (i, s) := by
  intro st
  obtain ⟨-, gone, calls, ⟨log, order, hr, hc⟩, flushed⟩ :=
    transmit_moves returns ops (i, s, []) arises.settled
  obtain rfl : st.2.2 = calls := log
  refine ⟨transmit_unlogged o ops (i, s, []), ?_, ?_, gone, order, hr.symm, flushed⟩
  · rw [hc, ← hostFrames_append, order, hostFrames_append, hostFrames_enteredBy o marked]
    rfl
  · intro f hf
    rw [hc] at hf
    exact isRelayed_of_mem_hostFrames hf

/-- A transport that answers as a script says and takes every frame after its end. The other parties
do nothing. -/
def Outside.scripted : Outside (List Backlog.Reply) where
  submit buf script := ((script.headD .ok).toSubmission buf, script.tail)
  deliver _ script := (.ok .done, script)
  sendComplete _ _ script := script
  event _ _ script := script
  deliverMonitor _ script := script
  hasSession _ _ _ := false
  reorder _ _ _ _ _ script := (.ok (), script)
  record _ _ _ script := script

theorem Outside.scripted_returns : scripted.Returns := by
  intro buf script
  show ((script.headD .ok).toSubmission buf).buffer = buf
  cases script.headD .ok <;> rfl

/-- A transport that is busy for the first frame: a relayed frame waits behind it and so does a
second one of the host, and after three drain steps the last one still waits. -/
theorem transmit_in_order_standard :
    let first := Buffer.ofBytes .tx [1, 2]
    let second := Buffer.ofBytes .tx [3]
    let ops := [.send first .none, .relay first.toTx, .drainOne, .send second .none, .drainOne]
    Outside.scripted.Returns ∧ Interface.standard.Arises ∧ (∀ op ∈ ops, op.Marked) ∧
      let st := transmit Outside.scripted.logged ops (.standard, [.busy], [])
      completed st.2.2 ++ hostFrames st.1.waiting = [first.frame, second.frame] := by
  intro first second ops
  have marked : ∀ op ∈ ops, op.Marked := by decide
  refine ⟨Outside.scripted_returns, Interface.standard_arises, marked, ?_⟩
  exact (transmit_in_order Outside.scripted_returns Interface.standard_arises marked [.busy]).2.1

end Airlink
