import Airlink.Proofs.Arising
import Airlink.Proofs.Descriptor
import Airlink.Proofs.Radio.Arising
import Airlink.Proofs.Transmit.Drain

/-!
# Frames that leave an interface

An interface puts its descriptor in front of each frame that it takes in (`Egress.frames_attach`),
once, and hands on what waits as it is. So whatever waits at an interface or is submitted by it has
the descriptor of the interface in front of its payload (`TxOp.frames_apply`), as long as the
transport gives back what it is handed.
-/

namespace Airlink

open Outside (Call)

variable {σ : Type}

/-- A buffer holds a payload behind a descriptor of an identity, and fits on the bus. -/
def Egress.Frames (e : Egress) (buf : Buffer) : Prop :=
  ∃ d, TxDescriptor.decode buf.window = .ok d ∧ d.pktOffset = 24 ∧
    d.pktLength.toNat = buf.size - 24 ∧ buf.size ≤ 2048 ∧ d.bssType = e.bssType ∧
    d.bssNum = e.bssNum

theorem size_prepend_encode (buf : Buffer) (d : TxDescriptor) :
    (buf.prepend d.encode).size = buf.size + 24 := by
  rw [← Buffer.length_window, Buffer.window_prepend, List.length_append,
    TxDescriptor.length_encode, Buffer.length_window, Nat.add_comm]

/-- What an identity frames is framed. -/
theorem Egress.frames_attach {e : Egress} {buf framed : Buffer} {hints : TransmitHints}
    (attached : e.attach buf hints = .ok framed) : e.Frames framed := by
  unfold attach build at attached
  split at attached
  · cases attached
  · next fits =>
    obtain rfl := Except.ok.inj attached
    have room : buf.size ≤ 2024 := Nat.le_of_not_lt fits
    refine ⟨_, (congrArg _ (buf.window_prepend _)).trans (TxDescriptor.decode_encode _ _), rfl,
      ?_, ?_, rfl, rfl⟩
    · rw [size_prepend_encode, Nat.add_sub_cancel]
      exact UInt16.toNat_ofNat_of_lt' (Nat.lt_of_le_of_lt room (by decide))
    · rw [size_prepend_encode]
      omega

namespace Interface

variable {o : Outside σ} {P : Buffer → Prop}

/-- What an interface submits and keeps waiting, when a frame with some property is handed to it
where all have it. -/
theorem submit_forall (returns : o.Returns) {i : Interface}
    (waiting : ∀ buf ∈ i.backlog.frames, P buf) {framed : Buffer} (here : P framed) (s : σ)
    (log : List Call) :
    (∀ buf ∈ (i.submit o.logged (s, log) framed).1.backlog.frames, P buf) ∧
      ∃ calls, (i.submit o.logged (s, log) framed).2.2 = log ++ calls ∧
        ∀ m ∈ submissions calls, P m.1 := by
  have queued : ∀ buf ∈ (i.backlog.enqueue framed).frames, P buf := by
    intro buf mem
    rcases List.mem_append.1 mem with mem | mem
    · exact waiting buf mem
    · obtain rfl := List.mem_singleton.1 mem
      exact here
  unfold submit
  by_cases free : i.backlog.isEmpty = true
  · have given : (o.submit framed s).1.buffer = framed := returns framed s
    rw [if_pos free]
    simp only [Outside.logged]
    rw [← Outside.logged]
    generalize (o.submit framed s).2 = t
    generalize (o.submit framed s).1 = answer at given ⊢
    have completed (buf : Buffer) (status : TxStatus) :
        (∀ buf ∈ (i.account answer).backlog.frames, P buf) ∧
          ∃ calls, (complete o.logged buf status (t, log ++ [.submit framed answer])).2 =
            log ++ calls ∧ ∀ m ∈ submissions calls, P m.1 := by
      obtain ⟨calls, noted, none, -⟩ :=
        complete_calls o buf status t (log ++ [.submit framed answer])
      rw [backlog_account]
      refine ⟨waiting, .submit framed answer :: calls, by rw [noted]; simp, ?_⟩
      simpa [none] using here
    cases answer with
    | success buf => exact completed buf .success
    | failure buf reason => exact completed buf (.failure reason)
    | busy buf =>
      obtain rfl : buf = framed := given
      exact ⟨queued, [.submit buf (.busy buf)], rfl, by simpa using here⟩
  · rw [if_neg free]
    exact ⟨queued, [], by simp, by simp⟩

theorem drainOne_forall (returns : o.Returns) {i : Interface}
    (waiting : ∀ buf ∈ i.backlog.frames, P buf) (s : σ) (log : List Call) :
    (∀ buf ∈ (i.drainOne o.logged (s, log)).2.1.backlog.frames, P buf) ∧
      ∃ calls, (i.drainOne o.logged (s, log)).2.2.2 = log ++ calls ∧
        ∀ m ∈ submissions calls, P m.1 := by
  obtain ⟨calls, noted, submits⟩ := i.drainOne_submits o s log
  obtain ⟨calls', noted', answered⟩ := i.drainOne_keeps (returns.keptSending log) (s := (s, log))
    ⟨[], by simp, List.forall_mem_nil _⟩
  obtain rfl : calls' = calls := List.append_cancel_left (noted'.symm.trans noted)
  suffices kept : (∀ buf ∈ (i.drainOne o.logged (s, log)).2.1.backlog.frames, P buf) ∧
      ∀ m ∈ submissions calls', P m.1 from ⟨kept.1, calls', noted, kept.2⟩
  generalize submissions calls' = made at submits answered
  generalize (i.drainOne o.logged (s, log)).1 = step at submits
  generalize (i.drainOne o.logged (s, log)).2.1.backlog = q at submits ⊢
  cases submits with
  | refused => exact ⟨waiting, List.forall_mem_nil _⟩
  | empty => exact ⟨List.forall_mem_nil _, List.forall_mem_nil _⟩
  | retired _ head =>
    rw [head] at waiting
    obtain ⟨here, behind⟩ := List.forall_mem_cons.1 waiting
    exact ⟨behind, by simpa using here⟩
  | @busy buf back rest _ head =>
    rw [head] at waiting
    obtain ⟨here, behind⟩ := List.forall_mem_cons.1 waiting
    obtain rfl : back = buf := answered _ List.mem_cons_self
    exact ⟨waiting, by simpa using here⟩

/-- Giving frames back submits none. -/
theorem completeAll_submits (o : Outside σ) (status : TxStatus) (frames : List Buffer) (s : σ)
    (log : List Call) :
    ∃ calls, (frames.foldl (fun s buf => complete o.logged buf status s) (s, log)).2 =
      log ++ calls ∧ submissions calls = [] := by
  induction frames generalizing s log with
  | nil => exact ⟨[], by simp, rfl⟩
  | cons buf rest ih =>
    obtain ⟨calls, noted, none, -⟩ := complete_calls o buf status s log
    obtain ⟨calls', noted', none'⟩ := ih (complete o.logged buf status (s, log)).1 (log ++ calls)
    refine ⟨calls ++ calls', ?_, by rw [submissions_append, none, none', List.append_nil]⟩
    rw [List.foldl_cons, ← List.append_assoc, ← noted', ← noted]

theorem flush_forall (i : Interface) (s : σ) (log : List Call) :
    (∀ buf ∈ (i.flush o.logged (s, log)).2.1.backlog.frames, P buf) ∧
      ∃ calls, (i.flush o.logged (s, log)).2.2.2 = log ++ calls ∧
        ∀ m ∈ submissions calls, P m.1 := by
  refine ⟨List.forall_mem_nil _, ?_⟩
  obtain ⟨calls, noted, none⟩ :=
    completeAll_submits o (.failure "interface flushed") i.backlog.frames s log
  exact ⟨calls, noted, by simp [none]⟩

end Interface

namespace TxOp

/-- **One descriptor.** Where everything that waits at an interface is framed by its identity, an
operation submits only such frames, and leaves only such frames to wait. -/
theorem frames_apply {o : Outside σ} (returns : o.Returns) (op : TxOp) {i : Interface}
    (waiting : ∀ buf ∈ i.backlog.frames, i.egress.Frames buf) (s : σ) (log : List Call) :
    (∀ buf ∈ (op.apply o.logged (i, s, log)).1.backlog.frames, i.egress.Frames buf) ∧
      ∃ calls, (op.apply o.logged (i, s, log)).2.2 = log ++ calls ∧
        ∀ m ∈ submissions calls, i.egress.Frames m.1 := by
  cases op with
  | send buf hints =>
    show (∀ b ∈ (i.send o.logged (s, log) buf hints).2.1.backlog.frames, i.egress.Frames b) ∧
      ∃ calls, (i.send o.logged (s, log) buf hints).2.2.2 = log ++ calls ∧ _
    unfold Interface.send
    dsimp only
    -- Giving out a token changes neither the identity nor the backlog.
    generalize fresh : (if (hints.reportStatus && hints.statusToken.isNone) = true then
      { i with nextToken := i.nextToken + 1 } else i) = j
    obtain ⟨sameEgress, sameBacklog⟩ : j.egress = i.egress ∧ j.backlog = i.backlog := by
      rw [← fresh]
      split <;> exact ⟨rfl, rfl⟩
    rw [← sameBacklog, ← sameEgress] at waiting
    rw [← sameEgress]
    split
    · exact ⟨waiting, [], by simp, List.forall_mem_nil _⟩
    · next framed attached =>
      exact Interface.submit_forall returns waiting (Egress.frames_attach attached) s log
  | relay buf =>
    show (∀ b ∈ (i.relay o.logged (s, log) buf).1.backlog.frames, i.egress.Frames b) ∧
      ∃ calls, (i.relay o.logged (s, log) buf).2.2 = log ++ calls ∧ _
    unfold Interface.relay
    split
    · exact ⟨waiting, [], by simp, List.forall_mem_nil _⟩
    · next framed attached =>
      exact Interface.submit_forall returns waiting (Egress.frames_attach attached) s log
  | drainOne => exact i.drainOne_forall returns waiting s log
  | flush => exact i.flush_forall s log

end TxOp

end Airlink
