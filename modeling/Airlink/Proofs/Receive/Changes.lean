import Airlink.Interface
import Airlink.Proofs.Processing

/-!
# What receiving changes

An interface that receives a frame works on its station table and its counters and on nothing else,
and of the counters only those for received frames and for offers to the reorder engine move
(`Interface.receive_changes`). A frame that the reorder engine has released moves none
(`Interface.receiveReordered_changes`).

Which outcomes receiving can have follows from what processing a single frame can come to
(`Interface.forall_receive`).
-/

namespace Airlink.Interface

variable {σ : Type}

/-! ## Stations and counters -/

/-- A block-ack request is offered to the reorder engine or not, and leaves the rest as it is. -/
theorem receiveRequest_changes (o : Outside σ) (i : Interface) (s : σ) (buf : Buffer)
    (desc : RxDescriptor) :
    (i.receiveRequest o s buf desc).2.1 = i ∨
      (i.receiveRequest o s buf desc).2.1 = i.count Counters.countHandoff := by
  unfold receiveRequest
  split
  · exact .inl rfl
  · split
    · exact .inl rfl
    · split
      · exact .inl rfl
      · dsimp only
        split
        · split
          · next h => exact .inr (congrArg (·.2.1) h).symm
          · next h => exact .inr (congrArg (·.2.1) h).symm
        · exact .inl rfl

/-- Noting a peer, if there is one, changes what is known of stations. -/
theorem notePeer_changes (i : Interface) (now : Instant) (peer? : Option HwAddr)
    (desc : RxDescriptor) :
    ∃ stations, peer?.elim i (i.notePeer now · desc) = { i with stations } := by
  cases peer? with
  | none => exact ⟨i.stations, rfl⟩
  | some peer => exact ⟨_, rfl⟩

/-- Every other frame may change what is known of stations. -/
theorem receiveFrame_changes (o : Outside σ) (near : Neighbors) (now : Instant) (i : Interface)
    (s : σ) (buf : Buffer) (desc : RxDescriptor) :
    ∃ stations, (i.receiveFrame o near now s buf desc).2.1 = { i with stations } ∨
      (i.receiveFrame o near now s buf desc).2.1 =
        ({ i with stations } : Interface).count Counters.countHandoff := by
  obtain ⟨stations, noted⟩ := i.notePeer_changes now
    (desc.frameClass.bind (peerOf? ((desc.payload? buf.window).getD []))) desc
  unfold receiveFrame
  simp only [noted]
  split
  · split
    · next h => exact ⟨stations, .inr (congrArg (·.2.1) h).symm⟩
    · next h => exact ⟨stations, .inr (congrArg (·.2.1) h).symm⟩
  · exact ⟨_, .inl rfl⟩

/-- Receiving a frame changes what is known of stations, counts the frame, and counts the offer to
the reorder engine if there was one. -/
theorem receive_changes (o : Outside σ) (near : Neighbors) (now : Instant) (i : Interface) (s : σ)
    (buf : Buffer) :
    ∃ stations counters,
      (i.receive o near now s buf).2.1 = { i with stations, counters } ∧
        (counters = i.counters.received buf.size ∨
          counters = (i.counters.received buf.size).countHandoff) := by
  unfold receive
  dsimp only
  split
  · exact ⟨i.stations, _, rfl, .inl rfl⟩
  · split
    · rcases receiveRequest_changes o (i.count (·.received buf.size)) s buf _ with same | offered
      · exact ⟨i.stations, _, same, .inl rfl⟩
      · exact ⟨i.stations, _, offered, .inr rfl⟩
    · obtain ⟨stations, same | offered⟩ :=
        receiveFrame_changes o near now (i.count (·.received buf.size)) s buf _
      · exact ⟨stations, _, same, .inl rfl⟩
      · exact ⟨stations, _, offered, .inr rfl⟩

/-- A released frame changes what is known of stations. -/
theorem receiveReordered_changes (o : Outside σ) (near : Neighbors) (now : Instant) (i : Interface)
    (s : σ) (buf : Buffer) :
    ∃ stations, (i.receiveReordered o near now s buf).2.1 = { i with stations } := by
  unfold receiveReordered
  split
  · exact ⟨i.stations, rfl⟩
  · exact ⟨_, rfl⟩

/-! ## Outcomes -/

/-- A block-ack request becomes an event or is dropped. -/
theorem receiveRequest_outcome (o : Outside σ) (i : Interface) (s : σ) (buf : Buffer)
    (desc : RxDescriptor) :
    (∃ e, (i.receiveRequest o s buf desc).1 = .event e) ∨
      ∃ reason, (i.receiveRequest o s buf desc).1 = .drop reason := by
  unfold receiveRequest
  split
  · exact .inr ⟨_, rfl⟩
  · split
    · exact .inr ⟨_, rfl⟩
    · split
      · exact .inr ⟨_, rfl⟩
      · dsimp only
        split
        · split
          · exact .inl ⟨_, rfl⟩
          · exact .inr ⟨_, rfl⟩
        · exact .inr ⟨_, rfl⟩

/-- What holds of events, of drops and of whatever a single frame comes to holds of all outcomes of
a received frame. -/
theorem forall_receive (o : Outside σ) (near : Neighbors) (now : Instant) (i : Interface) (s : σ)
    (buf : Buffer) {P : Outcome → Prop}
    (single : ∀ st buf desc, P (Ingress.process ⟨i.settings, near, now⟩ st buf desc).1)
    (event : ∀ e, P (.event e)) (dropped : ∀ reason, P (.drop reason)) :
    ∀ outcome ∈ (i.receive o near now s buf).1, P outcome := by
  have alone {x : Outcome} (h : P x) : ∀ outcome ∈ [x], P outcome := by
    intro outcome mem
    obtain rfl := List.mem_singleton.1 mem
    exact h
  unfold receive
  split
  · exact alone (dropped _)
  · next desc _ =>
    split
    · rcases receiveRequest_outcome o (i.count (·.received buf.size)) s buf desc with
        ⟨e, told⟩ | ⟨reason, refused⟩
      · exact alone (told ▸ event e)
      · exact alone (refused ▸ dropped reason)
    · obtain ⟨stations, noted⟩ := (i.count (·.received buf.size)).notePeer_changes now
        (desc.frameClass.bind (peerOf? ((desc.payload? buf.window).getD []))) desc
      unfold receiveFrame
      simp only [noted]
      split
      · split
        · nofun
        · exact alone (dropped _)
      · intro outcome mem
        rcases List.mem_append.1 mem with copied | processed
        · unfold rawCopy at copied
          split at copied
          · obtain ⟨copy, -, rfl⟩ := Option.map_eq_some_iff.1 (Option.mem_toList.1 copied)
            exact event _
          · cases copied
        · exact Ingress.forall_processAll _ _ buf desc single dropped outcome processed

end Airlink.Interface
