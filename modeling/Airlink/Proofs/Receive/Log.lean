import Airlink.Proofs.Log
import Airlink.Radio

/-!
# The log of a receiving radio

Which data frames the reorder engine was offered, and with what answer, is read off the log of the
calls (`offers`). Everything that follows the processing of a received frame (relaying it,
delivering it, telling the host of events) makes calls of other kinds only, and does with the log
what it does without (`Notes`, `dispatchAll_notes`).
-/

namespace Airlink

open Outside (Call)

variable {σ α β : Type}

/-! ## Offers -/

/-- The data frame or aggregate that a call offers to the reorder engine, with the answer. -/
def Outside.Call.offer? : Call → Option (Buffer × Except Error Unit)
  | .reorder _ _ _ .data buf answer => some (buf, answer)
  | .reorder _ _ _ .amsdu buf answer => some (buf, answer)
  | _ => none

/-- The data frames and aggregates that the reorder engine was offered, in order. -/
def offers (log : List Call) : List (Buffer × Except Error Unit) := log.filterMap Call.offer?

@[simp] theorem offers_append (l m : List Call) : offers (l ++ m) = offers l ++ offers m :=
  List.filterMap_append

/-! ## Computations that make no offer -/

/-- The first computation does what the second one does, notes its calls, and offers nothing to the
reorder engine. -/
def Notes (f : σ × List Call → α × σ × List Call) (g : σ → α × σ) : Prop :=
  ∀ s log, ∃ calls, f (s, log) = ((g s).1, (g s).2, log ++ calls) ∧ offers calls = []

namespace Notes

/-- A computation that makes no call. -/
theorem pure (a : α) : Notes (σ := σ) (fun s => (a, s)) fun s => (a, s) :=
  fun s log => ⟨[], by rw [List.append_nil], rfl⟩

theorem bind {f : σ × List Call → α × σ × List Call} {g : σ → α × σ}
    {f' : α → σ × List Call → β × σ × List Call} {g' : α → σ → β × σ} (first : Notes f g)
    (next : ∀ a, Notes (f' a) (g' a)) :
    Notes (fun s => f' (f s).1 (f s).2) fun s => g' (g s).1 (g s).2 := by
  intro s log
  obtain ⟨calls, e, none⟩ := first s log
  obtain ⟨calls', e', none'⟩ := next (g s).1 (g s).2 (log ++ calls)
  refine ⟨calls ++ calls', ?_, by rw [offers_append, none, none', List.append_nil]⟩
  simp only [e, e', List.append_assoc]

/-- Steps one after the other. -/
theorem foldl {f : α → β → σ × List Call → α × σ × List Call} {g : α → β → σ → α × σ}
    (step : ∀ a b, Notes (f a b) (g a b)) (bs : List β) (a : α) :
    Notes (fun s => bs.foldl (fun st b => f st.1 b st.2) (a, s))
      fun s => bs.foldl (fun st b => g st.1 b st.2) (a, s) := by
  induction bs generalizing a with
  | nil => exact pure a
  | cons b bs ih => exact bind (step a b) fun a => ih a

end Notes

/-! ## Transmitting -/

namespace Interface

theorem complete_notes (o : Outside σ) (buf : Buffer) (status : TxStatus) (s : σ)
    (log : List Call) :
    ∃ calls, complete o.logged buf status (s, log) = (complete o buf status s, log ++ calls) ∧
      offers calls = [] := by
  unfold complete
  split
  · exact ⟨[], by rw [List.append_nil], rfl⟩
  · split
    · exact ⟨[.sendComplete _ status], rfl, rfl⟩
    · exact ⟨[.sendComplete _ status], rfl, rfl⟩

theorem submit_notes (o : Outside σ) (i : Interface) (framed : Buffer) :
    Notes (fun s => i.submit o.logged s framed) fun s => i.submit o s framed := by
  intro s log
  unfold submit
  split
  · simp only [Outside.logged]
    cases (o.submit framed s).1 with
    | success buf =>
      obtain ⟨calls, e, none⟩ := complete_notes o buf .success (o.submit framed s).2
        (log ++ [.submit framed (.success buf)])
      refine ⟨.submit framed (.success buf) :: calls, ?_, none⟩
      exact congrArg (Prod.mk _) (e.trans (by simp))
    | failure buf reason =>
      obtain ⟨calls, e, none⟩ := complete_notes o buf (.failure reason) (o.submit framed s).2
        (log ++ [.submit framed (.failure buf reason)])
      refine ⟨.submit framed (.failure buf reason) :: calls, ?_, none⟩
      exact congrArg (Prod.mk _) (e.trans (by simp))
    | busy buf => exact ⟨[.submit framed (.busy buf)], rfl, rfl⟩
  · exact ⟨[], by rw [List.append_nil], rfl⟩

theorem relay_notes (o : Outside σ) (i : Interface) (buf : Buffer) :
    Notes (fun s => i.relay o.logged s buf) fun s => i.relay o s buf := by
  unfold relay
  split
  · exact .pure _
  · exact submit_notes o i _

end Interface

/-! ## Outcomes -/

namespace Radio

theorem deliver_notes (o : Outside σ) (k : Nat) (buf : Buffer) (r : Radio) :
    Notes (fun s => r.deliver o.logged k buf s) fun s => r.deliver o k buf s :=
  fun s _ => ⟨[.deliver buf (o.deliver buf s).1], rfl, rfl⟩

theorem relayThrough_notes (o : Outside σ) (k : Nat) (buf : Buffer) (r : Radio) :
    Notes (fun s => r.relayThrough o.logged k buf s) fun s => r.relayThrough o k buf s := by
  unfold relayThrough
  split
  · exact .pure _
  · next i _ => exact (i.relay_notes o buf).bind fun i => .pure (r.set k i)

theorem relay_notes (o : Outside σ) (k : Nat) (buf : Buffer) (scope : Scope) (r : Radio) :
    Notes (fun s => r.relay o.logged k buf scope s) fun s => r.relay o k buf scope s := by
  cases scope with
  | bss => exact relayThrough_notes o k buf r
  | sibling bss =>
    unfold relay
    dsimp only
    split
    · exact relayThrough_notes o _ buf r
    · exact .pure _

theorem dispatchCopy_notes (o : Outside σ) (k : Nat) (copy : Duplicate) (r : Radio) :
    Notes (fun s => r.dispatchCopy o.logged k copy s) fun s => r.dispatchCopy o k copy s := by
  cases copy with
  | retransmit buf scope => exact relay_notes o k buf scope _
  | monitor buf => exact fun s _ => ⟨[.deliverMonitor buf], rfl, rfl⟩

theorem dispatch_notes (o : Outside σ) (k : Nat) (bss : UInt8) (outcome : Outcome) (r : Radio) :
    Notes (fun s => r.dispatch o.logged k bss outcome s) fun s => r.dispatch o k bss outcome s := by
  cases outcome with
  | deliver buf => exact deliver_notes o k buf r
  | forward buf scope => exact relay_notes o k buf scope _
  | duplicate buf copies =>
    exact (Notes.foldl (fun r copy => dispatchCopy_notes o k copy r) copies r).bind
      fun r => deliver_notes o k buf r
  | event e => exact fun s _ => ⟨[.event bss e], rfl, rfl⟩
  | drop reason => exact .pure _

/-- Carrying out outcomes makes no offer to the reorder engine. -/
theorem dispatchAll_notes (o : Outside σ) (k : Nat) (bss : UInt8) (outcomes : List Outcome)
    (r : Radio) :
    Notes (fun s => r.dispatchAll o.logged k bss outcomes s)
      fun s => r.dispatchAll o k bss outcomes s :=
  .foldl (fun r outcome => dispatch_notes o k bss outcome r) outcomes r

end Radio

end Airlink
