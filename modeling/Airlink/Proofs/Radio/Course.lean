import Airlink.Proofs.Arising
import Airlink.Proofs.Radio.Starting
import Airlink.Proofs.Radio.Steps
import Airlink.Proofs.Transmit.Drain

/-!
# The course of a radio

Whatever a radio does, it does by operations of single interfaces on the way out (`TxOp`), and by
work that neither touches a backlog nor makes a submission. `Course` is such a course of work, with
the submissions that it makes and for each of them the interface that makes it. Every operation of a
radio is one (`Radio.Op.takes_course`), and so is every run (`Radio.run_takes_course`). So what each
operation of an interface keeps is kept by the radio.
-/

namespace Airlink

open Outside (Call)

variable {σ : Type}

/-! ## Courses -/

/-- An interface and what becomes of it by work that touches neither its identity nor its
backlog. -/
structure Interface.Rests (i j : Interface) : Prop where
  identity : j.identity = i.identity
  backlog : j.backlog = i.backlog

theorem Interface.Rests.refl (i : Interface) : i.Rests i := ⟨rfl, rfl⟩

/-- A course of work of interfaces and parties outside, with the submissions that are made in it,
each with the position of the interface that makes it. -/
inductive Course (o : Outside σ) : List Interface × σ × List Call →
    List (Nat × Buffer × Submission) → List Interface × σ × List Call → Prop where
  | quiet {is js : List Interface} {s t : σ × List Call}
      (rests : List.Forall₂ Interface.Rests is js)
      (silent : submissions t.2 = submissions s.2) : Course o (is, s) [] (js, t)
  | transmit {is : List Interface} {k : Nat} {i : Interface} {s : σ} {log calls : List Call}
      (at_ : is[k]? = some i) (op : TxOp)
      (noted : (op.apply o.logged (i, s, log)).2.2 = log ++ calls) :
      Course o (is, s, log) ((submissions calls).map (k, ·))
        (is.set k (op.apply o.logged (i, s, log)).1, (op.apply o.logged (i, s, log)).2)
  | trans {st st' st'' : List Interface × σ × List Call}
      {made made' : List (Nat × Buffer × Submission)} (h : Course o st made st')
      (h' : Course o st' made' st'') : Course o st (made ++ made') st''

/-- The submissions of a course are those that the log has more. -/
theorem Course.submissions_eq {o : Outside σ} {st st' : List Interface × σ × List Call}
    {made : List (Nat × Buffer × Submission)} (h : Course o st made st') :
    submissions st'.2.2 = submissions st.2.2 ++ made.map (·.2) := by
  induction h with
  | quiet _ silent => rw [silent, List.map_nil, List.append_nil]
  | transmit _ op noted =>
    rw [noted, submissions_append, List.map_map]
    exact congrArg _ (List.map_id' _).symm
  | trans _ _ ih ih' => rw [ih', ih, List.map_append, List.append_assoc]

/-- An operation on the way out keeps what the calls there keep. -/
theorem TxOp.apply_keeps {o : Outside σ} {I : σ → Prop} (h : o.KeptSending I) (op : TxOp)
    (st : Interface × σ) (hs : I st.2) : I (op.apply o st).2 := by
  cases op with
  | send buf hints => exact st.1.send_keeps h buf hints hs
  | relay buf => exact st.1.relay_keeps h buf hs
  | drainOne => exact st.1.drainOne_keeps h hs
  | flush => exact st.1.flush_keeps h hs

/-- The log only grows. -/
theorem Outside.logged_keptSending_prefix (o : Outside σ) (log : List Call) :
    o.logged.KeptSending fun s => log <+: s.2 where
  submit _ _ kept := kept.trans (List.prefix_append _ _)
  sendComplete _ _ _ kept := kept.trans (List.prefix_append _ _)

/-- There is a course from one state to another. -/
def TakesCourse (o : Outside σ) (st st' : List Interface × σ × List Call) : Prop :=
  ∃ made, Course o st made st'

namespace TakesCourse

variable {o : Outside σ} {is js : List Interface} {s t : σ × List Call}
  {st st' st'' : List Interface × σ × List Call}

theorem trans (h : TakesCourse o st st') (h' : TakesCourse o st' st'') : TakesCourse o st st'' := by
  obtain ⟨made, course⟩ := h
  obtain ⟨made', course'⟩ := h'
  exact ⟨made ++ made', course.trans course'⟩

theorem quiet (rests : List.Forall₂ Interface.Rests is js)
    (silent : submissions t.2 = submissions s.2) : TakesCourse o (is, s) (js, t) :=
  ⟨[], .quiet rests silent⟩

theorem refl (st : List Interface × σ × List Call) : TakesCourse o st st :=
  quiet (List.forall₂_same.2 fun i _ => .refl i) rfl

/-- Calls other than submissions. -/
theorem calls (silent : submissions t.2 = submissions s.2) : TakesCourse o (is, s) (is, t) :=
  quiet (List.forall₂_same.2 fun i _ => .refl i) silent

/-- One interface is worked on, other than on the way out. -/
theorem set {k : Nat} {i j : Interface} (at_ : is[k]? = some i) (rests : i.Rests j)
    (silent : submissions t.2 = submissions s.2) : TakesCourse o (is, s) (is.set k j, t) :=
  quiet (Radio.forall₂_set Interface.Rests.refl at_ rests) silent

/-- One interface does an operation on the way out. -/
theorem transmit {k : Nat} {i : Interface} (at_ : is[k]? = some i) (op : TxOp) :
    TakesCourse o (is, s)
      (is.set k (op.apply o.logged (i, s)).1, (op.apply o.logged (i, s)).2) := by
  obtain ⟨s, log⟩ := s
  obtain ⟨calls, noted⟩ := op.apply_keeps (o.logged_keptSending_prefix log) (i, s, log)
    (List.prefix_refl log)
  exact ⟨_, .transmit at_ op noted.symm⟩

/-- The interface behind some others does an operation on the way out. -/
theorem transmit_behind (o : Outside σ) (done : List Interface) (i : Interface)
    (rest : List Interface) (s : σ × List Call) (op : TxOp) :
    TakesCourse o (done ++ i :: rest, s)
      (done ++ (op.apply o.logged (i, s)).1 :: rest, (op.apply o.logged (i, s)).2) := by
  have at_ : (done ++ i :: rest)[done.length]? = some i := by simp
  have course := transmit (o := o) (s := s) at_ op
  rwa [List.set_append_right _ _ (Nat.le_refl _), Nat.sub_self, List.set_cons_zero] at course

/-- Steps one after the other. -/
theorem foldl {α : Type} {f : Radio × σ × List Call → α → Radio × σ × List Call}
    (step : ∀ st a, TakesCourse o (st.1.interfaces, st.2) ((f st a).1.interfaces, (f st a).2))
    (as : List α) (st : Radio × σ × List Call) :
    TakesCourse o (st.1.interfaces, st.2) ((as.foldl f st).1.interfaces, (as.foldl f st).2) := by
  induction as generalizing st with
  | nil => exact refl _
  | cons a as ih => exact (step st a).trans (ih (f st a))

end TakesCourse

/-! ## Receiving -/

/-- On the way in nothing is submitted. -/
theorem Outside.logged_keptReceiving_submissions (o : Outside σ)
    (made : List (Buffer × Submission)) :
    o.logged.KeptReceiving fun s => submissions s.2 = made where
  reorder _ _ _ _ _ _ kept := ((submissions_append _ _).trans (List.append_nil _)).trans kept
  record _ _ _ _ kept := ((submissions_append _ _).trans (List.append_nil _)).trans kept

namespace Radio

variable (o : Outside σ)

theorem takesCourse_count (r : Radio) (k : Nat) (f : Counters → Counters) {s t : σ × List Call}
    (silent : submissions t.2 = submissions s.2) :
    TakesCourse o (r.interfaces, s) ((r.count k f).interfaces, t) := by
  show TakesCourse o (r.interfaces, s) (r.interfaces.modify k (·.count f), t)
  cases at_ : r.interfaces[k]? with
  | none =>
    rw [List.modify_eq_self (List.getElem?_eq_none_iff.1 at_)]
    exact .calls silent
  | some i =>
    rw [List.modify_eq_set_getElem?, at_]
    exact .set at_ ⟨rfl, rfl⟩ silent

theorem takesCourse_deliver (k : Nat) (buf : Buffer) (r : Radio) (s : σ × List Call) :
    TakesCourse o (r.interfaces, s)
      ((r.deliver o.logged k buf s).1.interfaces, (r.deliver o.logged k buf s).2) := by
  have silent : submissions (r.deliver o.logged k buf s).2.2 = submissions s.2 :=
    (submissions_append _ _).trans (List.append_nil _)
  unfold deliver at silent ⊢
  dsimp only
  split <;> exact takesCourse_count o r k _ silent

theorem takesCourse_relayThrough (k : Nat) (buf : Buffer) (r : Radio) (s : σ × List Call) :
    TakesCourse o (r.interfaces, s)
      ((r.relayThrough o.logged k buf s).1.interfaces, (r.relayThrough o.logged k buf s).2) := by
  unfold relayThrough
  split
  · exact .refl _
  · next i at_ => exact .transmit at_ (.relay buf)

theorem takesCourse_relay (k : Nat) (buf : Buffer) (scope : Scope) (r : Radio)
    (s : σ × List Call) :
    TakesCourse o (r.interfaces, s)
      ((r.relay o.logged k buf scope s).1.interfaces, (r.relay o.logged k buf scope s).2) := by
  unfold relay
  split
  · exact takesCourse_relayThrough o k buf r s
  · split
    · exact takesCourse_relayThrough o _ buf r s
    · exact takesCourse_count o r k _ rfl

theorem takesCourse_dispatchCopy (k : Nat) (copy : Duplicate) (r : Radio) (s : σ × List Call) :
    TakesCourse o (r.interfaces, s) ((r.dispatchCopy o.logged k copy s).1.interfaces,
      (r.dispatchCopy o.logged k copy s).2) := by
  cases copy with
  | retransmit buf scope =>
    exact (takesCourse_count o r k _ rfl).trans (takesCourse_relay o k buf scope _ s)
  | monitor buf =>
    exact takesCourse_count o r k _ ((submissions_append _ _).trans (List.append_nil _))

theorem takesCourse_dispatch (k : Nat) (bss : UInt8) (outcome : Outcome) (r : Radio)
    (s : σ × List Call) :
    TakesCourse o (r.interfaces, s) ((r.dispatch o.logged k bss outcome s).1.interfaces,
      (r.dispatch o.logged k bss outcome s).2) := by
  cases outcome with
  | deliver buf => exact takesCourse_deliver o k buf r s
  | forward buf scope =>
    exact (takesCourse_count o r k _ rfl).trans (takesCourse_relay o k buf scope _ s)
  | duplicate buf copies =>
    exact (TakesCourse.foldl (fun st copy => takesCourse_dispatchCopy o k copy st.1 st.2) copies
      (r, s)).trans (takesCourse_deliver o k buf _ _)
  | event e =>
    have silent : submissions (o.logged.event bss e s).2 = submissions s.2 :=
      (submissions_append _ _).trans (List.append_nil _)
    cases e with
    | monitor buf =>
      exact (takesCourse_count o r k _ rfl).trans (takesCourse_count o _ k _ silent)
    | debug text => exact takesCourse_count o r k _ silent
    | management frame => exact takesCourse_count o r k _ silent
  | drop reason => exact takesCourse_count o r k _ rfl

theorem takesCourse_dispatchAll (k : Nat) (bss : UInt8) (outcomes : List Outcome) (r : Radio)
    (s : σ × List Call) :
    TakesCourse o (r.interfaces, s) ((r.dispatchAll o.logged k bss outcomes s).1.interfaces,
      (r.dispatchAll o.logged k bss outcomes s).2) :=
  TakesCourse.foldl (fun st outcome => takesCourse_dispatch o k bss outcome st.1 st.2) outcomes
    (r, s)

theorem takesCourse_receive (now : Instant) (r : Radio) (s : σ × List Call) (buf : Buffer) :
    TakesCourse o (r.interfaces, s) ((r.receive o.logged now s buf).2.1.interfaces,
      (r.receive o.logged now s buf).2.2) := by
  unfold receive
  split
  · exact .refl _
  · next bss _ =>
    rcases r.require_eq bss with ⟨k, i, ok, -, at_, -⟩ | ⟨failed, -⟩
    · have silent := i.receive_keeps (o.logged_keptReceiving_submissions (submissions s.2))
        (r.neighbors k) now buf rfl
      have received := TakesCourse.set (o := o) at_
        ⟨i.identity_receive o.logged (r.neighbors k) now s buf,
          i.backlog_receive o.logged (r.neighbors k) now s buf⟩ silent
      rw [ok]
      exact received.trans (takesCourse_dispatchAll o k bss _ (r.set k _) _)
    · rw [failed]
      exact .refl _

theorem takesCourse_receiveReordered (now : Instant) (r : Radio) (s : σ × List Call) (bss : UInt8)
    (buf : Buffer) :
    TakesCourse o (r.interfaces, s) ((r.receiveReordered o.logged now s bss buf).2.1.interfaces,
      (r.receiveReordered o.logged now s bss buf).2.2) := by
  unfold receiveReordered
  rcases r.require_eq bss with ⟨k, i, ok, -, at_, -⟩ | ⟨failed, -⟩
  · have silent := i.receiveReordered_keeps (o.logged_keptReceiving_submissions (submissions s.2))
      (r.neighbors k) now buf rfl
    have received := TakesCourse.set (o := o) at_
      ⟨i.identity_receiveReordered o.logged (r.neighbors k) now s buf,
        i.backlog_receiveReordered o.logged (r.neighbors k) now s buf⟩ silent
    rw [ok]
    exact received.trans (takesCourse_dispatchAll o k bss _ (r.set k _) _)
  · rw [failed]
    exact .refl _

/-! ## Sending, serving, forgetting, flushing -/

theorem takesCourse_send (r : Radio) (s : σ × List Call) (bss : UInt8) (buf : Buffer)
    (hints : TransmitHints) :
    TakesCourse o (r.interfaces, s) ((r.send o.logged s bss buf hints).2.1.interfaces,
      (r.send o.logged s bss buf hints).2.2) := by
  unfold send
  rcases r.require_eq bss with ⟨k, i, ok, -, at_, -⟩ | ⟨failed, -⟩
  · rw [ok]
    exact .transmit at_ (.send buf hints)
  · rw [failed]
    exact .refl _

/-- A round, in which some interfaces have had their turn. -/
theorem takesCourse_serviceRound (served : List Interface) (turns : List Turn)
    (s : σ × List Call) :
    TakesCourse o (served ++ turns.map (·.1), s)
      (served ++ (serviceRound o.logged turns s).2.1.map (·.1),
        (serviceRound o.logged turns s).2.2) := by
  induction turns generalizing served s with
  | nil => exact .refl _
  | cons turn turns ih =>
    obtain ⟨i, out⟩ := turn
    cases out with
    | true => simpa [serviceRound] using ih (served ++ [i]) s
    | false =>
      have first := TakesCourse.transmit_behind o served i (turns.map (·.1)) s .drainOne
      have rest := ih (served ++ [(i.drainOne o.logged s).2.1]) (i.drainOne o.logged s).2.2
      rw [List.append_assoc, List.append_assoc] at rest
      exact first.trans rest

theorem takesCourse_serviceRounds (rounds : Nat) (turns : List Turn) (s : σ × List Call) :
    TakesCourse o (turns.map (·.1), s)
      ((serviceRounds o.logged rounds turns s).2.1.map (·.1),
        (serviceRounds o.logged rounds turns s).2.2) := by
  induction rounds generalizing turns s with
  | zero => exact .refl _
  | succ rounds ih =>
    have first := takesCourse_serviceRound o [] turns s
    unfold serviceRounds
    dsimp only
    split
    · exact first
    · exact first.trans (ih _ _)

theorem takesCourse_flushAll (flushed interfaces : List Interface) (s : σ × List Call) :
    TakesCourse o (flushed ++ interfaces, s)
      (flushed ++ (flushAll o.logged interfaces s).2.1, (flushAll o.logged interfaces s).2.2) := by
  induction interfaces generalizing flushed s with
  | nil => exact .refl _
  | cons i interfaces ih =>
    have first := TakesCourse.transmit_behind o flushed i interfaces s .flush
    have rest := ih (flushed ++ [(i.flush o.logged s).2.1]) (i.flush o.logged s).2.2
    rw [List.append_assoc, List.append_assoc] at rest
    exact first.trans rest

/-! ## Operations and runs -/

/-- Every operation of a radio is a course of work of its interfaces. -/
theorem Op.takes_course (op : Op) (st : Radio × σ × List Call) :
    TakesCourse o (st.1.interfaces, st.2)
      ((op.apply o.logged st).1.interfaces, (op.apply o.logged st).2) := by
  obtain ⟨r, s⟩ := st
  cases op with
  | receive now buf => exact takesCourse_receive o now r s buf
  | receiveReordered now bss buf => exact takesCourse_receiveReordered o now r s bss buf
  | send bss buf hints => exact takesCourse_send o r s bss buf hints
  | service rounds =>
    have course := takesCourse_serviceRounds o rounds (r.interfaces.map (·, false)) s
    rwa [List.map_map, Function.comp_def, List.map_id'] at course
  | deliveryComplete bss =>
    show TakesCourse o (r.interfaces, s) (((r.deliveryComplete bss).toOption.getD r).interfaces, s)
    unfold Radio.deliveryComplete
    cases r.require bss with
    | error e => exact .refl _
    | ok found => exact takesCourse_count o r _ _ rfl
  | expire now =>
    refine .quiet ?_ rfl
    show List.Forall₂ Interface.Rests r.interfaces (r.expire now).2.interfaces
    unfold Radio.expire
    dsimp only
    rw [List.map_map]
    exact List.forall₂_map_right_iff.2 (List.forall₂_same.2 fun i _ => ⟨rfl, rfl⟩)
  | flush => exact takesCourse_flushAll o [] r.interfaces s

/-- So is every run. -/
theorem run_takes_course (ops : List Op) (st : Radio × σ × List Call) :
    TakesCourse o (st.1.interfaces, st.2)
      ((run o.logged ops st).1.interfaces, (run o.logged ops st).2) := by
  induction ops generalizing st with
  | nil => exact .refl _
  | cons op ops ih => exact (op.takes_course o st).trans (ih (op.apply o.logged st))

end Radio

end Airlink
