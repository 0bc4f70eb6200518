import Airlink.Proofs.Backlog.Journals
import Airlink.Proofs.Backlog.Sessions

/-!
# Where every frame is

Whatever callbacks do to a queue while it is drained, no frame is lost, doubled or overtaken. At
each moment of a session every frame that entered is in one place: it was returned by one clearing
of the queue, or it is, in the order of entry, among the retired ones, out with the transport or
waiting (`Accounted`). Every moment that can follow keeps this so (`Follows.sound`), and the
sessions are made of such moments, so that it holds throughout (`session_sound`).
-/

namespace Airlink.Backlog

/-! ## Marked frames -/

/-- The frames with a given mark. -/
def marked (mark : Option Nat) (l : List (Buffer × Option Nat)) : List Buffer :=
  l.filterMap fun p => if p.2 = mark then some p.1 else none

@[simp] theorem marked_append (mark : Option Nat) (l l' : List (Buffer × Option Nat)) :
    marked mark (l ++ l') = marked mark l ++ marked mark l' :=
  List.filterMap_append

theorem marked_cons (mark m : Option Nat) (buf : Buffer) (l : List (Buffer × Option Nat)) :
    marked mark ((buf, m) :: l) = if m = mark then buf :: marked mark l else marked mark l := by
  unfold marked
  rw [List.filterMap_cons]
  split <;> rename_i h <;> split at h <;> simp_all

/-- The frames without a mark get one. -/
def markRest (k : Nat) (l : List (Buffer × Option Nat)) : List (Buffer × Option Nat) :=
  l.map fun p => (p.1, p.2.or (some k))

theorem map_fst_markRest (k : Nat) (l : List (Buffer × Option Nat)) :
    (markRest k l).map Prod.fst = l.map Prod.fst := by
  simp [markRest, Function.comp_def]

theorem marked_none_markRest (k : Nat) (l : List (Buffer × Option Nat)) :
    marked none (markRest k l) = [] := by
  simp [marked, markRest, List.filterMap_map]

/-- With a fresh mark, exactly the frames without one get it. -/
theorem marked_some_markRest {k : Nat} {l : List (Buffer × Option Nat)}
    (fresh : marked (some k) l = []) (i : Nat) :
    marked (some i) (markRest k l) = if i = k then marked none l else marked (some i) l := by
  induction l with
  | nil => simp [marked, markRest]
  | cons p l ih =>
    obtain ⟨buf, mark⟩ := p
    rw [marked_cons] at fresh
    show marked (some i) ((buf, mark.or (some k)) :: markRest k l) = _
    cases mark with
    | none =>
      rw [if_neg (by simp)] at fresh
      rw [marked_cons, ih fresh, marked_cons, marked_cons]
      by_cases hi : i = k
      · simp [hi]
      · simp [hi, Ne.symm hi]
    | some j =>
      have hj : j ≠ k := by
        rintro rfl
        simp at fresh
      rw [if_neg (by simpa using hj)] at fresh
      rw [marked_cons, ih fresh, marked_cons, marked_cons]
      by_cases hi : i = k
      · simp [hi, hj]
      · simp [hi]

/-! ## Accounts -/

/-- Every frame that entered is accounted for: there is a way to mark each with the number of the
clearing that returned it, or with nothing, so that the clearings returned just the frames marked
so, and those without a mark are, in the order of entry, the retired ones, the one that is out and
the waiting ones. -/
def Accounted (h : History) (waiting : List Buffer) : Prop :=
  ∃ marks : List (Buffer × Option Nat), marks.map Prod.fst = h.entered ∧
    marked none marks = h.retired ++ h.flight ++ waiting ∧
    ∀ k, marked (some k) marks = (h.cleared[k]?).getD []

theorem start_accounted : Accounted .start [] := ⟨[], rfl, rfl, fun _ => rfl⟩

namespace Accounted

variable {h : History} {w : List Buffer}

/-- Only the order of the frames without a mark counts, not where they are. -/
theorem move {h' : History} {w' : List Buffer} (a : Accounted h w)
    (order : h'.retired ++ h'.flight ++ w' = h.retired ++ h.flight ++ w)
    (entered : h'.entered = h.entered) (cleared : h'.cleared = h.cleared) : Accounted h' w' := by
  obtain ⟨marks, he, hm, hc⟩ := a
  exact ⟨marks, by rw [he, entered], by rw [hm, order], by rw [cleared]; exact hc⟩

theorem enter (a : Accounted h w) (buf : Buffer) :
    Accounted { h with entered := h.entered ++ [buf] } (w ++ [buf]) := by
  obtain ⟨marks, he, hm, hc⟩ := a
  refine ⟨marks ++ [(buf, none)], by rw [List.map_append, he]; rfl, ?_, ?_⟩
  · rw [marked_append, hm, marked_cons, List.append_assoc]
    rfl
  · intro k
    rw [marked_append, hc, marked_cons, if_neg (by simp)]
    exact List.append_nil _

theorem clear (a : Accounted h w) : Accounted { h with cleared := h.cleared ++ [w] } [] := by
  obtain ⟨marks, he, hm, hc⟩ := a
  obtain ⟨l₁, l₂, rfl, h₁, h₂⟩ := List.filterMap_eq_append_iff.1 hm
  have fresh : marked (some h.cleared.length) (l₁ ++ l₂) = [] := by
    rw [hc, List.getElem?_eq_none (Nat.le_refl _)]
    rfl
  rw [marked_append, List.append_eq_nil_iff] at fresh
  refine ⟨l₁ ++ markRest h.cleared.length l₂, ?_, ?_, ?_⟩
  · rw [List.map_append, map_fst_markRest, ← List.map_append, he]
  · rw [marked_append, marked_none_markRest]
    exact congrArg (· ++ []) h₁
  · intro k
    have hk := hc k
    rw [marked_append] at hk ⊢
    rw [marked_some_markRest fresh.2]
    by_cases e : k = h.cleared.length
    · subst e
      rw [if_pos rfl, fresh.1, List.getElem?_concat_length]
      exact h₂
    · rw [if_neg e, hk]
      by_cases lt : k < h.cleared.length
      · rw [List.getElem?_append_left lt]
      · rw [List.getElem?_eq_none (by omega), List.getElem?_eq_none (by simp; omega)]

end Accounted

/-- What holds at every moment: at most one frame is out, and all are accounted for. -/
structure Sound (h : History) (waiting : List Buffer) : Prop where
  single : h.flight.length ≤ 1
  accounted : Accounted h waiting

theorem Follows.sound {h : History} {w : List Buffer} {m : Moment} (f : Follows h w m)
    (s : Sound h w) : Sound (h.note m.event) m.queue.frames := by
  obtain ⟨single, accounted⟩ := s
  cases f with
  | enqueue buf d => exact ⟨single, accounted.enter buf⟩
  | pending d => exact ⟨single, accounted⟩
  | clear d => exact ⟨single, accounted.clear⟩
  | refuseOne visits d inside =>
    rw [show h.note (.did (.drainOne visits) (.step .busy)) = h from if_neg inside]
    exact ⟨single, accounted⟩
  | refuseAll visits d inside =>
    rw [show h.note (.did (.tryDrain visits) (.count 0)) = h from if_neg inside]
    exact ⟨single, accounted⟩
  | @submit buf rest head outside alone =>
    refine ⟨by simp [History.note, alone], accounted.move ?_ rfl rfl⟩
    simp [History.note, alone, head, holding]
  | answered buf reply inside out => exact ⟨single, accounted⟩
  | complete buf status outside out =>
    refine ⟨by simp [History.note, out], accounted.move ?_ rfl rfl⟩
    simp [History.note, out, holding]
  | completed buf status inside alone => exact ⟨single, accounted⟩
  | doneOne visits a outside =>
    rw [show h.note (.did (.drainOne visits) a) = { h with flight := [] } from if_pos outside]
    refine ⟨Nat.zero_le 1, accounted.move ?_ rfl rfl⟩
    simp [holding]
  | doneAll visits a outside =>
    rw [show h.note (.did (.tryDrain visits) a) = { h with flight := [] } from if_pos outside]
    refine ⟨Nat.zero_le 1, accounted.move ?_ rfl rfl⟩
    simp [holding]

theorem Path.sound {h h' : History} {w w' : List Buffer} {ms : List Moment}
    (p : Path h w ms h' w') (s : Sound h w) : Sound h' w' := by
  induction p with
  | nil h w => exact s
  | cons first rest ih => exact ih (first.sound s)

/-! ## Sessions -/

/-- What a moment may not do: submit while another frame is out or a callback is under way, or any
frame but the one in front; and drain inside a callback. -/
def Orderly (h : History) (q : Backlog) (m : Moment) : Prop :=
  match m.event with
  | .submit buf => h.depth = 0 ∧ h.flight = [] ∧ q.frames = buf :: m.queue.frames
  | .did (.drainOne _) a => h.depth ≠ 0 → a = .step .busy ∧ m.queue.frames = q.frames
  | .did (.tryDrain _) a => h.depth ≠ 0 → a = .count 0 ∧ m.queue.frames = q.frames
  | _ => True

theorem Follows.orderly {h : History} {q : Backlog} {m : Moment} (f : Follows h q.frames m) :
    Orderly h q m := by
  generalize hw : q.frames = w at f
  cases f with
  | submit head outside alone => exact ⟨outside, alone, hw.trans head⟩
  | refuseOne visits d inside => exact fun _ => ⟨rfl, hw.symm⟩
  | refuseAll visits d inside => exact fun _ => ⟨rfl, hw.symm⟩
  | doneOne visits a outside => exact fun inside => absurd outside inside
  | doneAll visits a outside => exact fun inside => absurd outside inside
  | _ => trivial

/-- **Re-entrant use.** Take any session on a backlog, with any answers of the transport and with
operations in the callbacks nested as deep as one likes, and cut its moments anywhere. At the cut

* the number noted is the number of waiting frames;
* at most one frame is out with the transport;
* every frame that entered was returned by one clearing, or is one of the retired, the one that is
  out and the waiting, which together are in the order of entry;
* the next moment is orderly: a submission is made outside of all callbacks, with no other frame
  out, and takes the frame in front; inside a callback a drain step answers that it is busy, a
  series of them that it retired none, and both leave the frames alone.

At the end no callback is under way, no frame is out, and the queue is ready to be drained. -/
theorem session_sound (steps : List Step) :
    (∀ past future, trace steps = past ++ future →
      let h := History.of past
      let q := queueAfter past
      q.pending = q.frames.length ∧ h.flight.length ≤ 1 ∧ Accounted h q.frames ∧
        ∀ m ∈ future.head?, Orderly h q m) ∧
      (History.of (trace steps)).depth = 0 ∧ (History.of (trace steps)).flight = [] ∧
      (runSteps steps .empty).2 = holding (queueAfter (trace steps)).frames false := by
  obtain ⟨h', w', e, p, depth, flight⟩ := takeSteps_outside (h := .start) steps [] rfl rfl
  change Path .start [] (trace steps) h' w' at p
  refine ⟨?_, ?_, ?_, ?_⟩
  · intro past future cut h q
    rw [cut] at p
    obtain ⟨h₁, w₁, before, after⟩ := p.split
    obtain rfl : h = h₁ := before.history.symm
    obtain ⟨frames, counted⟩ := before.queue (q := .empty) rfl rfl
    obtain rfl : q.frames = w₁ := frames
    obtain ⟨single, accounted⟩ := before.sound ⟨Nat.zero_le 1, start_accounted⟩
    exact ⟨counted, single, accounted, fun m first => (after.head first).orderly⟩
  · rw [← depth, p.history]
    rfl
  · rw [← flight, p.history]
    rfl
  · rw [← (p.queue (q := .empty) rfl rfl).1] at e
    exact (takeSteps_same reports moments steps .empty).trans e

/-- A second drain step while the first frame is out: it is refused, the transport is then busy for
the frame, and later drain steps retire both frames in order. -/
theorem session_sound_second_drainer :
    let first := Buffer.ofBytes .tx [1]
    let second := Buffer.ofBytes .tx [2]
    let steps := [.enqueue first, .enqueue second,
      .drainOne [.mk .busy [.drainOne [.mk .ok [] []]] []], .tryDrain []]
    (History.of (trace steps)).entered = [first, second] ∧
      (History.of (trace steps)).retired = [first, second] ∧
      Accounted (History.of (trace steps)) (queueAfter (trace steps)).frames := by
  intro first second steps
  refine ⟨by decide, by decide, ?_⟩
  exact ((session_sound steps).1 (trace steps) [] (List.append_nil _).symm).2.2.1

end Airlink.Backlog
