import Airlink.Proofs.Calls
import Airlink.Proofs.Transmit.Relay

/-!
# Drain steps

A drain step of an interface submits the frame in front of its backlog and does with the backlog
what the answer says (`Interface.drainOne_submits`). An interface that makes a drain step in each of
some rounds, up to one that finds the transport busy, submits the first frames that waited, in order
and one to a round, and the others go on waiting (`Backlog.Serves.served`).
-/

namespace Airlink

open Outside (Call)

variable {σ : Type}

/-- Whether the transport accepted a frame or refused it for good. -/
def Submission.retires : Submission → Bool
  | .busy _ => false
  | _ => true

theorem Submission.waiting_of_retires {answer : Submission} (h : answer.retires = true) :
    answer.waiting = [] := by
  cases answer with
  | success | failure => rfl
  | busy => cases h

namespace Backlog

/-! ## One step -/

/-- What a drain step does: how it ends, the submissions it makes, and the backlog behind it. -/
inductive Submits (q : Backlog) : DrainStep → List (Buffer × Submission) → Backlog → Prop where
  | refused (underway : q.draining = true) : Submits q .busy [] q
  | empty (free : q.draining = false) (none : q.frames = []) :
      Submits q .empty [] (q.setFrames [])
  | retired {buf : Buffer} {rest : List Buffer} {answer : Submission} (free : q.draining = false)
      (head : q.frames = buf :: rest) (taken : answer.retires = true) :
      Submits q .retired [(buf, answer)] (q.setFrames rest)
  | busy {buf back : Buffer} {rest : List Buffer} (free : q.draining = false)
      (head : q.frames = buf :: rest) :
      Submits q .busy [(buf, .busy back)] (q.setFrames (back :: rest))

namespace Submits

variable {q q' : Backlog} {step : DrainStep} {made : List (Buffer × Submission)}

theorem counted (h : Submits q step made q') (counted : q.Counted) : q'.Counted := by
  cases h with
  | refused => exact counted
  | empty | retired | busy => exact counted_setFrames _ _

/-- A step counts as one frame just if it made a submission that retired a frame. -/
theorem countP_made (h : Submits q step made q') :
    made.countP (·.2.retires) = if step = .retired then 1 else 0 := by
  cases h with
  | refused | empty => rfl
  | retired _ _ taken => simp [taken]
  | busy => rfl

/-- Each frame that is retired is one less to wait. -/
theorem pending_add (h : Submits q step made q') (counted : q.Counted) :
    (if step = .retired then 1 else 0) + q'.pending = q.pending := by
  rw [Counted] at counted
  cases h with
  | refused => simp
  | empty _ none => simp [counted, none, setFrames]
  | retired _ head => simp [counted, head, setFrames, Nat.add_comm]
  | busy _ head => simp [counted, head, setFrames]

end Submits

end Backlog

/-- A result without the log of the calls. -/
def withoutLog {α β : Type} (result : α × β × σ × List Call) : α × β × σ :=
  (result.1, result.2.1, result.2.2.1)

/-- Keeping the log changes nothing. -/
theorem Interface.drainOne_withoutLog (o : Outside σ) (i : Interface) (s : σ × List Call) :
    withoutLog (i.drainOne o.logged s) = i.drainOne o s.1 := by
  have ending : (i.drainOne o.logged s).1 = (i.drainOne o s.1).1 := by
    cases underway : i.backlog.draining with
    | true => rw [drainOne_of_draining _ underway, drainOne_of_draining _ underway]
    | false =>
      cases head : i.backlog.frames with
      | nil => rw [drainOne_of_nil _ underway head, drainOne_of_nil _ underway head]
      | cons buf rest =>
        rw [drainOne_of_cons _ underway head, drainOne_of_cons _ underway head]
        dsimp only [Outside.logged]
        cases (o.submit buf s.1).1 <;> rfl
  exact Prod.ext ending (i.drainOne_unlogged o s)

/-- From some moment on, all submissions were answered with the buffer that was handed over. -/
theorem Outside.Returns.keptSending {o : Outside σ} (h : o.Returns) (log : List Call) :
    o.logged.KeptSending fun s =>
      ∃ calls, s.2 = log ++ calls ∧ ∀ m ∈ submissions calls, m.2.buffer = m.1 where
  submit buf s noted := by
    obtain ⟨calls, noted, answered⟩ := noted
    refine ⟨calls ++ [.submit buf (o.submit buf s.1).1], ?_, fun m mem => ?_⟩
    · rw [← List.append_assoc, ← noted]
      rfl
    · rw [submissions_append] at mem
      rcases List.mem_append.1 mem with mem | mem
      · exact answered m mem
      · obtain rfl := List.mem_singleton.1 mem
        exact h buf s.1
  sendComplete buf status s noted := by
    obtain ⟨calls, noted, answered⟩ := noted
    refine ⟨calls ++ [.sendComplete buf status], ?_, fun m mem => ?_⟩
    · rw [← List.append_assoc, ← noted]
      rfl
    · rw [submissions_append] at mem
      rcases List.mem_append.1 mem with mem | mem
      · exact answered m mem
      · cases mem

/-- A drain step of an interface, read off its log. -/
theorem Interface.drainOne_submits (o : Outside σ) (i : Interface) (s : σ) (log : List Call) :
    ∃ calls, (i.drainOne o.logged (s, log)).2.2.2 = log ++ calls ∧
      i.backlog.Submits (i.drainOne o.logged (s, log)).1 (submissions calls)
        (i.drainOne o.logged (s, log)).2.1.backlog := by
  cases underway : i.backlog.draining with
  | true =>
    rw [drainOne_of_draining _ underway]
    exact ⟨[], by simp, .refused underway⟩
  | false =>
    cases head : i.backlog.frames with
    | nil =>
      rw [drainOne_of_nil _ underway head]
      exact ⟨[], by simp, .empty underway head⟩
    | cons buf rest =>
      rw [drainOne_of_cons _ underway head]
      dsimp only [Outside.logged]
      rw [← Outside.logged]
      generalize (o.submit buf s).2 = t
      generalize (o.submit buf s).1 = answer
      have completed (back : Buffer) (status : TxStatus) (taken : answer.retires = true) :
          ∃ calls, (complete o.logged back status (t, log ++ [.submit buf answer])).2 =
              log ++ calls ∧
            i.backlog.Submits .retired (submissions calls) (i.backlog.setFrames rest) := by
        obtain ⟨calls, noted, none, -⟩ :=
          complete_calls o back status t (log ++ [.submit buf answer])
        have made : submissions (.submit buf answer :: calls) = [(buf, answer)] := by simp [none]
        refine ⟨.submit buf answer :: calls, by rw [noted]; simp, ?_⟩
        rw [made]
        exact .retired underway head taken
      cases answer with
      | success back => exact completed back .success rfl
      | failure back reason => exact completed back (.failure reason) rfl
      | busy back => exact ⟨[.submit buf (.busy back)], rfl, .busy underway head⟩

namespace Backlog

/-! ## Rounds of steps -/

/-- What a step in each of some rounds does, up to one that ends as busy. -/
inductive Serves : Nat → Backlog → List (Buffer × Submission) → Backlog → Prop where
  | ended (q : Backlog) : Serves 0 q [] q
  | refused {rounds : Nat} {q : Backlog} (underway : q.draining = true) :
      Serves (rounds + 1) q [] q
  | empty {rounds : Nat} {q : Backlog} (free : q.draining = false) (none : q.frames = []) :
      Serves (rounds + 1) q [] (q.setFrames [])
  | retired {rounds : Nat} {q q' : Backlog} {buf : Buffer} {rest : List Buffer}
      {answer : Submission} {made : List (Buffer × Submission)} (free : q.draining = false)
      (head : q.frames = buf :: rest) (taken : answer.retires = true)
      (further : Serves rounds (q.setFrames rest) made q') :
      Serves (rounds + 1) q ((buf, answer) :: made) q'
  | busy {rounds : Nat} {q : Backlog} {buf back : Buffer} {rest : List Buffer}
      (free : q.draining = false) (head : q.frames = buf :: rest) :
      Serves (rounds + 1) q [(buf, .busy back)] (q.setFrames (back :: rest))

/-- What some rounds of steps have done. -/
structure Served (rounds : Nat) (q : Backlog) (made : List (Buffer × Submission)) (q' : Backlog) :
    Prop where
  /-- The frames submitted are the first ones that waited, in order. -/
  first : made.map (·.1) = q.frames.take made.length
  /-- At most one to a round. -/
  length_le : made.length ≤ rounds
  /-- After one that found the transport busy there is no other. -/
  last : ∀ m ∈ made.dropLast, m.2.retires = true
  /-- The others wait as before, behind the one that the busy transport gave back. -/
  rest : q'.frames = made.flatMap (·.2.waiting) ++ q.frames.drop made.length
  /-- If the transport was never busy, no round was lost while frames waited. -/
  turns : q.draining = false → (∀ m ∈ made, m.2.retires = true) →
    q'.frames = [] ∨ made.length = rounds

namespace Serves

variable {rounds : Nat} {q q' q'' : Backlog} {made made' : List (Buffer × Submission)}

/-- A backlog in which nothing waits stays so. -/
theorem of_nil (h : Serves rounds q made q') (free : q.draining = false) (none : q.frames = []) :
    made = [] ∧ (q' = q ∨ q' = q.setFrames []) := by
  cases h with
  | ended => exact ⟨rfl, .inl rfl⟩
  | refused underway => exact absurd underway (by simp [free])
  | empty => exact ⟨rfl, .inr rfl⟩
  | retired _ head => cases none.symm.trans head
  | busy _ head => cases none.symm.trans head

theorem served (h : Serves rounds q made q') : Served rounds q made q' := by
  induction h with
  | ended q => exact ⟨rfl, Nat.le_refl 0, by simp, rfl, fun _ _ => .inr rfl⟩
  | refused underway => exact ⟨rfl, Nat.zero_le _, by simp, rfl, by simp [underway]⟩
  | empty free none =>
    exact ⟨by simp, Nat.zero_le _, by simp, by simp [setFrames, none], fun _ _ => .inl rfl⟩
  | @retired rounds q q' buf rest answer made free head taken further ih =>
    obtain ⟨first, bound, last, left, turns⟩ := ih
    refine ⟨?_, ?_, ?_, ?_, ?_⟩
    · simpa [head, setFrames] using first
    · simpa using bound
    · cases made with
      | nil => simp
      | cons m made => simpa [taken] using last
    · simpa [head, setFrames, answer.waiting_of_retires taken] using left
    · intro _ all
      obtain ⟨-, all⟩ := List.forall_mem_cons.1 all
      simpa using turns free all
  | busy free head =>
    exact ⟨by simp [head], by simp, by simp, by simp [head, setFrames, Submission.waiting],
      by simp [Submission.retires]⟩

/-- From a transport that gives back what it is handed, the frames that were not retired wait as
before. -/
theorem frames_eq_drop (h : Serves rounds q made q')
    (returned : ∀ m ∈ made, m.2.buffer = m.1) :
    q'.frames = q.frames.drop (made.countP (·.2.retires)) := by
  induction h with
  | ended q => rfl
  | refused => rfl
  | empty _ none => simp [none, setFrames]
  | retired _ head taken _ ih =>
    obtain ⟨-, returned⟩ := List.forall_mem_cons.1 returned
    simpa [head, taken, setFrames] using ih returned
  | @busy rounds q buf back rest _ head =>
    have same : back = buf := returned _ List.mem_cons_self
    simp [head, same, setFrames, Submission.retires]

end Serves

end Backlog

end Airlink
