import Airlink.Proofs.Backlog.Sessions
import Airlink.Proofs.Transmit.Drain

/-!
# Draining a queue

A queue is drained by drain steps one after the other, up to the first that retires no frame
(`Loop`). If the callbacks leave the queue alone, a step that retires a frame leaves one frame less,
so that the steps come to an end: there is at most one more of them than there are frames, which is
what `tryDrain` allows for (`Loop.drainAll_eq`).

What is done to the frames is read off the calls that were made (`Callbacks.noted`). The frames in
front are retired, up to one for which the transport is busy; that one stays in front, and those
behind it are not touched (`Drained`). So nothing is lost over any number of drainings
(`drain_longest_prefix`).
-/

namespace Airlink.Backlog

variable {σ : Type}

/-! ## Calls -/

namespace Callbacks

/-- Callbacks that do nothing to the queue. -/
structure LeaveQueue (cb : Callbacks σ) : Prop where
  submit : ∀ buf q s, (cb.submit buf q s).2.1 = q
  complete : ∀ buf status q s, (cb.complete buf status q s).1 = q

/-- The transport gives back the buffers that it is handed. -/
def Returns (cb : Callbacks σ) : Prop := ∀ buf q s, (cb.submit buf q s).1.buffer = buf

/-- A call that was made, a submission with its answer. -/
inductive Call where
  | submit (buf : Buffer) (answer : Submission)
  | complete (buf : Buffer) (status : TxStatus)
  deriving DecidableEq, Repr

/-- The same callbacks, with every call noted behind those noted before. -/
def noted (cb : Callbacks σ) : Callbacks (σ × List Call) where
  submit buf q s :=
    let (answer, q, t) := cb.submit buf q s.1
    (answer, q, t, s.2 ++ [.submit buf answer])
  complete buf status q s :=
    let (q, t) := cb.complete buf status q s.1
    (q, t, s.2 ++ [.complete buf status])

/-- The buffer that a call gives back to its owner. -/
def Call.completed? : Call → Option Buffer
  | .complete buf _ => some buf
  | .submit _ _ => none

end Callbacks

open Callbacks (Call LeaveQueue Returns)

variable {cb : Callbacks σ}

/-- The calls for a frame that is submitted: it is completed with the status that its answer gives,
once, unless the transport is busy. -/
def calls : Buffer × Submission → List Call
  | (buf, .success back) => [.submit buf (.success back), .complete back .success]
  | (buf, .failure back reason) =>
    [.submit buf (.failure back reason), .complete back (.failure reason)]
  | (buf, .busy back) => [.submit buf (.busy back)]

/-- The buffers given back to their owners, in order. -/
def completions (log : List Call) : List Buffer := log.filterMap Call.completed?

theorem completions_append (log log' : List Call) :
    completions (log ++ log') = completions log ++ completions log' := List.filterMap_append

theorem completions_calls_of_retires {buf : Buffer} {answer : Submission}
    (taken : answer.retires = true) : completions (calls (buf, answer)) = [answer.buffer] := by
  cases answer with
  | success | failure => rfl
  | busy => cases taken

/-! ## One step -/

/-- A state without the calls noted in it. -/
def forget (st : Backlog × σ × List Call) : Backlog × σ := (st.1, st.2.1)

/-- Noting the calls changes nothing. -/
theorem drainOne_noted (cb : Callbacks σ) (q : Backlog) (s : σ × List Call) :
    (drainOne cb.noted q s).1 = (drainOne cb q s.1).1 ∧
      forget (drainOne cb.noted q s).2 = (drainOne cb q s.1).2 := by
  unfold drainOne popFront
  by_cases underway : q.draining = true
  · rw [if_pos underway, if_pos underway]
    exact ⟨rfl, rfl⟩
  · rw [if_neg underway, if_neg underway]
    cases q.frames with
    | nil => exact ⟨rfl, rfl⟩
    | cons buf rest =>
      simp only [List.head?_cons, Callbacks.noted]
      cases (cb.submit buf _ s.1).1 <;> exact ⟨rfl, rfl⟩

/-- A drain step submits the frame in front. The frame is retired, or the transport is busy for it
and it goes back to the front. -/
theorem drainOne_cons_noted (leave : cb.LeaveQueue) (buf : Buffer) (rest : List Buffer) (s : σ)
    (log : List Call) :
    let answer := (cb.submit buf (holding rest true) s).1
    ∃ t,
      (answer.retires = true ∧ drainOne cb.noted (holding (buf :: rest) false) (s, log) =
        (.retired, holding rest false, t, log ++ calls (buf, answer))) ∨
      ∃ back, answer = .busy back ∧ drainOne cb.noted (holding (buf :: rest) false) (s, log) =
        (.busy, holding (back :: rest) false, t, log ++ calls (buf, answer)) := by
  obtain ⟨answer, q, t, submitted⟩ :
      ∃ answer q t, cb.submit buf (holding rest true) s = (answer, q, t) := ⟨_, _, _, rfl⟩
  obtain rfl : q = holding rest true := by
    rw [← leave.submit buf (holding rest true) s, submitted]
  have completed (back : Buffer) (status : TxStatus) :
      ∃ t', cb.complete back status (holding rest true) t = (holding rest true, t') :=
    ⟨_, Prod.ext (leave.complete back status _ t) rfl⟩
  simp only [drainOne_cons, Callbacks.noted, submitted]
  cases answer with
  | success back =>
    obtain ⟨t', completed⟩ := completed back .success
    refine ⟨t', .inl ⟨rfl, ?_⟩⟩
    simp only [finish, completed, calls, List.append_assoc]
    rfl
  | failure back reason =>
    obtain ⟨t', completed⟩ := completed back (.failure reason)
    refine ⟨t', .inl ⟨rfl, ?_⟩⟩
    simp only [finish, completed, calls, List.append_assoc]
    rfl
  | busy back => exact ⟨t, .inr ⟨back, rfl, rfl⟩⟩

/-! ## Steps up to the last -/

/-- Drain steps one after the other up to the first that retires no frame, with the number of steps
and the number of frames that they retire. -/
inductive Loop (cb : Callbacks σ) : Backlog × σ → Nat → Nat → Backlog × σ → Prop where
  | ended {st st' : Backlog × σ} {step : DrainStep} (last : drainOne cb st.1 st.2 = (step, st'))
      (none : step ≠ .retired) : Loop cb st 1 0 st'
  | again {st st' st'' : Backlog × σ} {steps retired : Nat}
      (first : drainOne cb st.1 st.2 = (.retired, st')) (further : Loop cb st' steps retired st'') :
      Loop cb st (steps + 1) (retired + 1) st''

namespace Loop

variable {st st' : Backlog × σ} {steps retired : Nat}

/-- If as many steps are allowed as it takes, the number allowed does not matter. -/
theorem drainAll_eq (h : Loop cb st steps retired st') {fuel : Nat} (enough : steps ≤ fuel) :
    drainAll cb fuel st.1 st.2 = (retired, st') := by
  induction h generalizing fuel with
  | @ended st st' step last none =>
    obtain ⟨fuel, rfl⟩ : ∃ k, fuel = k + 1 := ⟨fuel - 1, by omega⟩
    rw [drainAll, last]
    cases step with
    | retired => exact absurd rfl none
    | empty | busy => rfl
  | again first further ih =>
    obtain ⟨fuel, rfl⟩ : ∃ k, fuel = k + 1 := ⟨fuel - 1, by omega⟩
    rw [drainAll, first]
    simp only [ih (Nat.le_of_succ_le_succ enough)]

/-- The steps are the same ones if their calls are not noted. -/
theorem of_noted {st st' : Backlog × σ × List Call} (h : Loop cb.noted st steps retired st') :
    Loop cb (forget st) steps retired (forget st') := by
  induction h with
  | @ended st _ _ last none =>
    obtain ⟨ending, state⟩ := drainOne_noted cb st.1 st.2
    rw [last] at ending state
    exact .ended (Prod.ext ending.symm state.symm) none
  | @again st _ _ _ _ first _ ih =>
    obtain ⟨ending, state⟩ := drainOne_noted cb st.1 st.2
    rw [first] at ending state
    exact .again (Prod.ext ending.symm state.symm) ih

end Loop

/-- The steps come to an end: a frame that is retired is one less to wait. -/
theorem exists_loop (leave : cb.LeaveQueue) (frames : List Buffer) (s : σ) (log : List Call) :
    ∃ made left t,
      Loop cb.noted (holding frames false, s, log) (made.countP (·.2.retires) + 1)
        (made.countP (·.2.retires)) (holding left false, t, log ++ made.flatMap calls) ∧
      Serves (frames.length + 1) (holding frames false) made (holding left false) ∧
      (cb.Returns → ∀ m ∈ made, m.2.buffer = m.1) := by
  induction frames generalizing s log with
  | nil =>
    have last : drainOne cb.noted (holding [] false) (s, log) =
        (.empty, holding [] false, s, log) := rfl
    refine ⟨[], [], s, ?_, .empty rfl rfl, fun _ => List.forall_mem_nil _⟩
    rw [List.flatMap_nil, List.append_nil]
    exact .ended last nofun
  | cons buf rest ih =>
    obtain ⟨t, ⟨taken, first⟩ | ⟨back, busy, last⟩⟩ := drainOne_cons_noted leave buf rest s log
    · obtain ⟨made, left, t', further, serves, returned⟩ :=
        ih t (log ++ calls (buf, (cb.submit buf (holding rest true) s).1))
      have counted : ((buf, (cb.submit buf (holding rest true) s).1) :: made).countP (·.2.retires) =
          made.countP (·.2.retires) + 1 := List.countP_cons_of_pos taken
      refine ⟨(buf, (cb.submit buf (holding rest true) s).1) :: made, left, t', ?_,
        .retired rfl rfl taken serves, fun returns => ?_⟩
      · rw [counted, List.flatMap_cons, ← List.append_assoc]
        exact .again first further
      · exact List.forall_mem_cons.2 ⟨returns buf _ s, returned returns⟩
    · rw [busy] at last
      refine ⟨[(buf, .busy back)], back :: rest, t, ?_, .busy rfl rfl, fun returns => ?_⟩
      · rw [List.flatMap_singleton]
        exact .ended last nofun
      · have same := returns buf (holding rest true) s
        rw [busy] at same
        exact List.forall_mem_singleton.2 same

/-! ## What is done to the frames -/

/-- How the frames of a queue were drained: those submitted, with their answers, and those left. -/
structure Drained (frames : List Buffer) (made : List (Buffer × Submission))
    (left : List Buffer) : Prop where
  /-- The frames are submitted in the order of the queue. -/
  inOrder : made.map (·.1) = frames.take made.length
  /-- None is submitted behind one for which the transport was busy. -/
  stops : ∀ m ∈ made.dropLast, m.2.retires = true
  /-- If the transport is never busy, all are submitted. -/
  goesOn : (∀ m ∈ made, m.2.retires = true) → made.length = frames.length
  /-- The one for which the transport was busy is left in front as it came back, and behind it are
  those that were not submitted. -/
  rest : left = made.flatMap (·.2.waiting) ++ frames.drop made.length

/-- No more frames are submitted than wait. -/
theorem Serves.length_le {rounds : Nat} {q q' : Backlog} {made : List (Buffer × Submission)}
    (h : Serves rounds q made q') : made.length ≤ q.frames.length := by
  have length := congrArg List.length h.served.first
  rw [List.length_map, List.length_take] at length
  exact length ▸ Nat.min_le_right _ _

theorem Serves.drained {frames left : List Buffer} {made : List (Buffer × Submission)}
    (h : Serves (frames.length + 1) (holding frames false) made (holding left false)) :
    Drained frames made left := by
  obtain ⟨first, -, last, rest, turns⟩ := h.served
  have few : made.length ≤ frames.length := h.length_le
  refine ⟨first, last, fun all => ?_, rest⟩
  rcases turns rfl all with none | length
  · have unsubmitted : frames.drop made.length = [] :=
      (List.append_eq_nil_iff.1 (rest.symm.trans none)).2
    exact Nat.le_antisymm few (List.drop_eq_nil_iff.1 unsubmitted)
  · omega

/-- The frames given back to their owners, and those left, are the ones that came back from the
transport and those that were not submitted. -/
theorem Serves.completions_append {rounds : Nat} {q q' : Backlog}
    {made : List (Buffer × Submission)} (h : Serves rounds q made q') :
    completions (made.flatMap calls) ++ q'.frames =
      made.map (·.2.buffer) ++ q.frames.drop made.length := by
  induction h with
  | ended | refused => rfl
  | empty _ none =>
    rw [none]
    rfl
  | @retired _ q _ buf rest answer made _ head taken _ ih =>
    rw [List.flatMap_cons, Backlog.completions_append, completions_calls_of_retires taken,
      List.append_assoc, ih, head]
    rfl
  | busy _ head =>
    rw [head]
    rfl

/-! ## Draining again and again -/

/-- Drains a queue several times, each time with callbacks of its own. -/
def drainEach : List (Callbacks σ) → Backlog × σ → Backlog × σ
  | [], st => st
  | cb :: cbs, st => drainEach cbs (tryDrain cb st.1 st.2).2

/-- Draining in terms of the calls that it makes. -/
theorem tryDrain_noted (leave : cb.LeaveQueue) (frames : List Buffer) (s : σ) (log : List Call) :
    ∃ made left t,
      Loop cb.noted (holding frames false, s, log) (made.countP (·.2.retires) + 1)
        (made.countP (·.2.retires)) (holding left false, t, log ++ made.flatMap calls) ∧
      tryDrain cb.noted (holding frames false) (s, log) =
        (made.countP (·.2.retires), holding left false, t, log ++ made.flatMap calls) ∧
      made.countP (·.2.retires) ≤ frames.length ∧
      Serves (frames.length + 1) (holding frames false) made (holding left false) ∧
      (cb.Returns → ∀ m ∈ made, m.2.buffer = m.1) := by
  obtain ⟨made, left, t, loop, serves, returned⟩ := exists_loop leave frames s log
  have few : made.countP (·.2.retires) ≤ frames.length :=
    Nat.le_trans List.countP_le_length serves.length_le
  exact ⟨made, left, t, loop, loop.drainAll_eq (Nat.succ_le_succ few), few, serves, returned⟩

/-- Nothing is lost over any number of drainings. -/
theorem drainEach_noted {cbs : List (Callbacks σ)} (leave : ∀ cb ∈ cbs, cb.LeaveQueue ∧ cb.Returns)
    (frames : List Buffer) (s : σ) (log : List Call) :
    ∃ left t made, drainEach (cbs.map Callbacks.noted) (holding frames false, s, log) =
        (holding left false, t, log ++ made) ∧ completions made ++ left = frames := by
  induction cbs generalizing frames s log with
  | nil => exact ⟨frames, s, [], by rw [List.append_nil]; rfl, rfl⟩
  | cons cb cbs ih =>
    obtain ⟨⟨leaves, returns⟩, others⟩ := List.forall_mem_cons.1 leave
    obtain ⟨made, left, t, -, drained, -, serves, returned⟩ := tryDrain_noted leaves frames s log
    obtain ⟨left', t', made', again, kept⟩ := ih others left t (log ++ made.flatMap calls)
    refine ⟨left', t', made.flatMap calls ++ made', ?_, ?_⟩
    · rw [List.map_cons, drainEach, drained, again, List.append_assoc]
    · have came : made.map (·.2.buffer) = made.map (·.1) :=
        List.map_congr_left fun m mem => returned returns m mem
      have first := serves.completions_append
      rw [came, serves.drained.inOrder] at first
      rw [completions_append, List.append_assoc, kept]
      exact first.trans (List.take_append_drop _ _)

/-- **The longest prefix.** Drain a queue of any frames, with callbacks that leave the queue alone
and any answers of the transport. The drain steps come to an end. There is one more of them than
frames are retired, and so at most one more than there are frames; the answer is the number of
frames retired. The frames are submitted in the order of the queue, and each is completed, once and
with the status of its answer, unless the transport is busy. At the first one for which it is busy
draining stops; that one is left in front, and behind it are the others in order, which were not
submitted. A transport that gives back what it is handed leaves all frames but those retired.

Over any number of drainings, each with callbacks of its own, the frames completed followed by the
frames left are those of the queue. -/
theorem drain_longest_prefix (frames : List Buffer) (s : σ) :
    (∀ cb : Callbacks σ, cb.LeaveQueue → ∃ made left t,
      let q := holding frames false
      let retired := made.countP (·.2.retires)
      tryDrain cb q s = (retired, holding left false, t) ∧
      Loop cb (q, s) (retired + 1) retired (holding left false, t) ∧ retired ≤ q.pending ∧
      tryDrain cb.noted q (s, []) = (retired, holding left false, t, made.flatMap calls) ∧
      Drained frames made left ∧ (cb.Returns → left = frames.drop retired)) ∧
    ∀ cbs : List (Callbacks σ), (∀ cb ∈ cbs, cb.LeaveQueue ∧ cb.Returns) →
      let result := drainEach (cbs.map Callbacks.noted) (holding frames false, s, [])
      completions result.2.2 ++ result.1.frames = frames := by
  constructor
  · intro cb leave
    obtain ⟨made, left, t, loop, drained, few, serves, returned⟩ :=
      tryDrain_noted leave frames s []
    have plain := loop.of_noted
    refine ⟨made, left, t, plain.drainAll_eq (Nat.succ_le_succ few), plain, few, drained,
      serves.drained, fun returns => serves.frames_eq_drop (returned returns)⟩
  · intro cbs leave result
    obtain ⟨left, t, made, run, kept⟩ := drainEach_noted leave frames s []
    rw [show result = _ from run]
    exact kept

/-- Callbacks that give the listed replies one after the other, and then accept every frame. -/
def scripted : Callbacks (List Reply) where
  submit buf q replies := ((replies.headD .ok).toSubmission buf, q, replies.tail)
  complete _ _ q replies := (q, replies)

theorem scripted_leaveQueue : scripted.LeaveQueue := ⟨fun _ _ _ => rfl, fun _ _ _ _ => rfl⟩

theorem scripted_returns : scripted.Returns := by
  intro buf q replies
  simp only [scripted]
  cases replies.headD .ok <;> rfl

/-- Of four frames the first is accepted and the second fails; the transport is busy for the third
and accepts it, with the fourth, when the queue is drained again. -/
theorem drain_longest_prefix_busy :
    let frames := [[1], [2], [3], [4]].map (Buffer.ofBytes .tx)
    let replies := [.ok, .fail "bus error", .busy]
    let twice := drainEach [scripted.noted, scripted.noted] (holding frames false, replies, [])
    (∃ made left t, tryDrain scripted (holding frames false) replies = (2, holding left false, t) ∧
      Drained frames made left ∧ left = frames.drop 2) ∧
      completions twice.2.2 ++ twice.1.frames = frames ∧ twice.1.frames = [] := by
  intro frames replies twice
  obtain ⟨single, several⟩ := drain_longest_prefix frames replies
  obtain ⟨made, left, t, drained, -, -, -, order, left_eq⟩ := single scripted scripted_leaveQueue
  have two : made.countP (·.2.retires) = 2 := by
    have count : (tryDrain scripted (holding frames false) replies).1 = 2 := by decide
    rwa [drained] at count
  have left_eq := left_eq scripted_returns
  rw [two] at drained left_eq
  refine ⟨⟨made, left, t, drained, order, left_eq⟩, several [scripted, scripted] ?_, by decide⟩
  intro cb mem
  simp only [List.mem_cons, List.not_mem_nil, or_false, or_self] at mem
  exact mem ▸ ⟨scripted_leaveQueue, scripted_returns⟩

end Airlink.Backlog
